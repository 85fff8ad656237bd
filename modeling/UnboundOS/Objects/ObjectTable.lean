import UnboundOS.Base.Generation
import UnboundOS.Base.Registry
import UnboundOS.Base.Scan

/-!
The kernel object table of `objects/object.rs` and `objects/table.rs`. The
redundant fields of a slot are kept consistent by its type: a slot is occupied
exactly if it holds a record, a record in a slot has at least one reference,
and no generation is zero. What the table means is its `entry` function, from
handles to kind and reference count; every update of a slot is one update of
that function.
-/

namespace UnboundOS.Objects

inductive ObjectType where
  | process
  | thread
  | addressSpace
  | ipcEndpoint
  | file
  | device
  | event
deriving DecidableEq

structure ObjectHandle where
  raw : U64
deriving DecidableEq

namespace ObjectHandle

def invalid : ObjectHandle := ⟨0#64⟩

def new (index : Nat) (generation : U32) : ObjectHandle := ⟨packHandle index generation⟩

def index (self : ObjectHandle) : Nat := handleIndex self.raw

end ObjectHandle

structure ObjectRecord where
  objectType : ObjectType
  references : U32
deriving DecidableEq

def ObjectRecord.new (objectType : ObjectType) : ObjectRecord := ⟨objectType, 1#32⟩

structure ObjectSlot where
  occupied : Bool
  generation : U32
  record : Option ObjectRecord
  generation_ne_zero : generation ≠ 0#32
  occupied_eq : occupied = record.isSome
  references_ne_zero : ∀ held ∈ record, held.references ≠ 0#32
deriving DecidableEq

namespace ObjectSlot

def empty : ObjectSlot where
  occupied := false
  generation := 1#32
  record := none
  generation_ne_zero := firstGeneration_ne_zero
  occupied_eq := rfl
  references_ne_zero := by simp

def isFree (self : ObjectSlot) : Bool := !self.occupied

def clear (self : ObjectSlot) : ObjectSlot where
  occupied := false
  generation := nextGeneration self.generation
  record := none
  generation_ne_zero := nextGeneration_ne_zero _
  occupied_eq := rfl
  references_ne_zero := by simp

/-- `slot.occupied = true; slot.record = Some(ObjectRecord::new(object_type))`. -/
def occupy (self : ObjectSlot) (objectType : ObjectType) : ObjectSlot where
  occupied := true
  generation := self.generation
  record := some (ObjectRecord.new objectType)
  generation_ne_zero := self.generation_ne_zero
  occupied_eq := rfl
  references_ne_zero := by
    intro held hheld
    rw [← Option.some.inj hheld]
    exact (by decide : 1#32 ≠ 0#32)

/-- Assignment to `record.references` through `slot.record.as_mut()`. -/
def setReferences (self : ObjectSlot) (references : U32) (hreferences : references ≠ 0#32) :
    ObjectSlot where
  occupied := self.occupied
  generation := self.generation
  record := self.record.map (fun held => { held with references := references })
  generation_ne_zero := self.generation_ne_zero
  occupied_eq := by rw [self.occupied_eq, Option.isSome_map]
  references_ne_zero := by
    intro held hheld
    obtain ⟨_, _, rfl⟩ := Option.mem_map.mp hheld
    exact hreferences

def tag (self : ObjectSlot) : SlotTag := ⟨self.occupied, self.generation, self.generation_ne_zero⟩

theorem occupied_of_record {self : ObjectSlot} {held : ObjectRecord}
    (hrecord : self.record = some held) : self.occupied = true := by
  rw [self.occupied_eq, hrecord]
  rfl

theorem record_of_occupied {self : ObjectSlot} (hoccupied : self.occupied = true) :
    ∃ held, self.record = some held := by
  rw [self.occupied_eq] at hoccupied
  exact Option.isSome_iff_exists.mp hoccupied

end ObjectSlot

def maxKernelObjects : Nat := 64

theorem maxKernelObjects_le : maxKernelObjects ≤ 2 ^ 32 := by decide

structure ObjectTable where
  slots : Fin maxKernelObjects → ObjectSlot

namespace ObjectTable

def new : ObjectTable := ⟨fun _ => ObjectSlot.empty⟩

def set (self : ObjectTable) (index : Fin maxKernelObjects) (slot : ObjectSlot) : ObjectTable :=
  ⟨Function.update self.slots index slot⟩

def tags (self : ObjectTable) (index : Fin maxKernelObjects) : SlotTag := (self.slots index).tag

/-- The checks each operation makes before it touches a slot. -/
def lookup (self : ObjectTable) (handle : ObjectHandle) : Option (Fin maxKernelObjects) :=
  resolve self.tags handle.raw

def create (self : ObjectTable) (objectType : ObjectType) : Option ObjectHandle × ObjectTable :=
  match firstFit (fun index => (self.slots index).isFree) with
  | some index =>
      (some (ObjectHandle.new index.val (self.slots index).generation),
        self.set index ((self.slots index).occupy objectType))
  | none => (none, self)

def isValid (self : ObjectTable) (handle : ObjectHandle) : Bool := (self.lookup handle).isSome

def getType (self : ObjectTable) (handle : ObjectHandle) : Option ObjectType :=
  match self.lookup handle with
  | some index => (self.slots index).record.map ObjectRecord.objectType
  | none => none

theorem references_succ_ne_zero {references : U32} (hmax : references ≠ BitVec.allOnes 32) :
    references + 1#32 ≠ 0#32 := by
  intro hzero
  have hmod : (references.toNat + 1) % 2 ^ 32 = 0 := congrArg BitVec.toNat hzero
  have hlt := references.isLt
  apply hmax
  apply BitVec.eq_of_toNat_eq
  rw [BitVec.toNat_allOnes]
  omega

def retain (self : ObjectTable) (handle : ObjectHandle) : Bool × ObjectTable :=
  match self.lookup handle with
  | some index =>
      match (self.slots index).record with
      | some held =>
          if hmax : held.references = BitVec.allOnes 32 then (false, self)
          else
            (true, self.set index ((self.slots index).setReferences (held.references + 1#32)
              (references_succ_ne_zero hmax)))
      | none => (false, self)
  | none => (false, self)

def release (self : ObjectTable) (handle : ObjectHandle) : Bool × ObjectTable :=
  match self.lookup handle with
  | some index =>
      match (self.slots index).record with
      | some held =>
          if held.references = 0#32 then (false, self)
          else if hlast : held.references - 1#32 = 0#32 then
            (true, self.set index (self.slots index).clear)
          else
            (true, self.set index ((self.slots index).setReferences (held.references - 1#32) hlast))
      | none => (true, self)
  | none => (false, self)

def destroy (self : ObjectTable) (handle : ObjectHandle) : Bool × ObjectTable :=
  match self.lookup handle with
  | some index => (true, self.set index (self.slots index).clear)
  | none => (false, self)

def count (self : ObjectTable) : Nat :=
  (Finset.univ.filter (fun index => (self.slots index).occupied = true)).card

/-- One call, made under the table's lock. -/
def step (self : ObjectTable) :
    Registry.Op ObjectHandle ObjectType → Registry.Event ObjectHandle ObjectType × ObjectTable
  | .create objectType =>
      (.created objectType (self.create objectType).1, (self.create objectType).2)
  | .isValid handle => (.valid handle (self.isValid handle), self)
  | .getType handle => (.typed handle (self.getType handle), self)
  | .retain handle => (.retained handle (self.retain handle).1, (self.retain handle).2)
  | .release handle => (.released handle (self.release handle).1, (self.release handle).2)
  | .destroy handle => (.destroyed handle (self.destroy handle).1, (self.destroy handle).2)
  | .count => (.counted self.count, self)

/-- The handle a slot answers to. -/
def handleAt (self : ObjectTable) (index : Fin maxKernelObjects) : ObjectHandle :=
  ObjectHandle.new index.val (self.slots index).generation

theorem handleAt_injective (self : ObjectTable) : Function.Injective self.handleAt := by
  intro first second hsame
  have hraw : slotHandle self.tags first = slotHandle self.tags second :=
    congrArg ObjectHandle.raw hsame
  exact slotHandle_injective maxKernelObjects_le hraw

theorem lookup_eq_some {self : ObjectTable} {handle : ObjectHandle}
    {index : Fin maxKernelObjects} :
    self.lookup handle = some index ↔
      (self.slots index).occupied = true ∧ handle = self.handleAt index := by
  have hhandle : handle = self.handleAt index ↔ handle.raw = slotHandle self.tags index :=
    ⟨fun hsame => congrArg ObjectHandle.raw hsame, fun hraw => congrArg ObjectHandle.mk hraw⟩
  rw [lookup, resolve_eq_some maxKernelObjects_le, hhandle]
  rfl

/-- What a record tells a client. -/
def view (held : ObjectRecord) : ObjectType × Nat := (held.objectType, held.references.toNat)

def values (self : ObjectTable) (index : Fin maxKernelObjects) : Option (ObjectType × Nat) :=
  (self.slots index).record.map view

/-- The meaning of a table: kind and reference count of each live handle. -/
def entry (self : ObjectTable) (handle : ObjectHandle) : Option (ObjectType × Nat) :=
  valueOf self.tags self.values handle.raw

theorem entry_eq_some {self : ObjectTable} {handle : ObjectHandle} {value : ObjectType × Nat} :
    self.entry handle = some value ↔
      ∃ index held, (self.slots index).record = some held ∧ handle = self.handleAt index ∧
        view held = value := by
  rw [entry, valueOf_eq_some maxKernelObjects_le]
  constructor
  · rintro ⟨index, _, hraw, hvalue⟩
    obtain ⟨held, hrecord, hview⟩ := Option.map_eq_some_iff.mp hvalue
    exact ⟨index, held, hrecord, congrArg ObjectHandle.mk hraw, hview⟩
  · rintro ⟨index, held, hrecord, rfl, hview⟩
    exact ⟨index, ObjectSlot.occupied_of_record hrecord, rfl,
      Option.map_eq_some_iff.mpr ⟨held, hrecord, hview⟩⟩

/-- A handle is dead and no slot answers to it, or one slot does and holds a
record for it. -/
theorem lookup_cases (self : ObjectTable) (handle : ObjectHandle) :
    (self.lookup handle = none ∧ self.entry handle = none) ∨
    ∃ index held, self.lookup handle = some index ∧ handle = self.handleAt index ∧
      (self.slots index).record = some held ∧ self.entry handle = some (view held) := by
  cases hlookup : self.lookup handle with
  | none => exact Or.inl ⟨rfl, congrArg (Option.bind · self.values) hlookup⟩
  | some index =>
      obtain ⟨hoccupied, hhandle⟩ := lookup_eq_some.mp hlookup
      obtain ⟨held, hrecord⟩ := ObjectSlot.record_of_occupied hoccupied
      refine Or.inr ⟨index, held, rfl, hhandle, hrecord, ?_⟩
      exact entry_eq_some.mpr ⟨index, held, hrecord, hhandle, rfl⟩

theorem set_slots_self (self : ObjectTable) (index : Fin maxKernelObjects) (slot : ObjectSlot) :
    (self.set index slot).slots index = slot :=
  Function.update_self _ _ _

/-- A write that keeps the slot's handle is one update of the meaning. -/
theorem entry_set (self : ObjectTable) (index : Fin maxKernelObjects) {slot : ObjectSlot}
    (hkeep : slot.occupied = true → slot.generation = (self.slots index).generation) :
    (self.set index slot).entry =
      Function.update self.entry (self.handleAt index) (slot.record.map view) := by
  have hfree : slot.tag.occupied = false → slot.record.map view = none := by
    intro hoccupied
    change slot.occupied = false at hoccupied
    rw [slot.occupied_eq, Option.isSome_eq_false_iff, Option.isNone_iff_eq_none] at hoccupied
    rw [hoccupied]
    rfl
  have hinjective : Function.Injective ObjectHandle.raw :=
    fun _ _ hraw => congrArg ObjectHandle.mk hraw
  exact valueOf_write ObjectSlot.tag (fun held => held.record.map view) maxKernelObjects_le
    hinjective self.slots index rfl hkeep hfree

end ObjectTable

end UnboundOS.Objects
