import UnboundOS.Objects.ObjectTable
import UnboundOS.Sync.Slots

/-!
The object table of `objects/table.rs` as its clients share it. The methods are
written access by access: handle checks, the lock, loads and stores of single
fields, the drop of the guard. Between two stores the fields of a slot need not
agree, so the memory of a slot is a type of its own; `ObjectSlot` is what a
slot is whenever the lock is free. The result is that the methods, in every
interleaving, are the sequential `ObjectTable.step`.
-/

namespace UnboundOS.Objects

open Sync

/-- The fields of a slot, in whatever state a method has left them. -/
structure SlotCells where
  occupied : Bool
  generation : U32
  record : Option ObjectRecord

def ObjectSlot.cells (self : ObjectSlot) : SlotCells :=
  ⟨self.occupied, self.generation, self.record⟩

namespace SlotCells

/-- `ObjectSlot::clear`. -/
def clear : Code SlotCells Unit := do
  .store fun slot => { slot with occupied := false }
  .store fun slot => { slot with record := none }
  .store fun slot => { slot with generation := slot.generation + 1#32 }
  let generation ← .load SlotCells.generation
  if generation = 0#32 then .store fun slot => { slot with generation := 1#32 }

def fields : SlotFields SlotCells := ⟨SlotCells.occupied, SlotCells.generation⟩

/-- The body of the scan in `create`. -/
def create (objectType : ObjectType) (index : Nat) : Code SlotCells (Option ObjectHandle) := do
  let occupied ← .load SlotCells.occupied
  if occupied then return none
  else
    .store fun slot => { slot with occupied := true }
    .store fun slot => { slot with record := some (ObjectRecord.new objectType) }
    .load fun slot => some (ObjectHandle.new index slot.generation)

def getType : Code SlotCells (Option ObjectType) :=
  .load fun slot => slot.record.map ObjectRecord.objectType

/-- Assignment to `record.references`. -/
def setReferences (change : U32 → U32) (slot : SlotCells) : SlotCells :=
  { slot with record :=
      slot.record.map fun held => { held with references := change held.references } }

def retain : Code SlotCells Bool := do
  let record ← .load SlotCells.record
  match record with
  | some held =>
      if held.references = BitVec.allOnes 32 then return false
      else
        .store (setReferences (· + 1#32))
        return true
  | none => return false

def release : Code SlotCells Bool := do
  let record ← .load SlotCells.record
  match record with
  | some held =>
      if held.references = 0#32 then return false
      else
        .store (setReferences (· - 1#32))
        let shouldDestroy ← .load fun slot => slot.record.any fun held => held.references == 0#32
        if shouldDestroy then clear
        return true
  | none => return true

def destroy : Code SlotCells Bool := do
  clear
  return true

theorem exec_clear (slot : SlotCells) :
    clear.exec slot = some ((), ⟨false, nextGeneration slot.generation, none⟩) := by
  by_cases hwrap : slot.generation + 1#32 = 0#32 <;> simp [clear, nextGeneration, hwrap]

theorem exec_create_occupied {slot : ObjectSlot} (hslot : slot.isFree = false)
    (objectType : ObjectType) (index : Nat) :
    (create objectType index).exec slot.cells = some (none, slot.cells) := by
  simp only [ObjectSlot.isFree, Bool.not_eq_false'] at hslot
  simp [create, ObjectSlot.cells, hslot]

theorem exec_create_free {slot : ObjectSlot} (hslot : slot.isFree = true)
    (objectType : ObjectType) (index : Nat) :
    (create objectType index).exec slot.cells =
      some (some (ObjectHandle.new index slot.generation), (slot.occupy objectType).cells) := by
  simp only [ObjectSlot.isFree, Bool.not_eq_true'] at hslot
  simp [create, ObjectSlot.cells, ObjectSlot.occupy, hslot]

theorem exec_retain_max {slot : ObjectSlot} {held : ObjectRecord}
    (hrecord : slot.record = some held)
    (hmax : held.references = BitVec.allOnes 32) :
    retain.exec slot.cells = some (false, slot.cells) := by
  simp [retain, ObjectSlot.cells, hrecord, hmax]

theorem exec_retain {slot : ObjectSlot} {held : ObjectRecord} (hrecord : slot.record = some held)
    (hmax : held.references ≠ BitVec.allOnes 32) :
    retain.exec slot.cells = some (true,
      (slot.setReferences (held.references + 1#32)
        (ObjectTable.references_succ_ne_zero hmax)).cells) := by
  simp only [retain, ObjectSlot.cells, Code.exec_bind, Code.exec_load, Option.bind_some, hrecord,
    if_neg hmax, Code.exec_store, Code.exec_pure]
  simp [setReferences, ObjectSlot.setReferences, hrecord]

theorem exec_release_last {slot : ObjectSlot} {held : ObjectRecord}
    (hrecord : slot.record = some held)
    (hlast : held.references - 1#32 = 0#32) :
    release.exec slot.cells = some (true, slot.clear.cells) := by
  have hpositive := slot.references_ne_zero held hrecord
  simp [release, setReferences, ObjectSlot.cells, ObjectSlot.clear, hrecord, hpositive, hlast,
    exec_clear]

theorem exec_destroy (slot : ObjectSlot) :
    destroy.exec slot.cells = some (true, slot.clear.cells) := by
  simp [destroy, exec_clear, ObjectSlot.cells, ObjectSlot.clear]

theorem exec_release {slot : ObjectSlot} {held : ObjectRecord} (hrecord : slot.record = some held)
    (hlast : held.references - 1#32 ≠ 0#32) :
    release.exec slot.cells =
      some (true, (slot.setReferences (held.references - 1#32) hlast).cells) := by
  have hpositive := slot.references_ne_zero held hrecord
  simp [release, setReferences, ObjectSlot.cells, ObjectSlot.setReferences,
    hrecord, hpositive, hlast]

end SlotCells

/-- The memory behind the lock. -/
abbrev TableCells := Fin maxKernelObjects → SlotCells

def ObjectTable.cells (self : ObjectTable) : TableCells := fun index => (self.slots index).cells

theorem ObjectTable.cells_set (self : ObjectTable) (index : Fin maxKernelObjects)
    (slot : ObjectSlot) :
    (self.set index slot).cells = Function.update self.cells index slot.cells :=
  Function.comp_update ObjectSlot.cells self.slots index slot

theorem ObjectTable.set_self (self : ObjectTable) (index : Fin maxKernelObjects) :
    self.set index (self.slots index) = self :=
  congrArg ObjectTable.mk (Function.update_eq_self index self.slots)

theorem ObjectTable.create_eq (self : ObjectTable) (objectType : ObjectType) :
    self.create objectType =
      (firstFit fun index => (self.slots index).isFree).elim (none, self) fun index =>
        (some (ObjectHandle.new index.val (self.slots index).generation),
          self.set index ((self.slots index).occupy objectType)) := by
  unfold create
  cases hscan : firstFit fun index => (self.slots index).isFree with
  | none => rfl
  | some index => rfl

namespace SharedTable

variable {ρ : Type}

/-- What every method that takes a handle does before the rest of it. -/
def atSlot (refused : ρ) (handle : ObjectHandle) (rest : Code SlotCells ρ) :
    Code (SpinLock TableCells) ρ :=
  SlotCells.fields.atSlot refused handle.raw rest

def create (objectType : ObjectType) : Code (SpinLock TableCells) (Option ObjectHandle) :=
  SpinLock.withLock (.scanCells fun index => SlotCells.create objectType index.val)

def isValid (handle : ObjectHandle) : Code (SpinLock TableCells) Bool :=
  atSlot false handle (pure true)

def getType (handle : ObjectHandle) : Code (SpinLock TableCells) (Option ObjectType) :=
  atSlot none handle SlotCells.getType

def retain (handle : ObjectHandle) : Code (SpinLock TableCells) Bool :=
  atSlot false handle SlotCells.retain

def release (handle : ObjectHandle) : Code (SpinLock TableCells) Bool :=
  atSlot false handle SlotCells.release

def destroy (handle : ObjectHandle) : Code (SpinLock TableCells) Bool :=
  atSlot false handle SlotCells.destroy

def count : Code (SpinLock TableCells) Nat :=
  SpinLock.withLock (.countCells SlotCells.occupied)

/-- The code of a call. -/
def call : Registry.Op ObjectHandle ObjectType →
    Code (SpinLock TableCells) (Registry.Event ObjectHandle ObjectType)
  | .create objectType => .created objectType <$> create objectType
  | .isValid handle => .valid handle <$> isValid handle
  | .getType handle => .typed handle <$> getType handle
  | .retain handle => .retained handle <$> retain handle
  | .release handle => .released handle <$> release handle
  | .destroy handle => .destroyed handle <$> destroy handle
  | .count => .counted <$> count

theorem cells_tags (table : ObjectTable) : SlotCells.fields.Tags table.cells table.tags :=
  fun _ => ⟨rfl, rfl⟩

/-- A method on a slot implements its sequential counterpart if it does so on
the slots that answer to the handle. -/
theorem serves_atSlot {op : Registry.Op ObjectHandle ObjectType}
    {respond : ρ → Registry.Event ObjectHandle ObjectType} {refused : ρ} {handle : ObjectHandle}
    {rest : Code SlotCells ρ}
    (hdead : ∀ table : ObjectTable, table.lookup handle = none →
      table.step op = (respond refused, table))
    (hlive : ∀ (table : ObjectTable) (index : Fin maxKernelObjects),
      table.lookup handle = some index →
      ∃ result slot, rest.exec (table.slots index).cells = some (result, slot.cells) ∧
        table.step op = (respond result, table.set index slot)) :
    Serves ObjectTable.step ObjectTable.cells op (respond <$> atSlot refused handle rest) := by
  apply SlotFields.serves_atSlot cells_tags hdead
  intro table index hlookup
  obtain ⟨result, slot, hexec, hstep⟩ := hlive table index hlookup
  refine ⟨result, slot.cells, hexec, by rw [hstep], ?_⟩
  rw [hstep, ObjectTable.cells_set]

theorem serves_create (objectType : ObjectType) :
    Serves ObjectTable.step ObjectTable.cells (.create objectType) (call (.create objectType)) := by
  rw [call, create, SpinLock.map_withLock]
  refine .locked _ fun table => ?_
  have hscan := Code.exec_scanCells (fun index => (table.slots index).isFree)
    (fun index => ObjectHandle.new index.val (table.slots index).generation)
    (fun index => ((table.slots index).occupy objectType).cells)
    (fun index hslot => SlotCells.exec_create_occupied hslot objectType index.val)
    (fun index hslot => SlotCells.exec_create_free hslot objectType index.val)
  have hcells : (fun index => (table.slots index).cells) = table.cells := rfl
  rw [hcells] at hscan
  rw [Code.exec_map, hscan, ObjectTable.step, ObjectTable.create_eq]
  cases firstFit fun index => (table.slots index).isFree with
  | none => rfl
  | some index =>
      rw [Option.elim_some, Option.elim_some, ObjectTable.cells_set]
      rfl

theorem serves_count : Serves ObjectTable.step ObjectTable.cells .count (call .count) := by
  rw [call, count, SpinLock.map_withLock]
  refine .locked _ fun table => ?_
  rw [Code.exec_map, Code.exec_countCells]
  rfl

/-- Each method does, in one section or without the lock, what the sequential
table does. -/
theorem serves_call (op : Registry.Op ObjectHandle ObjectType) :
    Serves ObjectTable.step ObjectTable.cells op (call op) := by
  cases op with
  | create objectType => exact serves_create objectType
  | count => exact serves_count
  | isValid handle =>
      apply serves_atSlot
      · intro table hlookup
        simp [ObjectTable.step, ObjectTable.isValid, hlookup]
      · intro table index hlookup
        refine ⟨true, table.slots index, rfl, ?_⟩
        simp [ObjectTable.step, ObjectTable.isValid, hlookup, ObjectTable.set_self]
  | getType handle =>
      apply serves_atSlot
      · intro table hlookup
        simp [ObjectTable.step, ObjectTable.getType, hlookup]
      · intro table index hlookup
        refine ⟨_, table.slots index, rfl, ?_⟩
        simp [ObjectTable.step, ObjectTable.getType, hlookup, ObjectTable.set_self,
          ObjectSlot.cells]
  | retain handle =>
      apply serves_atSlot
      · intro table hlookup
        simp [ObjectTable.step, ObjectTable.retain, hlookup]
      · intro table index hlookup
        obtain ⟨hoccupied, _⟩ := ObjectTable.lookup_eq_some.mp hlookup
        obtain ⟨held, hrecord⟩ := ObjectSlot.record_of_occupied hoccupied
        by_cases hmax : held.references = BitVec.allOnes 32
        · refine ⟨false, table.slots index, SlotCells.exec_retain_max hrecord hmax, ?_⟩
          simp only [ObjectTable.step, ObjectTable.retain, hlookup, hrecord, dif_pos hmax,
            ObjectTable.set_self]
        · refine ⟨true, _, SlotCells.exec_retain hrecord hmax, ?_⟩
          simp only [ObjectTable.step, ObjectTable.retain, hlookup, hrecord, dif_neg hmax]
  | release handle =>
      apply serves_atSlot
      · intro table hlookup
        simp [ObjectTable.step, ObjectTable.release, hlookup]
      · intro table index hlookup
        obtain ⟨hoccupied, _⟩ := ObjectTable.lookup_eq_some.mp hlookup
        obtain ⟨held, hrecord⟩ := ObjectSlot.record_of_occupied hoccupied
        have hzero := (table.slots index).references_ne_zero held hrecord
        by_cases hlast : held.references - 1#32 = 0#32
        · refine ⟨true, _, SlotCells.exec_release_last hrecord hlast, ?_⟩
          simp only [ObjectTable.step, ObjectTable.release, hlookup, hrecord, if_neg hzero,
            dif_pos hlast]
        · refine ⟨true, _, SlotCells.exec_release hrecord hlast, ?_⟩
          simp only [ObjectTable.step, ObjectTable.release, hlookup, hrecord, if_neg hzero,
            dif_neg hlast]
  | destroy handle =>
      apply serves_atSlot
      · intro table hlookup
        simp [ObjectTable.step, ObjectTable.destroy, hlookup]
      · intro table index hlookup
        refine ⟨true, _, SlotCells.exec_destroy _, ?_⟩
        simp [ObjectTable.step, ObjectTable.destroy, hlookup]

/-- The table as it is shared. -/
def object : Guarded TableCells ObjectTable (Registry.Op ObjectHandle ObjectType)
    (Registry.Event ObjectHandle ObjectType) where
  body := call
  spec := ObjectTable.step
  image := ObjectTable.cells
  serves := serves_call

/-- Where an interleaving of calls on an empty table leads. -/
def run {ι : Type} [DecidableEq ι] (moves : List (Move ι (Registry.Op ObjectHandle ObjectType))) :=
  runAll (System.move call) (System.start (SpinLock.new ObjectTable.new.cells)) moves

/-- However the accesses of any number of threads interleave, the calls they
make are linearizable: there is an order of the calls, each placed between its
start and its end, in which the sequential table gives every answer that was
given; and whenever the lock is free, the memory is that sequential table. -/
theorem objectTable_linearizable {ι : Type} [DecidableEq ι]
    (moves : List (Move ι (Registry.Op ObjectHandle ObjectType))) :
    ∃ trace final table, Linearizes ObjectTable.step (fun _ => .idle) ObjectTable.new trace final
        table ∧
      visibleMarks trace = System.history (run moves).1 ∧
      ((run moves).2.shared.locked = false → (run moves).2.shared.data = table.cells) := by
  obtain ⟨trace, final, table, hlinearizes, hvisible, hrelated⟩ :=
    object.run_explained ObjectTable.new moves
  exact ⟨trace, final, table, hlinearizes, hvisible, hrelated.data_eq⟩

end SharedTable

end UnboundOS.Objects
