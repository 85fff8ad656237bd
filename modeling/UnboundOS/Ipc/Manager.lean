import UnboundOS.Base.Scan
import UnboundOS.Ipc.Queue

/-!
The endpoint table of `ipc/endpoint.rs` and its runs. Each call holds the table
lock from its handle check to its end, so an interleaving of clients is a
sequence of calls. The meaning of a table is `queued`, from handles to the
messages waiting there. Creating an endpoint does not reset its queue: that a
new endpoint is empty rests on `destroy` refusing endpoints with messages, and
is an invariant of runs.
-/

namespace UnboundOS.Ipc

open Objects

structure IpcHandle where
  raw : U64
deriving DecidableEq

namespace IpcHandle

def invalid : IpcHandle := ⟨0#64⟩

def new (index : Nat) (generation : U32) : IpcHandle := ⟨packHandle index generation⟩

def index (self : IpcHandle) : Nat := handleIndex self.raw

end IpcHandle

structure IpcEndpointSlot where
  occupied : Bool
  generation : U32
  queue : IpcQueue
  generation_ne_zero : generation ≠ 0#32

namespace IpcEndpointSlot

def empty : IpcEndpointSlot where
  occupied := false
  generation := 1#32
  queue := IpcQueue.new
  generation_ne_zero := firstGeneration_ne_zero

def clear (self : IpcEndpointSlot) : IpcEndpointSlot where
  occupied := false
  generation := nextGeneration self.generation
  queue := self.queue
  generation_ne_zero := nextGeneration_ne_zero _

/-- `slot.occupied = true`; the queue is left as it is. -/
def occupy (self : IpcEndpointSlot) : IpcEndpointSlot :=
  { self with occupied := true }

/-- An operation on `slot.endpoint.queue`. -/
def withQueue (self : IpcEndpointSlot) (queue : IpcQueue) : IpcEndpointSlot :=
  { self with queue := queue }

def tag (self : IpcEndpointSlot) : SlotTag :=
  ⟨self.occupied, self.generation, self.generation_ne_zero⟩

/-- What an occupied slot means to its clients. -/
def value (self : IpcEndpointSlot) : Option (List IpcMessage) :=
  if self.occupied then some self.queue.contents else none

end IpcEndpointSlot

def maxIpcEndpoints : Nat := 16

theorem maxIpcEndpoints_le : maxIpcEndpoints ≤ 2 ^ 32 := by decide

structure IpcManager where
  endpoints : Fin maxIpcEndpoints → IpcEndpointSlot

inductive IpcOp where
  | create
  | isValid (handle : IpcHandle)
  | send (handle : IpcHandle) (sender : ObjectHandle) (bytes : List U8)
  | receive (handle : IpcHandle)
  | queueLen (handle : IpcHandle)
  | destroy (handle : IpcHandle)
  | count

inductive IpcEvent where
  | created (result : Option IpcHandle)
  | valid (handle : IpcHandle) (result : Bool)
  | sent (handle : IpcHandle) (sender : ObjectHandle) (bytes : List U8) (result : Bool)
  | received (handle : IpcHandle) (result : Option IpcMessage)
  | length (handle : IpcHandle) (result : Option Nat)
  | destroyed (handle : IpcHandle) (result : Bool)
  | counted (result : Nat)
deriving DecidableEq

/-- The handle an event is about. -/
def IpcEvent.target : IpcEvent → Option IpcHandle
  | .created result => result
  | .valid handle _ => some handle
  | .sent handle _ _ _ => some handle
  | .received handle _ => some handle
  | .length handle _ => some handle
  | .destroyed handle _ => some handle
  | .counted _ => none

namespace IpcManager

def new : IpcManager := ⟨fun _ => IpcEndpointSlot.empty⟩

def set (self : IpcManager) (index : Fin maxIpcEndpoints) (slot : IpcEndpointSlot) : IpcManager :=
  ⟨Function.update self.endpoints index slot⟩

def tags (self : IpcManager) (index : Fin maxIpcEndpoints) : SlotTag := (self.endpoints index).tag

/-- The checks each operation makes before it touches a slot. -/
def lookup (self : IpcManager) (handle : IpcHandle) : Option (Fin maxIpcEndpoints) :=
  resolve self.tags handle.raw

def create (self : IpcManager) : Option IpcHandle × IpcManager :=
  match firstFit (fun index => !(self.endpoints index).occupied) with
  | some index =>
      (some (IpcHandle.new index.val (self.endpoints index).generation),
        self.set index (self.endpoints index).occupy)
  | none => (none, self)

def isValid (self : IpcManager) (handle : IpcHandle) : Bool := (self.lookup handle).isSome

def send (self : IpcManager) (handle : IpcHandle) (sender : ObjectHandle) (bytes : List U8) :
    Bool × IpcManager :=
  match IpcMessage.new sender bytes with
  | none => (false, self)
  | some message =>
      match self.lookup handle with
      | none => (false, self)
      | some index =>
          let (result, queue) := (self.endpoints index).queue.send message
          (result, self.set index ((self.endpoints index).withQueue queue))

def receive (self : IpcManager) (handle : IpcHandle) : Option IpcMessage × IpcManager :=
  match self.lookup handle with
  | none => (none, self)
  | some index =>
      let (result, queue) := (self.endpoints index).queue.receive
      (result, self.set index ((self.endpoints index).withQueue queue))

def queueLen (self : IpcManager) (handle : IpcHandle) : Option Nat :=
  match self.lookup handle with
  | none => none
  | some index => some (self.endpoints index).queue.len

def destroy (self : IpcManager) (handle : IpcHandle) : Bool × IpcManager :=
  match self.lookup handle with
  | none => (false, self)
  | some index =>
      if !(self.endpoints index).queue.isEmpty then (false, self)
      else (true, self.set index (self.endpoints index).clear)

def count (self : IpcManager) : Nat :=
  (Finset.univ.filter (fun index => (self.endpoints index).occupied = true)).card

/-- One call, made under the table's lock. -/
def step (self : IpcManager) : IpcOp → IpcEvent × IpcManager
  | .create => (.created self.create.1, self.create.2)
  | .isValid handle => (.valid handle (self.isValid handle), self)
  | .send handle sender bytes =>
      (.sent handle sender bytes (self.send handle sender bytes).1,
        (self.send handle sender bytes).2)
  | .receive handle => (.received handle (self.receive handle).1, (self.receive handle).2)
  | .queueLen handle => (.length handle (self.queueLen handle), self)
  | .destroy handle => (.destroyed handle (self.destroy handle).1, (self.destroy handle).2)
  | .count => (.counted self.count, self)

/-- The handle a slot answers to. -/
def handleAt (self : IpcManager) (index : Fin maxIpcEndpoints) : IpcHandle :=
  IpcHandle.new index.val (self.endpoints index).generation

theorem lookup_eq_some {self : IpcManager} {handle : IpcHandle} {index : Fin maxIpcEndpoints} :
    self.lookup handle = some index ↔
      (self.endpoints index).occupied = true ∧ handle = self.handleAt index := by
  have hhandle : handle = self.handleAt index ↔ handle.raw = slotHandle self.tags index :=
    ⟨fun hsame => congrArg IpcHandle.raw hsame, fun hraw => congrArg IpcHandle.mk hraw⟩
  rw [lookup, resolve_eq_some maxIpcEndpoints_le, hhandle]
  rfl

theorem lookup_of_free {self : IpcManager} {index : Fin maxIpcEndpoints}
    (hfree : (self.endpoints index).occupied = false) : self.lookup (self.handleAt index) = none :=
  resolve_slotHandle_free maxIpcEndpoints_le hfree

/-- The meaning of a table: the messages waiting at each live handle. -/
def queued (self : IpcManager) (handle : IpcHandle) : Option (List IpcMessage) :=
  valueOf self.tags (fun index => (self.endpoints index).value) handle.raw

/-- A handle is dead and no slot answers to it, or one slot does and holds its
queue. -/
theorem lookup_cases (self : IpcManager) (handle : IpcHandle) :
    (self.lookup handle = none ∧ self.queued handle = none) ∨
    ∃ index, self.lookup handle = some index ∧ handle = self.handleAt index ∧
      (self.endpoints index).occupied = true ∧
      self.queued handle = some (self.endpoints index).queue.contents := by
  cases hlookup : self.lookup handle with
  | none => exact Or.inl ⟨rfl, congrArg (Option.bind · _) hlookup⟩
  | some index =>
      obtain ⟨hoccupied, hhandle⟩ := lookup_eq_some.mp hlookup
      refine Or.inr ⟨index, rfl, hhandle, hoccupied, ?_⟩
      have hvalue : self.queued handle = (self.endpoints index).value :=
        congrArg (Option.bind · _) hlookup
      rw [hvalue, IpcEndpointSlot.value, if_pos hoccupied]

theorem set_endpoints_self (self : IpcManager) (index : Fin maxIpcEndpoints)
    (slot : IpcEndpointSlot) : (self.set index slot).endpoints index = slot :=
  Function.update_self _ _ _

theorem set_endpoints_other {self : IpcManager} {index other : Fin maxIpcEndpoints}
    (hother : other ≠ index) (slot : IpcEndpointSlot) :
    (self.set index slot).endpoints other = self.endpoints other :=
  Function.update_of_ne hother _ _

/-- A write that keeps the slot's handle is one update of the meaning. -/
theorem queued_set (self : IpcManager) (index : Fin maxIpcEndpoints) {slot : IpcEndpointSlot}
    (hkeep : slot.occupied = true → slot.generation = (self.endpoints index).generation) :
    (self.set index slot).queued =
      Function.update self.queued (self.handleAt index) slot.value := by
  have hfree : slot.tag.occupied = false → slot.value = none := by
    intro hoccupied
    exact if_neg (fun htrue => Bool.false_ne_true (hoccupied.symm.trans htrue))
  have hinjective : Function.Injective IpcHandle.raw := fun _ _ hraw => congrArg IpcHandle.mk hraw
  exact valueOf_write IpcEndpointSlot.tag IpcEndpointSlot.value maxIpcEndpoints_le hinjective
    self.endpoints index rfl hkeep hfree

end IpcManager

end UnboundOS.Ipc
