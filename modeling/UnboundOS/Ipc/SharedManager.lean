import UnboundOS.Ipc.Delivery
import UnboundOS.Sync.Slots

/-!
The endpoint table of `ipc/endpoint.rs` as its clients share it: the lock of the
table around every call, the lock of an endpoint's queue inside it, and the
queue's ring written field by field. While a ring index is being advanced it is
past the end of the ring, and an index past the end would panic; a panic is
code that goes no further. The result is that in every interleaving the methods
are the sequential `IpcManager.step`, so no call panics, waits for a queue lock
or is answered out of order.
-/

namespace UnboundOS.Ipc

open Objects Sync

/-- The fields of a queue, in whatever state a method has left them. -/
structure QueueCells where
  messages : Fin ipcQueueCapacity → IpcMessage
  head : Nat
  tail : Nat
  count : Nat

def IpcQueue.cells (self : IpcQueue) : QueueCells :=
  ⟨self.messages, self.head.val, self.tail.val, self.count⟩

namespace QueueCells

def headField : Lens QueueCells Nat where
  get queue := queue.head
  set index queue := { queue with head := index }
  get_set _ _ := rfl
  set_get _ := rfl
  set_set _ _ _ := rfl

def tailField : Lens QueueCells Nat where
  get queue := queue.tail
  set index queue := { queue with tail := index }
  get_set _ _ := rfl
  set_get _ := rfl
  set_set _ _ _ := rfl

/-- `index += 1; if index == IPC_QUEUE_CAPACITY { index = 0; }`. -/
def advanceIndex : Code Nat Unit := do
  .store fun index => index + 1
  let index ← .load id
  if index = ipcQueueCapacity then .store fun _ => 0

/-- `messages[index]`. -/
def readMessage (index : QueueCells → Nat) : Code QueueCells IpcMessage :=
  .act (fun queue => index queue < ipcQueueCapacity) id fun queue =>
    pure (if hindex : index queue < ipcQueueCapacity then queue.messages ⟨index queue, hindex⟩
      else IpcMessage.empty)

/-- `messages[index] = message`. -/
def writeMessage (index : QueueCells → Nat) (message : IpcMessage) : Code QueueCells Unit :=
  .act (fun queue => index queue < ipcQueueCapacity)
    (fun queue =>
      if hindex : index queue < ipcQueueCapacity then
        { queue with messages := Function.update queue.messages ⟨index queue, hindex⟩ message }
      else queue)
    fun _ => pure ()

def isEmpty : Code QueueCells Bool := .load fun queue => queue.count == 0

def isFull : Code QueueCells Bool := .load fun queue => queue.count == ipcQueueCapacity

def len : Code QueueCells Nat := .load QueueCells.count

def send (message : IpcMessage) : Code QueueCells Bool := do
  let full ← isFull
  if full then return false
  else
    writeMessage QueueCells.tail message
    advanceIndex.zoom tailField
    .store fun queue => { queue with count := queue.count + 1 }
    return true

def receive : Code QueueCells (Option IpcMessage) := do
  let empty ← isEmpty
  if empty then return none
  else
    let message ← readMessage QueueCells.head
    writeMessage QueueCells.head IpcMessage.empty
    advanceIndex.zoom headField
    .store fun queue => { queue with count := queue.count - 1 }
    return some message

theorem exec_readMessage {index : QueueCells → Nat} {queue : QueueCells}
    {slot : Fin ipcQueueCapacity}
    (hindex : index queue = slot.val) :
    (readMessage index).exec queue = some (queue.messages slot, queue) := by
  have hlt : index queue < ipcQueueCapacity := by rw [hindex]; exact slot.isLt
  have hslot : (⟨index queue, hlt⟩ : Fin ipcQueueCapacity) = slot := Fin.ext hindex
  simp [readMessage, Code.exec, hlt, hslot]

theorem exec_writeMessage {index : QueueCells → Nat} {queue : QueueCells}
    {slot : Fin ipcQueueCapacity} (hindex : index queue = slot.val) (message : IpcMessage) :
    (writeMessage index message).exec queue =
      some ((), { queue with messages := Function.update queue.messages slot message }) := by
  have hlt : index queue < ipcQueueCapacity := by rw [hindex]; exact slot.isLt
  have hslot : (⟨index queue, hlt⟩ : Fin ipcQueueCapacity) = slot := Fin.ext hindex
  simp [writeMessage, Code.exec, hlt, hslot]

theorem exec_advanceIndex (slot : Fin ipcQueueCapacity) :
    advanceIndex.exec slot.val = some ((), (advance slot).val) := by
  by_cases hlast : slot.val + 1 = ipcQueueCapacity <;> simp [advanceIndex, advance, hlast]

theorem exec_send (queue : IpcQueue) (message : IpcMessage) :
    (send message).exec queue.cells =
      some ((queue.send message).1, (queue.send message).2.cells) := by
  have htail : queue.cells.tail = queue.tail.val := rfl
  by_cases hfull : queue.isFull
  · have hcells : (queue.cells.count == ipcQueueCapacity) = true := hfull
    simp [send, isFull, IpcQueue.send, hcells, hfull]
  · have hcells : (queue.cells.count == ipcQueueCapacity) = false := Bool.eq_false_iff.mpr hfull
    rw [IpcQueue.send, dif_neg hfull]
    simp only [send, isFull, Code.exec_bind, Code.exec_load, Option.bind_some, hcells,
      Bool.false_eq_true, if_false, exec_writeMessage htail, Code.exec_zoom]
    simp only [tailField, htail, exec_advanceIndex, Option.map_some, Option.bind_some,
      Code.exec_store, Code.exec_pure]
    rfl

theorem exec_receive (queue : IpcQueue) :
    receive.exec queue.cells = some (queue.receive.1, queue.receive.2.cells) := by
  have hhead : queue.cells.head = queue.head.val := rfl
  by_cases hempty : queue.isEmpty
  · have hcells : (queue.cells.count == 0) = true := hempty
    simp [receive, isEmpty, IpcQueue.receive, hcells, hempty]
  · have hcells : (queue.cells.count == 0) = false := Bool.eq_false_iff.mpr hempty
    rw [IpcQueue.receive, dif_neg hempty]
    simp only [receive, isEmpty, Code.exec_bind, Code.exec_load, Option.bind_some, hcells,
      Bool.false_eq_true, if_false, exec_readMessage hhead, exec_writeMessage hhead, Code.exec_zoom]
    simp only [headField, hhead, exec_advanceIndex, Option.map_some, Option.bind_some,
      Code.exec_store, Code.exec_pure]
    rfl

end QueueCells

/-- The fields of a slot; the queue is behind a lock of its own. -/
structure EndpointCells where
  occupied : Bool
  generation : U32
  queue : SpinLock QueueCells

/-- Between calls nobody holds a queue lock. -/
def IpcEndpointSlot.cells (self : IpcEndpointSlot) : EndpointCells :=
  ⟨self.occupied, self.generation, SpinLock.new self.queue.cells⟩

namespace EndpointCells

variable {ρ : Type}

def fields : SlotFields EndpointCells := ⟨EndpointCells.occupied, EndpointCells.generation⟩

def queueField : Lens EndpointCells (SpinLock QueueCells) where
  get slot := slot.queue
  set queue slot := { slot with queue := queue }
  get_set _ _ := rfl
  set_get _ := rfl
  set_set _ _ _ := rfl

/-- `slot.endpoint.queue.lock()` and a method on the queue. -/
def withQueue (body : Code QueueCells ρ) : Code EndpointCells ρ :=
  (SpinLock.withLock body).zoom queueField

/-- `IpcEndpointSlot::clear`. -/
def clear : Code EndpointCells Unit := do
  .store fun slot => { slot with occupied := false }
  .store fun slot => { slot with generation := slot.generation + 1#32 }
  let generation ← .load EndpointCells.generation
  if generation = 0#32 then .store fun slot => { slot with generation := 1#32 }

/-- The body of the scan in `create`. -/
def create (index : Nat) : Code EndpointCells (Option IpcHandle) := do
  let occupied ← .load EndpointCells.occupied
  if occupied then return none
  else
    .store fun slot => { slot with occupied := true }
    .load fun slot => some (IpcHandle.new index slot.generation)

def destroy : Code EndpointCells Bool := do
  let empty ← withQueue QueueCells.isEmpty
  if empty then
    clear
    return true
  else return false

theorem exec_withQueue {body : Code QueueCells ρ} {slot : IpcEndpointSlot} {queue : IpcQueue}
    {result : ρ} (hbody : body.exec slot.queue.cells = some (result, queue.cells)) :
    (withQueue body).exec slot.cells = some (result, (slot.withQueue queue).cells) := by
  rw [withQueue, Code.exec_zoom]
  simp only [queueField, IpcEndpointSlot.cells, SpinLock.new, SpinLock.exec_withLock hbody,
    Option.map_some, IpcEndpointSlot.withQueue]

theorem exec_clear (slot : IpcEndpointSlot) :
    clear.exec slot.cells = some ((), slot.clear.cells) := by
  by_cases hwrap : slot.generation + 1#32 = 0#32 <;>
    simp [clear, IpcEndpointSlot.cells, IpcEndpointSlot.clear, nextGeneration, hwrap]

theorem exec_create_occupied {slot : IpcEndpointSlot} (hslot : (!slot.occupied) = false)
    (index : Nat) : (create index).exec slot.cells = some (none, slot.cells) := by
  rw [Bool.not_eq_false'] at hslot
  simp [create, IpcEndpointSlot.cells, hslot]

theorem exec_create_free {slot : IpcEndpointSlot} (hslot : (!slot.occupied) = true)
    (index : Nat) :
    (create index).exec slot.cells =
      some (some (IpcHandle.new index slot.generation), slot.occupy.cells) := by
  rw [Bool.not_eq_true'] at hslot
  simp [create, IpcEndpointSlot.cells, IpcEndpointSlot.occupy, hslot]

theorem exec_destroy (slot : IpcEndpointSlot) :
    destroy.exec slot.cells =
      some (slot.queue.isEmpty, if slot.queue.isEmpty then slot.clear.cells else slot.cells) := by
  have hload : QueueCells.isEmpty.exec slot.queue.cells =
      some (slot.queue.isEmpty, slot.queue.cells) := rfl
  have hsame : (slot.withQueue slot.queue).cells = slot.cells := rfl
  rw [destroy, Code.exec_bind, exec_withQueue hload, hsame]
  cases slot.queue.isEmpty <;> simp [exec_clear]

end EndpointCells

/-- The memory behind the lock of the table. -/
abbrev ManagerCells := Fin maxIpcEndpoints → EndpointCells

namespace IpcManager

def cells (self : IpcManager) : ManagerCells := fun index => (self.endpoints index).cells

theorem cells_set (self : IpcManager) (index : Fin maxIpcEndpoints) (slot : IpcEndpointSlot) :
    (self.set index slot).cells = Function.update self.cells index slot.cells :=
  Function.comp_update IpcEndpointSlot.cells self.endpoints index slot

theorem cells_tags (self : IpcManager) : EndpointCells.fields.Tags self.cells self.tags :=
  fun _ => ⟨rfl, rfl⟩

theorem create_eq (self : IpcManager) :
    self.create =
      (firstFit fun index => !(self.endpoints index).occupied).elim (none, self) fun index =>
        (some (IpcHandle.new index.val (self.endpoints index).generation),
          self.set index (self.endpoints index).occupy) := by
  unfold create
  cases hscan : firstFit fun index => !(self.endpoints index).occupied with
  | none => rfl
  | some index => rfl

end IpcManager

namespace SharedManager

variable {ρ : Type}

/-- What every method that takes a handle does before the rest of it. -/
def atSlot (refused : ρ) (handle : IpcHandle) (rest : Code EndpointCells ρ) :
    Code (SpinLock ManagerCells) ρ :=
  EndpointCells.fields.atSlot refused handle.raw rest

def create : Code (SpinLock ManagerCells) (Option IpcHandle) :=
  SpinLock.withLock (.scanCells fun index => EndpointCells.create index.val)

def isValid (handle : IpcHandle) : Code (SpinLock ManagerCells) Bool :=
  atSlot false handle (pure true)

/-- The message is built before anything is checked. -/
def send (handle : IpcHandle) (sender : ObjectHandle) (bytes : List U8) :
    Code (SpinLock ManagerCells) Bool :=
  match IpcMessage.new sender bytes with
  | none => pure false
  | some message => atSlot false handle (EndpointCells.withQueue (QueueCells.send message))

def receive (handle : IpcHandle) : Code (SpinLock ManagerCells) (Option IpcMessage) :=
  atSlot none handle (EndpointCells.withQueue QueueCells.receive)

def queueLen (handle : IpcHandle) : Code (SpinLock ManagerCells) (Option Nat) :=
  atSlot none handle (some <$> EndpointCells.withQueue QueueCells.len)

def destroy (handle : IpcHandle) : Code (SpinLock ManagerCells) Bool :=
  atSlot false handle EndpointCells.destroy

def count : Code (SpinLock ManagerCells) Nat :=
  SpinLock.withLock (.countCells EndpointCells.occupied)

/-- The code of a call. -/
def call : IpcOp → Code (SpinLock ManagerCells) IpcEvent
  | .create => .created <$> create
  | .isValid handle => .valid handle <$> isValid handle
  | .send handle sender bytes => .sent handle sender bytes <$> send handle sender bytes
  | .receive handle => .received handle <$> receive handle
  | .queueLen handle => .length handle <$> queueLen handle
  | .destroy handle => .destroyed handle <$> destroy handle
  | .count => .counted <$> count

/-- A method on a slot implements its sequential counterpart if it does so on
the slots that answer to the handle. -/
theorem serves_atSlot {op : IpcOp} {respond : ρ → IpcEvent} {refused : ρ} {handle : IpcHandle}
    {rest : Code EndpointCells ρ}
    (hdead : ∀ manager : IpcManager, manager.lookup handle = none →
      manager.step op = (respond refused, manager))
    (hlive : ∀ (manager : IpcManager) (index : Fin maxIpcEndpoints),
      manager.lookup handle = some index →
      ∃ result slot, rest.exec (manager.endpoints index).cells = some (result, slot.cells) ∧
        manager.step op = (respond result, manager.set index slot)) :
    Serves IpcManager.step IpcManager.cells op (respond <$> atSlot refused handle rest) := by
  apply SlotFields.serves_atSlot IpcManager.cells_tags hdead
  intro manager index hlookup
  obtain ⟨result, slot, hexec, hstep⟩ := hlive manager index hlookup
  refine ⟨result, slot.cells, hexec, by rw [hstep], ?_⟩
  rw [hstep, IpcManager.cells_set]

theorem serves_create : Serves IpcManager.step IpcManager.cells .create (call .create) := by
  rw [call, create, SpinLock.map_withLock]
  refine .locked _ fun manager => ?_
  have hscan := Code.exec_scanCells (fun index => !(manager.endpoints index).occupied)
    (fun index => IpcHandle.new index.val (manager.endpoints index).generation)
    (fun index => (manager.endpoints index).occupy.cells)
    (fun index hslot => EndpointCells.exec_create_occupied hslot index.val)
    (fun index hslot => EndpointCells.exec_create_free hslot index.val)
  have hcells : (fun index => (manager.endpoints index).cells) = manager.cells := rfl
  rw [hcells] at hscan
  rw [Code.exec_map, hscan, IpcManager.step, IpcManager.create_eq]
  cases firstFit fun index => !(manager.endpoints index).occupied with
  | none => rfl
  | some index =>
      rw [Option.elim_some, Option.elim_some, IpcManager.cells_set]
      rfl

theorem serves_count : Serves IpcManager.step IpcManager.cells .count (call .count) := by
  rw [call, count, SpinLock.map_withLock]
  refine .locked _ fun manager => ?_
  rw [Code.exec_map, Code.exec_countCells]
  rfl

theorem serves_send (handle : IpcHandle) (sender : ObjectHandle) (bytes : List U8) :
    Serves IpcManager.step IpcManager.cells (.send handle sender bytes)
      (call (.send handle sender bytes)) := by
  rw [call, send]
  cases hnew : IpcMessage.new sender bytes with
  | none =>
      refine .unlocked (IpcEvent.sent handle sender bytes false) fun manager => ?_
      simp [IpcManager.step, IpcManager.send, hnew]
  | some message =>
      apply serves_atSlot
      · intro manager hlookup
        simp [IpcManager.step, IpcManager.send, hnew, hlookup]
      · intro manager index hlookup
        refine ⟨_, _, EndpointCells.exec_withQueue (QueueCells.exec_send _ message), ?_⟩
        simp [IpcManager.step, IpcManager.send, hnew, hlookup]

/-- Each method does, in one section or without the lock, what the sequential
table does. -/
theorem serves_call (op : IpcOp) : Serves IpcManager.step IpcManager.cells op (call op) := by
  cases op with
  | create => exact serves_create
  | count => exact serves_count
  | send handle sender bytes => exact serves_send handle sender bytes
  | isValid handle =>
      apply serves_atSlot
      · intro manager hlookup
        simp [IpcManager.step, IpcManager.isValid, hlookup]
      · intro manager index hlookup
        refine ⟨true, (manager.endpoints index).withQueue (manager.endpoints index).queue, rfl, ?_⟩
        simp [IpcManager.step, IpcManager.isValid, hlookup, IpcManager.set_same_queue]
  | receive handle =>
      apply serves_atSlot
      · intro manager hlookup
        simp [IpcManager.step, IpcManager.receive, hlookup]
      · intro manager index hlookup
        refine ⟨_, _, EndpointCells.exec_withQueue (QueueCells.exec_receive _), ?_⟩
        simp [IpcManager.step, IpcManager.receive, hlookup]
  | queueLen handle =>
      apply serves_atSlot
      · intro manager hlookup
        simp [IpcManager.step, IpcManager.queueLen, hlookup]
      · intro manager index hlookup
        have hlen : QueueCells.len.exec (manager.endpoints index).queue.cells =
          some ((manager.endpoints index).queue.len, (manager.endpoints index).queue.cells) := rfl
        refine ⟨some (manager.endpoints index).queue.len,
          (manager.endpoints index).withQueue (manager.endpoints index).queue, ?_, ?_⟩
        · rw [Code.exec_map, EndpointCells.exec_withQueue hlen]
          rfl
        · simp [IpcManager.step, IpcManager.queueLen, hlookup, IpcManager.set_same_queue]
  | destroy handle =>
      apply serves_atSlot
      · intro manager hlookup
        simp [IpcManager.step, IpcManager.destroy, hlookup]
      · intro manager index hlookup
        have hexec := EndpointCells.exec_destroy (manager.endpoints index)
        cases hempty : (manager.endpoints index).queue.isEmpty with
        | true =>
            rw [hempty] at hexec
            refine ⟨true, (manager.endpoints index).clear, hexec, ?_⟩
            simp [IpcManager.step, IpcManager.destroy, hlookup, hempty]
        | false =>
            rw [hempty] at hexec
            refine ⟨false, (manager.endpoints index).withQueue (manager.endpoints index).queue,
              hexec, ?_⟩
            simp [IpcManager.step, IpcManager.destroy, hlookup, hempty,
              IpcManager.set_same_queue]

/-- The table as it is shared. -/
def object : Guarded ManagerCells IpcManager IpcOp IpcEvent where
  body := call
  spec := IpcManager.step
  image := IpcManager.cells
  serves := serves_call

section Runs

variable {ι : Type} [DecidableEq ι]

/-- Where an interleaving of calls on a new table leads. -/
def run (moves : List (Move ι IpcOp)) :=
  runAll (System.move call) (System.start (SpinLock.new IpcManager.new.cells)) moves

/-- Only `create` answers that an endpoint was created. -/
theorem created_of_step {manager : IpcManager} {op : IpcOp} {handle : IpcHandle}
    (hcreated : (manager.step op).1 = .created (some handle)) :
    op = .create ∧ manager.create.1 = some handle := by
  cases op with
  | create =>
      refine ⟨rfl, ?_⟩
      simpa [IpcManager.step] using hcreated
  | _ => cases hcreated

/-- In a sequential run, what was received at an endpoint since it was created
and what still waits there is what was sent, in order. -/
theorem delivers_since_created {ops : List (IpcOp × IpcEvent)} {manager : IpcManager}
    (hlegal : runAll IpcManager.step IpcManager.new (ops.map Prod.fst) =
      (ops.map Prod.snd, manager)) {before after : List IpcEvent} {handle : IpcHandle}
    (hsplit : ops.map Prod.snd = before ++ .created (some handle) :: after)
    (hlives : .destroyed handle true ∉ after) :
    ∃ queue, manager.queued handle = some queue ∧
      Delivers (after.flatMap (IpcEvent.receivedFrom handle) ++ queue)
        (after.flatMap (IpcEvent.sentTo handle)) := by
  obtain ⟨earlier, rest, rfl, hbefore, hrest⟩ := List.map_eq_append_iff.mp hsplit
  obtain ⟨entry, later, rfl, hentry, hafter⟩ := List.map_eq_cons_iff.mp hrest
  subst hbefore hafter
  rw [List.map_append, List.map_cons, runAll_append, runAll_cons, List.map_append,
    List.map_cons] at hlegal
  obtain ⟨hresults, hmanager⟩ := Prod.mk.inj hlegal
  have hlength : (runAll IpcManager.step IpcManager.new (earlier.map Prod.fst)).1.length =
      (earlier.map Prod.snd).length := by
    rw [length_runAll, List.length_map, List.length_map]
  obtain ⟨hhead, htail⟩ := List.cons.inj (List.append_inj hresults hlength).2
  obtain ⟨hop, hcreated⟩ := created_of_step (hhead.trans hentry)
  rw [hop] at htail hmanager
  have hempty := IpcManager.create_queued (IpcManager.run_clean (earlier.map Prod.fst)) hcreated
  rw [← htail] at hlives ⊢
  obtain ⟨queue, accepted, hqueued, hconserved, hdelivers⟩ :=
    IpcManager.run_conserves hempty (later.map Prod.fst) hlives
  rw [List.nil_append] at hconserved
  refine ⟨queue, by rw [← hmanager]; exact hqueued, ?_⟩
  rw [← hconserved] at hdelivers
  exact hdelivers

/-- However the accesses of any number of threads interleave, the calls they
make are linearizable, and whenever the lock of the table is free the memory is
the sequential table with every queue lock free. So every message sent to an
endpoint since it was created has been received exactly once, in order and by
whichever thread asked, or still waits there. -/
theorem ipc_linearizable_exactly_once (moves : List (Move ι IpcOp)) :
    ∃ trace final manager,
      Linearizes IpcManager.step (fun _ => .idle) IpcManager.new trace final manager ∧
      visibleMarks trace = System.history (run moves).1 ∧
      ((run moves).2.shared.locked = false → (run moves).2.shared.data = manager.cells) ∧
      ∀ handle before after,
        (commits trace).map Prod.snd = before ++ .created (some handle) :: after →
        .destroyed handle true ∉ after →
        ∃ queue, manager.queued handle = some queue ∧
          Delivers (after.flatMap (IpcEvent.receivedFrom handle) ++ queue)
            (after.flatMap (IpcEvent.sentTo handle)) := by
  obtain ⟨trace, final, manager, hlinearizes, hvisible, hrelated⟩ :=
    object.run_explained IpcManager.new moves
  refine ⟨trace, final, manager, hlinearizes, hvisible, hrelated.data_eq, ?_⟩
  intro handle before after hsplit hlives
  exact delivers_since_created hlinearizes.legal hsplit hlives

/-- The nested locks never deadlock: from wherever an interleaving is, the calls
in progress can all be finished without a new one being made. -/
theorem ipc_calls_complete (moves : List (Move ι IpcOp)) :
    ∃ later : List ι, ∀ thread,
      (run (moves ++ later.map .resume)).2.threads thread = .idle :=
  object.run_completes IpcManager.new moves

end Runs

end SharedManager

end UnboundOS.Ipc
