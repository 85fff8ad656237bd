import UnboundOS.Ipc.Manager

/-!
Delivery over whole runs of the endpoint table. Between the creation of an
endpoint and its destruction, what was received followed by what still waits
is, message by message, what was sent.
-/

namespace UnboundOS.Ipc

open Objects

namespace IpcManager

theorem create_cases (self : IpcManager) :
    (∃ index, (self.endpoints index).occupied = false ∧ self.create =
      (some (self.handleAt index), self.set index (self.endpoints index).occupy)) ∨
    ((∀ index, (self.endpoints index).occupied = true) ∧ self.create = (none, self)) := by
  unfold create
  cases hscan : firstFit (fun index => !(self.endpoints index).occupied) with
  | some index =>
      have hfree : (!(self.endpoints index).occupied) = true := firstFit_sat hscan
      exact Or.inl ⟨index, by simpa using hfree, rfl⟩
  | none =>
      have hnone (index : Fin maxIpcEndpoints) : (!(self.endpoints index).occupied) = false :=
        firstFit_eq_none.mp hscan index
      exact Or.inr ⟨fun index => by simpa using hnone index, rfl⟩

/-- Writing back an unchanged queue is no write. -/
theorem set_same_queue (self : IpcManager) (index : Fin maxIpcEndpoints) :
    self.set index ((self.endpoints index).withQueue (self.endpoints index).queue) = self :=
  congrArg IpcManager.mk (Function.update_eq_self index self.endpoints)

theorem send_cases (self : IpcManager) (handle : IpcHandle) (sender : ObjectHandle)
    (bytes : List U8) :
    ((self.queued handle = none ∨ ipcMessageSize < bytes.length) ∧
      self.send handle sender bytes = (false, self)) ∨
    ∃ index message, handle = self.handleAt index ∧ (self.endpoints index).occupied = true ∧
      self.queued handle = some (self.endpoints index).queue.contents ∧
      bytes.length ≤ ipcMessageSize ∧ message.Carries sender bytes ∧
      (((self.endpoints index).queue.contents.length = ipcQueueCapacity ∧
          self.send handle sender bytes = (false, self)) ∨
        ∃ queue, (self.endpoints index).queue.contents.length < ipcQueueCapacity ∧
          queue.contents = (self.endpoints index).queue.contents ++ [message] ∧
          self.send handle sender bytes =
            (true, self.set index ((self.endpoints index).withQueue queue))) := by
  cases hnew : IpcMessage.new sender bytes with
  | none => exact Or.inl ⟨Or.inr (IpcMessage.new_eq_none.mp hnew), by simp only [send, hnew]⟩
  | some message =>
      have hsize : bytes.length ≤ ipcMessageSize := by
        by_contra hlarge
        rw [IpcMessage.new_eq_none.mpr (Nat.lt_of_not_le hlarge)] at hnew
        cases hnew
      rcases self.lookup_cases handle with ⟨hlookup, hqueued⟩ |
        ⟨index, hlookup, hhandle, hoccupied, hqueued⟩
      · exact Or.inl ⟨Or.inl hqueued, by simp only [send, hnew, hlookup]⟩
      · refine Or.inr ⟨index, message, hhandle, hoccupied, hqueued, hsize,
          IpcMessage.new_carries hnew, ?_⟩
        rcases (self.endpoints index).queue.send_cases message with ⟨hfull, hsend⟩ |
          ⟨queue, hroom, hsend, hcontents⟩
        · refine Or.inl ⟨hfull, ?_⟩
          simp only [send, hnew, hlookup, hsend, set_same_queue]
        · refine Or.inr ⟨queue, hroom, hcontents, ?_⟩
          simp only [send, hnew, hlookup, hsend]

theorem receive_cases (self : IpcManager) (handle : IpcHandle) :
    (self.queued handle = none ∧ self.receive handle = (none, self)) ∨
    ∃ index, handle = self.handleAt index ∧ (self.endpoints index).occupied = true ∧
      self.queued handle = some (self.endpoints index).queue.contents ∧
      (((self.endpoints index).queue.contents = [] ∧ self.receive handle = (none, self)) ∨
        ∃ message queue, (self.endpoints index).queue.contents = message :: queue.contents ∧
          self.receive handle =
            (some message, self.set index ((self.endpoints index).withQueue queue))) := by
  rcases self.lookup_cases handle with ⟨hlookup, hqueued⟩ |
    ⟨index, hlookup, hhandle, hoccupied, hqueued⟩
  · exact Or.inl ⟨hqueued, by simp only [receive, hlookup]⟩
  · refine Or.inr ⟨index, hhandle, hoccupied, hqueued, ?_⟩
    rcases (self.endpoints index).queue.receive_cases with ⟨hempty, hreceive⟩ |
      ⟨message, queue, hreceive, hcontents⟩
    · exact Or.inl ⟨hempty, by simp only [receive, hlookup, hreceive, set_same_queue]⟩
    · exact Or.inr ⟨message, queue, hcontents, by simp only [receive, hlookup, hreceive]⟩

theorem destroy_cases (self : IpcManager) (handle : IpcHandle) :
    (self.queued handle = none ∧ self.destroy handle = (false, self)) ∨
    ∃ index, handle = self.handleAt index ∧ (self.endpoints index).occupied = true ∧
      self.queued handle = some (self.endpoints index).queue.contents ∧
      (((self.endpoints index).queue.contents ≠ [] ∧ self.destroy handle = (false, self)) ∨
        ((self.endpoints index).queue.contents = [] ∧
          self.destroy handle = (true, self.set index (self.endpoints index).clear))) := by
  rcases self.lookup_cases handle with ⟨hlookup, hqueued⟩ |
    ⟨index, hlookup, hhandle, hoccupied, hqueued⟩
  · exact Or.inl ⟨hqueued, by simp only [destroy, hlookup]⟩
  · refine Or.inr ⟨index, hhandle, hoccupied, hqueued, ?_⟩
    rw [ne_eq, IpcQueue.contents_eq_nil]
    by_cases hempty : (self.endpoints index).queue.count = 0
    · refine Or.inr ⟨hempty, ?_⟩
      simp [destroy, hlookup, IpcQueue.isEmpty, hempty]
    · refine Or.inl ⟨hempty, ?_⟩
      simp [destroy, hlookup, IpcQueue.isEmpty, hempty]

/-- All a call can do to the table: nothing, or one write that follows the
discipline of slot tags and vacates a slot only with an empty queue. -/
theorem step_writes (self : IpcManager) (op : IpcOp) :
    (self.step op).2 = self ∨
    ∃ index slot, (self.step op).2 = self.set index slot ∧
      SlotTag.Step (self.tags index) slot.tag ∧
      (slot.occupied = false → slot.queue.contents = []) := by
  cases op with
  | create =>
      rcases self.create_cases with ⟨index, _, hcreate⟩ | ⟨_, hcreate⟩
      · refine Or.inr ⟨index, (self.endpoints index).occupy, ?_,
          .keep rfl (fun _ => rfl), fun hfree => ?_⟩
        · rw [step, hcreate]
        · cases hfree
      · exact Or.inl (by rw [step, hcreate])
  | isValid handle => exact Or.inl rfl
  | send handle sender bytes =>
      rcases self.send_cases handle sender bytes with ⟨_, hsend⟩ |
        ⟨index, _, _, hoccupied, _, _, _, ⟨_, hsend⟩ | ⟨queue, _, _, hsend⟩⟩
      · exact Or.inl (by rw [step, hsend])
      · exact Or.inl (by rw [step, hsend])
      · refine Or.inr ⟨index, (self.endpoints index).withQueue queue, ?_, .keep rfl id,
          fun hfree => ?_⟩
        · rw [step, hsend]
        · exact absurd (hfree.symm.trans hoccupied) Bool.false_ne_true
  | receive handle =>
      rcases self.receive_cases handle with ⟨_, hreceive⟩ |
        ⟨index, _, hoccupied, _, ⟨_, hreceive⟩ | ⟨_, queue, _, hreceive⟩⟩
      · exact Or.inl (by rw [step, hreceive])
      · exact Or.inl (by rw [step, hreceive])
      · refine Or.inr ⟨index, (self.endpoints index).withQueue queue, ?_, .keep rfl id,
          fun hfree => ?_⟩
        · rw [step, hreceive]
        · exact absurd (hfree.symm.trans hoccupied) Bool.false_ne_true
  | queueLen handle => exact Or.inl rfl
  | destroy handle =>
      rcases self.destroy_cases handle with ⟨_, hdestroy⟩ |
        ⟨index, _, hoccupied, _, ⟨_, hdestroy⟩ | ⟨hempty, hdestroy⟩⟩
      · exact Or.inl (by rw [step, hdestroy])
      · exact Or.inl (by rw [step, hdestroy])
      · exact Or.inr ⟨index, (self.endpoints index).clear, by rw [step, hdestroy],
          .clear hoccupied rfl rfl, fun _ => hempty⟩
  | count => exact Or.inl rfl

theorem tags_step (self : IpcManager) (op : IpcOp) (slot : Fin maxIpcEndpoints) :
    SlotTag.Step (self.tags slot) ((self.step op).2.tags slot) := by
  refine SlotTag.Step.of_write ?_ slot
  rcases self.step_writes op with hsame | ⟨index, written, hwrite, htag, _⟩
  · exact Or.inl (congrArg endpoints hsame)
  · exact Or.inr ⟨index, written, congrArg endpoints hwrite, htag⟩

/-- Free slots have empty queues. -/
def Clean (self : IpcManager) : Prop :=
  ∀ index, (self.endpoints index).occupied = false → (self.endpoints index).queue.contents = []

theorem step_clean (self : IpcManager) (op : IpcOp) (hself : self.Clean) :
    (self.step op).2.Clean := by
  rcases self.step_writes op with hsame | ⟨index, written, hwrite, _, hempty⟩
  · rw [hsame]
    exact hself
  · rw [hwrite]
    intro slot hfree
    by_cases hslot : slot = index
    · rw [hslot, set_endpoints_self] at hfree ⊢
      exact hempty hfree
    · rw [set_endpoints_other hslot] at hfree ⊢
      exact hself slot hfree

theorem run_clean (ops : List IpcOp) : (runAll step new ops).2.Clean :=
  runAll_invariant step_clean ops fun _ _ => IpcQueue.new_contents

/-- The handle of a free slot is dead. -/
theorem queued_of_free {self : IpcManager} {index : Fin maxIpcEndpoints}
    (hfree : (self.endpoints index).occupied = false) :
    self.queued (self.handleAt index) = none := by
  rcases self.lookup_cases (self.handleAt index) with ⟨_, hqueued⟩ | ⟨_, hlookup, _⟩
  · exact hqueued
  · rw [lookup_of_free hfree] at hlookup
    cases hlookup

/-- An operation on one endpoint does not touch another. -/
theorem step_other (self : IpcManager) (op : IpcOp) {handle : IpcHandle}
    (hother : (self.step op).1.target ≠ some handle) :
    (self.step op).2.queued handle = self.queued handle := by
  have hwrite {index : Fin maxIpcEndpoints} {slot : IpcEndpointSlot}
      (hkeep : slot.occupied = true → slot.generation = (self.endpoints index).generation)
      (hne : handle ≠ self.handleAt index) :
      (self.set index slot).queued handle = self.queued handle := by
    rw [self.queued_set index hkeep, Function.update_of_ne hne]
  cases op with
  | create =>
      rcases self.create_cases with ⟨index, _, hcreate⟩ | ⟨_, hcreate⟩
      · rw [step, hcreate] at hother ⊢
        exact hwrite (fun _ => rfl) fun hsame => hother (congrArg some hsame.symm)
      · rw [step, hcreate]
  | isValid target => rfl
  | send target sender bytes =>
      rcases self.send_cases target sender bytes with ⟨_, hsend⟩ |
        ⟨index, _, rfl, _, _, _, _, ⟨_, hsend⟩ | ⟨queue, _, _, hsend⟩⟩
      · rw [step, hsend]
      · rw [step, hsend]
      · rw [step, hsend] at hother ⊢
        exact hwrite (fun _ => rfl) fun hsame => hother (congrArg some hsame.symm)
  | receive target =>
      rcases self.receive_cases target with ⟨_, hreceive⟩ |
        ⟨index, rfl, _, _, ⟨_, hreceive⟩ | ⟨_, queue, _, hreceive⟩⟩
      · rw [step, hreceive]
      · rw [step, hreceive]
      · rw [step, hreceive] at hother ⊢
        exact hwrite (fun _ => rfl) fun hsame => hother (congrArg some hsame.symm)
  | queueLen target => rfl
  | destroy target =>
      rcases self.destroy_cases target with ⟨_, hdestroy⟩ |
        ⟨index, rfl, _, _, ⟨_, hdestroy⟩ | ⟨_, hdestroy⟩⟩
      · rw [step, hdestroy]
      · rw [step, hdestroy]
      · rw [step, hdestroy] at hother ⊢
        exact hwrite (fun hoccupied => absurd hoccupied Bool.false_ne_true)
          fun hsame => hother (congrArg some hsame.symm)
  | count => rfl

end IpcManager

namespace IpcEvent

/-- The message an event took from an endpoint. -/
def receivedFrom (handle : IpcHandle) : IpcEvent → List IpcMessage
  | .received target (some message) => if target = handle then [message] else []
  | _ => []

/-- Sender and bytes an event added to an endpoint. -/
def sentTo (handle : IpcHandle) : IpcEvent → List (ObjectHandle × List U8)
  | .sent target sender bytes true => if target = handle then [(sender, bytes)] else []
  | _ => []

theorem receivedFrom_other {handle : IpcHandle} {event : IpcEvent}
    (hother : event.target ≠ some handle) : event.receivedFrom handle = [] := by
  unfold receivedFrom
  split
  · exact if_neg fun hsame => hother (congrArg some hsame)
  · rfl

theorem sentTo_other {handle : IpcHandle} {event : IpcEvent}
    (hother : event.target ≠ some handle) : event.sentTo handle = [] := by
  unfold sentTo
  split
  · exact if_neg fun hsame => hother (congrArg some hsame)
  · rfl

end IpcEvent

/-- The messages are these sends, one by one and in this order. -/
def Delivers (messages : List IpcMessage) (sends : List (ObjectHandle × List U8)) : Prop :=
  List.Forall₂ (fun message sent => message.Carries sent.1 sent.2) messages sends

namespace IpcManager

theorem queued_withQueue {self : IpcManager} {index : Fin maxIpcEndpoints}
    (hoccupied : (self.endpoints index).occupied = true) (queue : IpcQueue) :
    (self.set index ((self.endpoints index).withQueue queue)).queued (self.handleAt index) =
      some queue.contents := by
  have hkeep : ((self.endpoints index).withQueue queue).generation =
      (self.endpoints index).generation := rfl
  rw [self.queued_set index (fun _ => hkeep), Function.update_self]
  exact if_pos hoccupied

theorem queued_occupy (self : IpcManager) (index : Fin maxIpcEndpoints) :
    (self.set index (self.endpoints index).occupy).queued (self.handleAt index) =
      some (self.endpoints index).queue.contents := by
  have hkeep : (self.endpoints index).occupy.generation = (self.endpoints index).generation := rfl
  rw [self.queued_set index (fun _ => hkeep), Function.update_self]
  rfl

/-- One call on a live endpoint: what it receives comes off the front of the
queue, what it sends goes to the back. -/
theorem step_conserves {self : IpcManager} {handle : IpcHandle} {queue : List IpcMessage}
    (hqueued : self.queued handle = some queue) (op : IpcOp)
    (hlives : (self.step op).1 ≠ .destroyed handle true) :
    ∃ next accepted, (self.step op).2.queued handle = some next ∧
      (self.step op).1.receivedFrom handle ++ next = queue ++ accepted ∧
      Delivers accepted ((self.step op).1.sentTo handle) := by
  by_cases htarget : (self.step op).1.target = some handle
  · cases op with
    | create =>
        rcases self.create_cases with ⟨index, hfree, hcreate⟩ | ⟨_, hcreate⟩
        · rw [step, hcreate] at htarget
          rw [← Option.some.inj htarget, queued_of_free hfree] at hqueued
          cases hqueued
        · rw [step, hcreate] at htarget
          cases htarget
    | isValid target => exact ⟨queue, [], hqueued, (List.append_nil queue).symm, .nil⟩
    | send target sender bytes =>
        cases Option.some.inj htarget
        rcases self.send_cases handle sender bytes with ⟨_, hsend⟩ |
          ⟨index, message, rfl, hoccupied, hlive, _, hcarries,
            ⟨_, hsend⟩ | ⟨after, _, hafter, hsend⟩⟩
        · rw [step, hsend]
          exact ⟨queue, [], hqueued, (List.append_nil queue).symm, .nil⟩
        · rw [step, hsend]
          exact ⟨queue, [], hqueued, (List.append_nil queue).symm, .nil⟩
        · rw [hqueued] at hlive
          cases hlive
          rw [step, hsend]
          refine ⟨after.contents, [message], ?_, hafter, ?_⟩
          · exact queued_withQueue hoccupied after
          · rw [IpcEvent.sentTo, if_pos rfl]
            exact .cons hcarries .nil
    | receive target =>
        cases Option.some.inj htarget
        rcases self.receive_cases handle with ⟨_, hreceive⟩ |
          ⟨index, rfl, hoccupied, hlive, ⟨_, hreceive⟩ | ⟨message, after, hafter, hreceive⟩⟩
        · rw [step, hreceive]
          exact ⟨queue, [], hqueued, (List.append_nil queue).symm, .nil⟩
        · rw [step, hreceive]
          exact ⟨queue, [], hqueued, (List.append_nil queue).symm, .nil⟩
        · rw [hqueued] at hlive
          cases hlive
          rw [step, hreceive]
          refine ⟨after.contents, [], ?_, ?_, .nil⟩
          · exact queued_withQueue hoccupied after
          · rw [IpcEvent.receivedFrom, if_pos rfl, List.append_nil, hafter]
            rfl
    | queueLen target => exact ⟨queue, [], hqueued, (List.append_nil queue).symm, .nil⟩
    | destroy target =>
        cases Option.some.inj htarget
        rcases self.destroy_cases handle with ⟨_, hdestroy⟩ |
          ⟨index, rfl, _, _, ⟨_, hdestroy⟩ | ⟨_, hdestroy⟩⟩
        · rw [step, hdestroy]
          exact ⟨queue, [], hqueued, (List.append_nil queue).symm, .nil⟩
        · rw [step, hdestroy]
          exact ⟨queue, [], hqueued, (List.append_nil queue).symm, .nil⟩
        · rw [step, hdestroy] at hlives
          exact absurd rfl hlives
    | count => cases htarget
  · refine ⟨queue, [], (self.step_other op htarget).trans hqueued, ?_, ?_⟩
    · rw [IpcEvent.receivedFrom_other htarget, List.nil_append, List.append_nil]
    · rw [IpcEvent.sentTo_other htarget]
      exact .nil

theorem run_conserves {self : IpcManager} {handle : IpcHandle} {queue : List IpcMessage}
    (hqueued : self.queued handle = some queue) (ops : List IpcOp)
    (hlives : .destroyed handle true ∉ (runAll step self ops).1) :
    ∃ next accepted, (runAll step self ops).2.queued handle = some next ∧
      (runAll step self ops).1.flatMap (IpcEvent.receivedFrom handle) ++ next =
        queue ++ accepted ∧
      Delivers accepted ((runAll step self ops).1.flatMap (IpcEvent.sentTo handle)) := by
  induction ops generalizing self queue with
  | nil => exact ⟨queue, [], hqueued, (List.append_nil queue).symm, .nil⟩
  | cons op rest ih =>
      rw [runAll_cons, List.mem_cons, not_or] at hlives
      obtain ⟨middle, first, hmiddle, hfirst, hfirstSent⟩ :=
        step_conserves hqueued op (fun hsame => hlives.1 hsame.symm)
      obtain ⟨next, later, hnext, hlater, hlaterSent⟩ := ih hmiddle hlives.2
      refine ⟨next, first ++ later, hnext, ?_, ?_⟩
      · rw [runAll_cons, List.flatMap_cons, List.append_assoc, hlater, ← List.append_assoc, hfirst,
          List.append_assoc]
      · rw [runAll_cons, List.flatMap_cons]
        exact List.rel_append hfirstSent hlaterSent

/-- A new endpoint is empty, whatever its slot was used for before. -/
theorem create_queued {self : IpcManager} (hself : self.Clean) {handle : IpcHandle}
    (hcreated : self.create.1 = some handle) : self.create.2.queued handle = some [] := by
  rcases self.create_cases with ⟨index, hfree, hcreate⟩ | ⟨_, hcreate⟩
  · rw [hcreate] at hcreated ⊢
    rw [← Option.some.inj hcreated, queued_occupy, hself index hfree]
  · rw [hcreate] at hcreated
    cases hcreated

theorem queueLen_eq (self : IpcManager) (handle : IpcHandle) :
    self.queueLen handle = (self.queued handle).map List.length := by
  rcases self.lookup_cases handle with ⟨hlookup, hqueued⟩ | ⟨index, hlookup, _, _, hqueued⟩
  · rw [queueLen, hlookup, hqueued]
    rfl
  · rw [queueLen, hlookup, hqueued, Option.map_some, IpcQueue.length_contents]
    rfl

theorem send_succeeds_iff {self : IpcManager} {handle : IpcHandle} {queue : List IpcMessage}
    (hqueued : self.queued handle = some queue) (sender : ObjectHandle) (bytes : List U8) :
    (self.send handle sender bytes).1 = true ↔
      bytes.length ≤ ipcMessageSize ∧ queue.length < ipcQueueCapacity := by
  rcases self.send_cases handle sender bytes with ⟨hreject, hsend⟩ |
    ⟨index, _, _, _, hlive, hsize, _, hroom⟩
  · rw [hsend]
    refine iff_of_false Bool.false_ne_true ?_
    rintro ⟨hsize, _⟩
    rcases hreject with hdead | hlarge
    · rw [hdead] at hqueued
      cases hqueued
    · omega
  · rw [hqueued] at hlive
    cases hlive
    rcases hroom with ⟨hfull, hsend⟩ | ⟨_, hroom, _, hsend⟩
    · rw [hsend]
      exact iff_of_false Bool.false_ne_true fun hboth => absurd hboth.2 (by omega)
    · rw [hsend]
      exact iff_of_true rfl ⟨hsize, hroom⟩

theorem destroy_succeeds_iff {self : IpcManager} {handle : IpcHandle} {queue : List IpcMessage}
    (hqueued : self.queued handle = some queue) :
    (self.destroy handle).1 = true ↔ queue = [] := by
  rcases self.destroy_cases handle with ⟨hdead, _⟩ | ⟨index, _, _, hlive, hempty⟩
  · rw [hdead] at hqueued
    cases hqueued
  · rw [hqueued] at hlive
    cases hlive
    rcases hempty with ⟨hwaiting, hdestroy⟩ | ⟨hnone, hdestroy⟩
    · rw [hdestroy]
      exact iff_of_false Bool.false_ne_true hwaiting
    · rw [hdestroy]
      exact iff_of_true rfl hnone

/-- An endpoint, seen from the events since its creation. -/
structure Account (handle : IpcHandle) (events : List IpcEvent) (manager : IpcManager)
    (queue : List IpcMessage) : Prop where
  queued : manager.queued handle = some queue
  /-- Received and waiting messages together are the sent ones, in order. -/
  delivers : Delivers (events.flatMap (IpcEvent.receivedFrom handle) ++ queue)
    (events.flatMap (IpcEvent.sentTo handle))
  length : manager.queueLen handle = some queue.length
  send_iff : ∀ sender bytes, (manager.send handle sender bytes).1 = true ↔
    bytes.length ≤ ipcMessageSize ∧ queue.length < ipcQueueCapacity
  /-- A lifetime ends only when everything sent has been received. -/
  destroy_iff : (manager.destroy handle).1 = true ↔ queue = []

/-- In every run, an endpoint starts empty and delivers exactly once and in
order for as long as it is not destroyed, and no call on one endpoint changes
another. -/
theorem exactly_once_delivery (before after : List IpcOp) (handle : IpcHandle)
    (hcreated : (runAll step new before).2.create.1 = some handle)
    (hlives : .destroyed handle true ∉
      (runAll step (runAll step new before).2.create.2 after).1) :
    (runAll step new before).2.create.2.queued handle = some [] ∧
      (∃ queue, Account handle (runAll step (runAll step new before).2.create.2 after).1
        (runAll step (runAll step new before).2.create.2 after).2 queue) ∧
      ∀ op other,
        ((runAll step (runAll step new before).2.create.2 after).2.step op).1.target ≠ some other →
        ((runAll step (runAll step new before).2.create.2 after).2.step op).2.queued other =
          (runAll step (runAll step new before).2.create.2 after).2.queued other := by
  have hempty := create_queued (run_clean before) hcreated
  obtain ⟨queue, accepted, hqueued, hconserved, hdelivers⟩ := run_conserves hempty after hlives
  rw [List.nil_append] at hconserved
  refine ⟨hempty, ⟨queue, hqueued, ?_, ?_, send_succeeds_iff hqueued,
    destroy_succeeds_iff hqueued⟩, fun op other => step_other _ op⟩
  · rw [hconserved]
    exact hdelivers
  · rw [queueLen_eq, hqueued]
    rfl

/-- The second endpoint of a slot: one byte is sent and received. -/
theorem exactly_once_delivery_reused_slot :
    ∃ queue, Account ⟨0x200000000#64⟩
      (runAll step (runAll step new [.create, .destroy ⟨0x100000000#64⟩]).2.create.2
        [.send ⟨0x200000000#64⟩ ⟨5#64⟩ [7#8], .receive ⟨0x200000000#64⟩]).1
      (runAll step (runAll step new [.create, .destroy ⟨0x100000000#64⟩]).2.create.2
        [.send ⟨0x200000000#64⟩ ⟨5#64⟩ [7#8], .receive ⟨0x200000000#64⟩]).2 queue :=
  (exactly_once_delivery [.create, .destroy ⟨0x100000000#64⟩]
    [.send ⟨0x200000000#64⟩ ⟨5#64⟩ [7#8], .receive ⟨0x200000000#64⟩] ⟨0x200000000#64⟩
    (by decide +kernel) (by simp [step])).2.1

end IpcManager

end UnboundOS.Ipc
