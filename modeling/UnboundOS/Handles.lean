import UnboundOS.Ipc.Delivery
import UnboundOS.Objects.Lifetimes

/-!
Stale handles. Object table and endpoint table check handles in the same way
and move generations in the same way, so one statement covers both: a handle
from an earlier `create` is accepted exactly while its slot is occupied and has
been cleared a multiple of `2 ^ 32 - 1` times since, and a call that ends its
object or endpoint clears the slot.
-/

namespace UnboundOS

namespace Objects.ObjectTable

/-- Every operation takes the handle for that of a live object. -/
structure Accepts (table : ObjectTable) (handle : ObjectHandle) : Prop where
  isValid : table.isValid handle = true
  getType : (table.getType handle).isSome
  retain : (table.retain handle).1 = true ∨
    ∃ kind, table.entry handle = some (kind, maxReferences)
  release : (table.release handle).1 = true
  destroy : (table.destroy handle).1 = true

/-- Every operation refuses the handle, without effect. -/
structure Rejects (table : ObjectTable) (handle : ObjectHandle) : Prop where
  isValid : table.isValid handle = false
  getType : table.getType handle = none
  retain : table.retain handle = (false, table)
  release : table.release handle = (false, table)
  destroy : table.destroy handle = (false, table)

theorem accepts_of_lookup {table : ObjectTable} {handle : ObjectHandle}
    {index : Fin maxKernelObjects} (hlookup : table.lookup handle = some index) :
    table.Accepts handle := by
  have hlive : ∃ value, table.entry handle = some value := by
    rcases table.lookup_cases handle with ⟨hnone, _⟩ | ⟨_, held, _, _, _, hentry⟩
    · rw [hlookup] at hnone
      cases hnone
    · exact ⟨view held, hentry⟩
  obtain ⟨value, hvalue⟩ := hlive
  refine ⟨?_, ?_, ?_, ?_, ?_⟩
  · rw [isValid_eq, hvalue]
    rfl
  · rw [getType_eq, hvalue]
    rfl
  · rcases table.retain_cases handle with ⟨hdead, _⟩ |
      ⟨_, held, _, _, hentry, ⟨hmax, _⟩ | ⟨_, hretain⟩⟩
    · rw [hdead] at hvalue
      cases hvalue
    · refine Or.inr ⟨held.objectType, ?_⟩
      rw [hentry, view, hmax]
      rfl
    · exact Or.inl (by rw [hretain])
  · rcases table.release_cases handle with ⟨hdead, _⟩ |
      ⟨_, _, _, _, _, ⟨_, hrelease⟩ | ⟨_, hrelease⟩⟩
    · rw [hdead] at hvalue
      cases hvalue
    · rw [hrelease]
    · rw [hrelease]
  · rcases table.destroy_cases handle with ⟨hdead, _⟩ | ⟨_, _, _, _, hdestroy⟩
    · rw [hdead] at hvalue
      cases hvalue
    · rw [hdestroy]

theorem rejects_of_lookup {table : ObjectTable} {handle : ObjectHandle}
    (hlookup : table.lookup handle = none) : table.Rejects handle := by
  refine ⟨?_, ?_, ?_, ?_, ?_⟩
  · simp only [isValid, hlookup, Option.isSome_none]
  · simp only [getType, hlookup]
  · simp only [retain, hlookup]
  · simp only [release, hlookup]
  · simp only [destroy, hlookup]

/-- What becomes of a handle for slot `index` in a run that begins right after
it was returned. -/
structure HandleFate (start : ObjectTable) (after : List (Registry.Op ObjectHandle ObjectType))
    (handle : ObjectHandle) (index : Fin maxKernelObjects) : Prop where
  index_eq : handle.index = index.val
  ne_invalid : handle ≠ ObjectHandle.invalid
  valid_iff : (runAll step start after).2.isValid handle = true ↔
    ((runAll step start after).2.slots index).occupied = true ∧
      generationPeriod ∣ clearsOf tags step index start after
  accepts : (runAll step start after).2.isValid handle = true →
    (runAll step start after).2.Accepts handle
  rejects : (runAll step start after).2.isValid handle = false →
    (runAll step start after).2.Rejects handle
  /-- A later creation does not return the handle of a live object again. -/
  distinct : ∀ objectType other, ((runAll step start after).2.create objectType).1 = some other →
    (runAll step start after).2.isValid handle = true → other ≠ handle
  /-- A successful `destroy` frees the slot and retires the handle. -/
  destroyed : ((runAll step start after).2.destroy handle).1 = true →
    Retired tags step ((runAll step start after).2.destroy handle).2 index (Rejects · handle)
  /-- So does a successful `release` of the last reference. -/
  released : ∀ objectType,
    ((runAll step start after).2.slots index).record = some ⟨objectType, 1#32⟩ →
    ((runAll step start after).2.release handle).1 = true →
    Retired tags step ((runAll step start after).2.release handle).2 index (Rejects · handle)

theorem destroy_retires {self : ObjectTable} {handle : ObjectHandle}
    {index : Fin maxKernelObjects} (hindex : handle.index = index.val)
    (hdestroyed : (self.destroy handle).1 = true) :
    Retired tags step (self.destroy handle).2 index (Rejects · handle) := by
  cases hlookup : self.lookup handle with
  | none =>
      rw [(rejects_of_lookup hlookup).destroy] at hdestroyed
      cases hdestroyed
  | some found =>
      cases Fin.ext ((resolve_index maxKernelObjects_le hlookup).symm.trans hindex)
      have hdestroy : self.destroy handle = (true, self.set index (self.slots index).clear) := by
        simp only [destroy, hlookup]
      refine Retired.of_clear maxKernelObjects_le tags_step (fun _ => rejects_of_lookup) self
        (.destroy handle) hlookup ?_
      rw [step, hdestroy, tags, set_slots_self]
      rfl

theorem release_retires {self : ObjectTable} {handle : ObjectHandle}
    {index : Fin maxKernelObjects} (hindex : handle.index = index.val)
    (hreleased : (self.release handle).1 = true) {objectType : ObjectType}
    (hlast : (self.slots index).record = some ⟨objectType, 1#32⟩) :
    Retired tags step (self.release handle).2 index (Rejects · handle) := by
  cases hlookup : self.lookup handle with
  | none =>
      rw [(rejects_of_lookup hlookup).release] at hreleased
      cases hreleased
  | some found =>
      cases Fin.ext ((resolve_index maxKernelObjects_le hlookup).symm.trans hindex)
      have hrelease : self.release handle = (true, self.set index (self.slots index).clear) := by
        simp [release, hlookup, hlast]
      refine Retired.of_clear maxKernelObjects_le tags_step (fun _ => rejects_of_lookup) self
        (.release handle) hlookup ?_
      rw [step, hrelease, tags, set_slots_self]
      rfl

theorem create_handleFate {self : ObjectTable} {objectType : ObjectType} {handle : ObjectHandle}
    (hcreated : (self.create objectType).1 = some handle)
    (after : List (Registry.Op ObjectHandle ObjectType)) :
    ∃ index, HandleFate (self.create objectType).2 after handle index := by
  rcases self.create_cases objectType with ⟨index, _, hcreate⟩ | ⟨_, hcreate⟩
  · rw [hcreate] at hcreated ⊢
    generalize hstart : self.set index ((self.slots index).occupy objectType) = start
    have hhandle : handle = start.handleAt index := by
      rw [← Option.some.inj hcreated, ← hstart, handleAt, handleAt, set_slots_self]
      rfl
    have hfate := slotFate maxKernelObjects_le tags_step
      (fun _ _ => accepts_of_lookup) (fun _ => rejects_of_lookup) start after
      (congrArg ObjectHandle.raw hhandle)
    refine ⟨index, hfate.index_eq, fun hsame => hfate.ne_zero (congrArg ObjectHandle.raw hsame),
      hfate.accepted_iff, hfate.accepted, hfate.refused, fun kind other hother hvalid hsame => ?_,
      fun hdestroyed => destroy_retires hfate.index_eq hdestroyed,
      fun _ hlast hreleased => release_retires hfate.index_eq hreleased hlast⟩
    rcases (runAll step start after).2.create_cases kind with ⟨slot, hfree, hnext⟩ | ⟨_, hnext⟩
    · rw [hnext] at hother
      rw [← Option.some.inj hother] at hsame
      exact hfate.taken slot hfree hvalid (congrArg ObjectHandle.raw hsame)
    · rw [hnext] at hother
      cases hother
  · rw [hcreate] at hcreated
    cases hcreated

end Objects.ObjectTable

namespace Ipc.IpcManager

open Objects

/-- Every operation takes the handle for that of a live endpoint. -/
structure Accepts (manager : IpcManager) (handle : IpcHandle) : Prop where
  isValid : manager.isValid handle = true
  queueLen : (manager.queueLen handle).isSome
  send : ∀ sender bytes, (manager.send handle sender bytes).1 = true ↔
    bytes.length ≤ ipcMessageSize ∧
      ∃ queue, manager.queued handle = some queue ∧ queue.length < ipcQueueCapacity
  receive : (manager.receive handle).1 = none ↔ manager.queued handle = some []
  destroy : (manager.destroy handle).1 = true ↔ manager.queued handle = some []

/-- Every operation refuses the handle, without effect. -/
structure Rejects (manager : IpcManager) (handle : IpcHandle) : Prop where
  isValid : manager.isValid handle = false
  queueLen : manager.queueLen handle = none
  send : ∀ sender bytes, manager.send handle sender bytes = (false, manager)
  receive : manager.receive handle = (none, manager)
  destroy : manager.destroy handle = (false, manager)

theorem accepts_of_lookup {manager : IpcManager} {handle : IpcHandle}
    {index : Fin maxIpcEndpoints} (hlookup : manager.lookup handle = some index) :
    manager.Accepts handle := by
  have hlive : ∃ queue, manager.queued handle = some queue := by
    rcases manager.lookup_cases handle with ⟨hnone, _⟩ | ⟨_, _, _, _, hqueued⟩
    · rw [hlookup] at hnone
      cases hnone
    · exact ⟨_, hqueued⟩
  obtain ⟨queue, hqueue⟩ := hlive
  refine ⟨?_, ?_, fun sender bytes => ?_, ?_, ?_⟩
  · rw [isValid, hlookup]
    rfl
  · rw [queueLen_eq, hqueue]
    rfl
  · rw [send_succeeds_iff hqueue, hqueue]
    simp only [Option.some.injEq, exists_eq_left']
  · rw [hqueue, Option.some.injEq]
    rcases manager.receive_cases handle with ⟨hdead, _⟩ |
      ⟨_, _, _, hqueued, ⟨hempty, hreceive⟩ | ⟨_, _, hcontents, hreceive⟩⟩
    · rw [hdead] at hqueue
      cases hqueue
    · rw [hqueue] at hqueued
      cases hqueued
      rw [hreceive]
      exact iff_of_true rfl hempty
    · rw [hqueue] at hqueued
      cases hqueued
      rw [hreceive, hcontents]
      exact iff_of_false (Option.some_ne_none _) (List.cons_ne_nil _ _)
  · rw [hqueue, Option.some.injEq]
    exact destroy_succeeds_iff hqueue

theorem rejects_of_lookup {manager : IpcManager} {handle : IpcHandle}
    (hlookup : manager.lookup handle = none) : manager.Rejects handle := by
  refine ⟨?_, ?_, fun sender bytes => ?_, ?_, ?_⟩
  · simp only [isValid, hlookup, Option.isSome_none]
  · simp only [queueLen, hlookup]
  · unfold send
    cases IpcMessage.new sender bytes with
    | none => rfl
    | some message => simp only [hlookup]
  · simp only [receive, hlookup]
  · simp only [destroy, hlookup]

/-- What becomes of a handle for slot `index` in a run that begins right after
it was returned. -/
structure HandleFate (start : IpcManager) (after : List IpcOp) (handle : IpcHandle)
    (index : Fin maxIpcEndpoints) : Prop where
  index_eq : handle.index = index.val
  ne_invalid : handle ≠ IpcHandle.invalid
  valid_iff : (runAll step start after).2.isValid handle = true ↔
    ((runAll step start after).2.endpoints index).occupied = true ∧
      generationPeriod ∣ clearsOf tags step index start after
  accepts : (runAll step start after).2.isValid handle = true →
    (runAll step start after).2.Accepts handle
  rejects : (runAll step start after).2.isValid handle = false →
    (runAll step start after).2.Rejects handle
  /-- A later creation does not return the handle of a live endpoint again. -/
  distinct : ∀ other, (runAll step start after).2.create.1 = some other →
    (runAll step start after).2.isValid handle = true → other ≠ handle
  /-- A successful `destroy` frees the slot and retires the handle. -/
  destroyed : ((runAll step start after).2.destroy handle).1 = true →
    Retired tags step ((runAll step start after).2.destroy handle).2 index (Rejects · handle)

theorem destroy_retires {self : IpcManager} {handle : IpcHandle} {index : Fin maxIpcEndpoints}
    (hindex : handle.index = index.val) (hdestroyed : (self.destroy handle).1 = true) :
    Retired tags step (self.destroy handle).2 index (Rejects · handle) := by
  cases hlookup : self.lookup handle with
  | none =>
      rw [(rejects_of_lookup hlookup).destroy] at hdestroyed
      cases hdestroyed
  | some found =>
      cases Fin.ext ((resolve_index maxIpcEndpoints_le hlookup).symm.trans hindex)
      have hdestroy : self.destroy handle =
          (true, self.set index (self.endpoints index).clear) := by
        simp only [destroy, hlookup] at hdestroyed ⊢
        split at hdestroyed
        · cases hdestroyed
        · rename_i hempty
          rw [if_neg hempty]
      refine Retired.of_clear maxIpcEndpoints_le tags_step (fun _ => rejects_of_lookup) self
        (.destroy handle) hlookup ?_
      rw [step, hdestroy, tags, set_endpoints_self]
      rfl

theorem create_handleFate {self : IpcManager} {handle : IpcHandle}
    (hcreated : self.create.1 = some handle) (after : List IpcOp) :
    ∃ index, HandleFate self.create.2 after handle index := by
  rcases self.create_cases with ⟨index, _, hcreate⟩ | ⟨_, hcreate⟩
  · rw [hcreate] at hcreated ⊢
    generalize hstart : self.set index (self.endpoints index).occupy = start
    have hhandle : handle = start.handleAt index := by
      rw [← Option.some.inj hcreated, ← hstart, handleAt, handleAt, set_endpoints_self]
      rfl
    have hfate := slotFate maxIpcEndpoints_le tags_step
      (fun _ _ => accepts_of_lookup) (fun _ => rejects_of_lookup) start after
      (congrArg IpcHandle.raw hhandle)
    refine ⟨index, hfate.index_eq, fun hsame => hfate.ne_zero (congrArg IpcHandle.raw hsame),
      hfate.accepted_iff, hfate.accepted, hfate.refused, fun other hother hvalid hsame => ?_,
      fun hdestroyed => destroy_retires hfate.index_eq hdestroyed⟩
    rcases (runAll step start after).2.create_cases with ⟨slot, hfree, hnext⟩ | ⟨_, hnext⟩
    · rw [hnext] at hother
      rw [← Option.some.inj hother] at hsame
      exact hfate.taken slot hfree hvalid (congrArg IpcHandle.raw hsame)
    · rw [hnext] at hother
      cases hother
  · rw [hcreate] at hcreated
    cases hcreated

end Ipc.IpcManager

open Objects Ipc

/-- Both tables reject stale handles until their slot has gone through all its
generations. -/
theorem stale_handles_rejected :
    (∀ before objectType handle,
      ((runAll ObjectTable.step ObjectTable.new before).2.create objectType).1 = some handle →
      ∀ after, ∃ index, ObjectTable.HandleFate
        ((runAll ObjectTable.step ObjectTable.new before).2.create objectType).2 after handle
        index) ∧
    (∀ before handle,
      (runAll IpcManager.step IpcManager.new before).2.create.1 = some handle →
      ∀ after, ∃ index, IpcManager.HandleFate
        (runAll IpcManager.step IpcManager.new before).2.create.2 after handle index) :=
  ⟨fun _ _ _ hcreated after => ObjectTable.create_handleFate hcreated after,
    fun _ _ hcreated after => IpcManager.create_handleFate hcreated after⟩

/-- Fresh tables: the first handle of each can be destroyed, and after it was
the slot is reused. -/
theorem stale_handles_rejected_first_slot :
    (((ObjectTable.new.create .thread).2.destroy ⟨0x100000000#64⟩).1 = true ∧
      ∀ after, after = [] ∨ after = [.destroy ⟨0x100000000#64⟩, .create .file] →
        ∃ index, ObjectTable.HandleFate (ObjectTable.new.create .thread).2 after
          ⟨0x100000000#64⟩ index) ∧
    ((IpcManager.new.create.2.destroy ⟨0x100000000#64⟩).1 = true ∧
      ∀ after, after = [] ∨ after = [.destroy ⟨0x100000000#64⟩, .create] →
        ∃ index, IpcManager.HandleFate IpcManager.new.create.2 after ⟨0x100000000#64⟩ index) :=
  ⟨⟨by decide +kernel, fun after _ =>
      stale_handles_rejected.1 [] .thread ⟨0x100000000#64⟩ (by decide +kernel) after⟩,
    by decide +kernel, fun after _ =>
      stale_handles_rejected.2 [] ⟨0x100000000#64⟩ (by decide +kernel) after⟩

end UnboundOS
