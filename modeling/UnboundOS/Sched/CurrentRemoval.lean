import UnboundOS.Sched.Execution

/-!
Removing the task that is on the processor. `remove_task` makes the first task
left in the queue current but does not switch to it, and the next timer
interrupt stores the interrupted stack pointer in whatever task is current. The
frame of the removed task thus replaces the saved frame of another one, unless
there is no other.
-/

namespace UnboundOS.Sched

namespace RunQueue

/-- The first queued id but `taskId`. -/
def FirstBeside (queue : RunQueue) (taskId other : TaskId) : Prop :=
  ∃ slot, queue.tasks slot = some other ∧ other ≠ taskId ∧
    ∀ earlier < slot, queue.tasks earlier = none ∨ queue.tasks earlier = some taskId

theorem remove_tasks {self next : RunQueue} (hself : self.Sound) {taskId : TaskId}
    (hremove : self.remove taskId = some (true, next)) (slot : Fin maxTasks) :
    next.tasks slot = if self.tasks slot = some taskId then none else self.tasks slot := by
  unfold remove at hremove
  cases hscan : firstFit (fun slot => self.tasks slot == some taskId) with
  | none => simp [hscan] at hremove
  | some found =>
      have hfound : self.tasks found = some taskId := beq_iff_eq.mp (firstFit_sat hscan)
      rw [hscan] at hremove
      cases hcount : checkedSub self.count 1 with
      | none => simp [hcount] at hremove
      | some count =>
          simp only [hcount, Option.bind_eq_bind, Option.bind_some] at hremove
          cases hremove
          change Function.update self.tasks found none slot = _
          by_cases hslot : slot = found
          · rw [hslot, if_pos hfound, Function.update_self]
          · have hother : self.tasks slot ≠ some taskId := fun hsame =>
              hslot (hself.distinct slot found taskId hsame hfound)
            rw [if_neg hother, Function.update_of_ne hslot]

theorem remove_first_iff {self next : RunQueue} (hself : self.Sound) {taskId other : TaskId}
    (hremove : self.remove taskId = some (true, next)) :
    next.first = some other ↔ self.FirstBeside taskId other := by
  rw [first_eq_firstHeld, firstHeld_eq_some]
  refine exists_congr fun slot => ?_
  simp only [remove_tasks hself hremove]
  constructor
  · rintro ⟨hslot, hbefore⟩
    by_cases hremoved : self.tasks slot = some taskId
    · rw [if_pos hremoved] at hslot
      cases hslot
    · rw [if_neg hremoved] at hslot
      refine ⟨hslot, ?_, fun earlier hearlier => ?_⟩
      · rintro rfl
        exact hremoved hslot
      · by_cases hgone : self.tasks earlier = some taskId
        · exact .inr hgone
        · have hempty := hbefore earlier hearlier
          rw [if_neg hgone] at hempty
          exact .inl hempty
  · rintro ⟨hslot, hother, hbefore⟩
    refine ⟨?_, fun earlier hearlier => ?_⟩
    · rw [hslot, if_neg fun hsame => hother (Option.some.inj hsame)]
    · rcases hbefore earlier hearlier with hempty | hgone
      · rw [hempty, if_neg (Option.some_ne_none taskId).symm]
      · rw [if_pos hgone]

end RunQueue

namespace Scheduler

/-- Emptying the slot of a task takes its id out of the map. -/
theorem task_emptied {self next : Scheduler} (hself : Distinct self.ids) (hnext : Distinct next.ids)
    {slot : Fin maxSchedulerTasks} {taskId : TaskId} (hid : self.ids slot = some taskId)
    (htasks : next.tasks = Function.update self.tasks slot none) :
    next.task = Function.update self.task taskId none := by
  funext other
  ext task
  rw [task_eq_some_iff hnext, htasks]
  by_cases hother : other = taskId
  · rw [hother, Function.update_self]
    refine iff_of_false ?_ (Option.some_ne_none task).symm
    rintro ⟨found, hfound, hsame⟩
    by_cases hemptied : found = slot
    · rw [hemptied, Function.update_self] at hfound
      cases hfound
    · rw [Function.update_of_ne hemptied] at hfound
      refine hemptied (hself found slot taskId ?_ hid)
      rw [ids, hfound, Option.map_some, hsame]
  · rw [Function.update_of_ne hother, task_eq_some_iff hself]
    refine exists_congr fun found => and_congr_left fun hsame => ?_
    by_cases hemptied : found = slot
    · rw [hemptied, Function.update_self]
      refine iff_of_false (Option.some_ne_none task).symm fun hslot => ?_
      rw [ids, hslot, Option.map_some, hsame] at hid
      exact hother (Option.some.inj hid)
    · rw [Function.update_of_ne hemptied]

/-- A removal takes one id out of the map of tasks and, if that task was
current, puts the first one left in its place. -/
theorem removeTask_of_mem {self : Scheduler} (hself : self.Coherent) {taskId : TaskId}
    (hmem : taskId ∈ self.runQueue.ids) :
    ∃ queue next, self.runQueue.remove taskId = some (true, queue) ∧
      self.removeTask taskId = some (true, next) ∧ next.Coherent ∧
      next.currentTask =
        (if self.currentTask = some taskId then queue.first else self.currentTask) ∧
      next.task = Function.update self.task taskId none := by
  obtain ⟨next, hremove, hnext⟩ : ∃ next, self.removeTask taskId = some (true, next) ∧
      next.Coherent := by
    rcases removeTask_cases hself taskId with ⟨habsent, _⟩ | ⟨_, hfound⟩
    · exact absurd hmem habsent
    · exact hfound
  obtain ⟨queue, hqueue⟩ : ∃ queue, self.runQueue.remove taskId = some (true, queue) := by
    rcases RunQueue.remove_cases hself.queue taskId with ⟨habsent, _⟩ | ⟨_, queue, hqueue, _⟩
    · exact absurd hmem habsent
    · exact ⟨queue, hqueue⟩
  refine ⟨queue, next, hqueue, hremove, hnext, ?_⟩
  rcases self.slotOf_cases taskId with ⟨hnone, _⟩ | ⟨slot, _, hslot, _, hid⟩
  · rw [hself.same_ids] at hnone
    exact absurd hmem hnone
  · unfold removeTask at hremove
    simp only [hqueue, hslot, Option.bind_eq_bind, Option.bind_some, Bool.not_true,
      Bool.false_eq_true, if_false] at hremove
    cases hremove
    exact ⟨rfl, task_emptied hself.distinct hnext.distinct hid rfl⟩

theorem savedRsp_of_task {self : Scheduler} {taskId : TaskId} {task : Task}
    (htask : self.task taskId = some task) : self.savedRsp taskId = some task.interruptRsp := by
  rw [savedRsp, htask, Option.map_some]

/-- A change of a task that keeps its saved pointer keeps all of them. -/
theorem savedRsp_update {lookup : TaskId → Option Task} {taskId : TaskId} {old : Task}
    (hold : lookup taskId = some old) (task : Task) (hsame : task.interruptRsp = old.interruptRsp) :
    Option.map Task.interruptRsp ∘ Function.update lookup taskId (some task) =
      Option.map Task.interruptRsp ∘ lookup := by
  rw [Function.comp_update, Function.update_eq_self_iff, Function.comp_apply, hold,
    Option.map_some, Option.map_some, hsame]

section Interrupts

variable {self next : Scheduler} {memory : X86.Memory} {rsp result : U64} {taskId : TaskId}
  {task : Task}

theorem Selected.savedRsp_eq (hself : self.Selected memory taskId task result next)
    (htask : self.task taskId = some task) : next.savedRsp = self.savedRsp := by
  change Option.map Task.interruptRsp ∘ next.task = Option.map Task.interruptRsp ∘ self.task
  cases hself with
  | same _ _ htasks => rw [htasks, savedRsp_update htask task.startSlice rfl]
  | @refused _ _ nextTask _ hother hnext _ _ htasks =>
      have hkept := (Function.update_of_ne hother (some task.startSlice) self.task).trans hnext
      rw [htasks, savedRsp_update hkept (nextTask.setState .ready) rfl,
        savedRsp_update htask task.startSlice rfl]
  | @switched _ _ nextTask _ hother hnext _ _ htasks =>
      have hkept :=
        (Function.update_of_ne hother (some (task.setState .ready)) self.task).trans hnext
      rw [htasks, savedRsp_update hkept nextTask.startSlice rfl,
        savedRsp_update htask (task.setState .ready) rfl]

/-- An interrupt writes one saved pointer, that of the current task. -/
theorem Interrupted.savedRsp_eq (hself : self.Interrupted memory rsp taskId task result next) :
    next.savedRsp = Function.update self.savedRsp taskId (some rsp) := by
  have hsaved {ticked : Scheduler} (htasks : ticked.task =
      Function.update self.task taskId (some (task.interruptedAt rsp).countTick)) :
      ticked.savedRsp = Function.update self.savedRsp taskId (some rsp) := by
    change Option.map Task.interruptRsp ∘ ticked.task = _
    rw [htasks, Function.comp_update]
    rfl
  cases hself with
  | sliceLeft _ _ htasks => exact hsaved htasks
  | sliceOver _ _ htasks hselected =>
      have htask := congrFun htasks taskId
      rw [Function.update_self] at htask
      rw [hselected.savedRsp_eq htask, hsaved htasks]

end Interrupts

/-- All tasks but the removed one still have their saved pointer. -/
def KeepsContexts (before after : Scheduler) (removed : TaskId) : Prop :=
  ∀ other, other ≠ removed → after.savedRsp other = before.savedRsp other

theorem not_keepsContexts {before after : Scheduler} {removed other : TaskId}
    (hother : other ≠ removed) {saved written : U64} (hbefore : before.savedRsp other = some saved)
    (hafter : after.savedRsp other = some written) (hlost : written ≠ saved) :
    ¬ before.KeepsContexts after removed := by
  intro hkeeps
  have hsame := hkeeps other hother
  rw [hbefore, hafter] at hsame
  exact hlost (Option.some.inj hsame)

theorem removeTask_savedRsp {self next : Scheduler} {taskId : TaskId}
    (htasks : next.task = Function.update self.task taskId none) :
    next.savedRsp = Function.update self.savedRsp taskId none := by
  change Option.map Task.interruptRsp ∘ next.task = _
  rw [htasks, Function.comp_update]
  rfl

end Scheduler

namespace Execution

/-- An execution is a kernel run, with records of the processor beside it. -/
theorem Reachable.kernelRun {execution : Execution} (hreachable : Reachable execution) :
    ∃ ops events, runChecked Statics.kernelStep Statics.initial ops =
      some (events, execution.statics) := by
  induction hreachable with
  | initial => exact ⟨[], [], rfl⟩
  | @step self next _ hstep ih =>
      obtain ⟨ops, events, hrun⟩ := ih
      have hextend (op : KernelOp) (event : SchedulerEvent)
          (hop : self.statics.kernelStep op = some (event, next.statics)) :
          ∃ ops events, runChecked Statics.kernelStep Statics.initial ops =
            some (events, next.statics) :=
        ⟨ops ++ [op], events ++ [event], runChecked_append hrun
          (runChecked_cons_eq_some.mpr ⟨event, next.statics, [], hop, rfl, rfl⟩)⟩
      cases hstep with
      | createRefused id priority stackTop hcreate =>
          exact hextend (.scheduler (.createTask _)) _ (Statics.step_createTask hcreate)
      | created id priority stackTop hcreate =>
          exact hextend (.scheduler (.createTask _)) _ (Statics.step_createTask hcreate)
      | start taskId _ _ =>
          refine ⟨ops ++ [.scheduler (.setCurrent taskId), .updateTask taskId .startSlice],
            events ++ [.currentSet (self.statics.scheduler.setCurrent taskId).1, .done], ?_⟩
          exact runChecked_append hrun rfl
      | removeTask taskId _ hremove =>
          exact hextend (.scheduler (.removeTask taskId)) _ (Statics.step_removeTask hremove)
      | @continued running exit _ memory rsp _ _ hreturn =>
          refine hextend (.scheduler (.timerInterrupt memory rsp)) (.interrupted exit 0#64) ?_
          exact (Statics.step_timerInterrupt _ memory rsp).trans (by rw [hreturn, Option.map_some])
      | @resumed _ _ exit result _ memory rsp _ _ hreturn =>
          refine hextend (.scheduler (.timerInterrupt memory rsp)) (.interrupted exit result) ?_
          exact (Statics.step_timerInterrupt _ memory rsp).trans (by rw [hreturn, Option.map_some])

end Execution

namespace Statics

/-- Removing the current task and taking a timer interrupt right after, in any
reachable state: the removal succeeds, and the interrupt returns unless the
switch counter is at its end. The other tasks then keep their saved pointers
exactly if there is no other one, or the first other one in the queue had the
interrupted pointer saved already. -/
theorem removal_keeps_contexts_iff (ops : List KernelOp) {events : List SchedulerEvent}
    {statics : Statics} (hrun : runChecked kernelStep initial ops = some (events, statics))
    {taskId : TaskId} (hcurrent : statics.scheduler.currentTask = some taskId)
    (memory : X86.Memory) (rsp : U64) :
    ∃ next, statics.scheduler.removeTask taskId = some (true, next) ∧
      (statics.preemptSwitchDebugCount.toNat + 1 < 2 ^ 64 →
        ∃ exit result after,
          ({ statics with scheduler := next } : Statics).timerInterrupt memory rsp =
            some (exit, result, after)) ∧
      ∀ exit result after,
        ({ statics with scheduler := next } : Statics).timerInterrupt memory rsp =
          some (exit, result, after) →
        (statics.scheduler.KeepsContexts after.scheduler taskId ↔
          ∀ heir, statics.scheduler.runQueue.FirstBeside taskId heir →
            statics.scheduler.savedRsp heir = some rsp) := by
  have hcoherent := kernelRun_coherent ops hrun
  have hmem := hcoherent.current_mem taskId hcurrent
  obtain ⟨queue, next, hqueue, hremove, hnext, hheir, htasks⟩ :=
    Scheduler.removeTask_of_mem hcoherent hmem
  have hsaved := Scheduler.removeTask_savedRsp htasks
  rw [if_pos hcurrent] at hheir
  refine ⟨next, hremove, fun hcount => ?_, fun exit result after hreturn => ?_⟩
  · have hadvances : ({ statics with scheduler := next } : Statics).Advances
        (({ statics with scheduler := next } : Statics).timerInterrupt memory rsp) :=
      timerInterrupt_advances hnext memory rsp
    rcases hadvances with ⟨hpanic, _⟩ | ⟨exit, result, after, hreturn, _⟩
    · exact absurd hpanic (Nat.ne_of_lt hcount)
    · exact ⟨exit, result, after, hreturn⟩
  · simp only [← RunQueue.remove_first_iff hcoherent.queue hqueue, ← hheir]
    cases hfirst : next.currentTask with
    | none =>
        rw [timerInterrupt_noCurrent hfirst] at hreturn
        cases hreturn
        refine iff_of_true (fun other hother => ?_) fun heir hnone => by cases hnone
        rw [hsaved, Function.update_of_ne hother]
    | some heir =>
        obtain ⟨task, htask⟩ := hnext.task_of_mem (hnext.current_mem heir hfirst)
        have hother : heir ≠ taskId := by
          rintro rfl
          rw [htasks, Function.update_self] at htask
          cases htask
        have hafter := (timerInterrupt_interrupted { statics with scheduler := next } hnext hfirst
          htask hreturn).savedRsp_eq
        rw [hsaved] at hafter
        constructor
        · intro hkeeps found hfound
          cases hfound
          rw [← hkeeps heir hother, hafter, Function.update_self]
        · intro hsame other hkept
          rw [hafter]
          by_cases hwritten : other = heir
          · rw [hwritten, Function.update_self, hsame heir rfl]
          · rw [Function.update_of_ne hwritten, Function.update_of_ne hkept]

/-- Two prepared tasks, the first of them started. -/
def twoStarted : List Execution.Action :=
  [.create 1#64 1#8 (some 0x110000#64), .create 2#64 1#8 (some 0x120000#64), .start 1#64]

/-- If the first of them is removed while it runs, the other one keeps its frame
as long as the interrupt comes with the stack pointer that is saved for it. -/
theorem removal_keeps_contexts_same_frame :
    ∃ execution next exit result after, Execution.initial.run twoStarted = some execution ∧
      execution.executing = some 1#64 ∧
      execution.statics.scheduler.savedRsp 2#64 = some 0x11F768#64 ∧
      execution.statics.scheduler.removeTask 1#64 = some (true, next) ∧
      ({ execution.statics with scheduler := next } : Statics).timerInterrupt
        (fun _ => 0#8) 0x11F768#64 = some (exit, result, after) ∧
      execution.statics.scheduler.KeepsContexts after.scheduler 1#64 := by
  have hfacts : (Execution.initial.run twoStarted).map (fun execution =>
      (execution.executing, execution.statics.scheduler.savedRsp 2#64,
        execution.statics.preemptSwitchDebugCount)) =
      some (some 1#64, some 0x11F768#64, 0#64) := by decide +kernel
  have hqueue : ∀ slot, (Execution.initial.run twoStarted).bind (fun execution =>
      execution.statics.scheduler.runQueue.tasks slot) ∈ [none, some 1#64, some 2#64] := by
    decide +kernel
  obtain ⟨execution, hstarted, hvalues⟩ := Option.map_eq_some_iff.mp hfacts
  obtain ⟨hexecuting, hrest⟩ := Prod.mk.inj hvalues
  obtain ⟨hsaved, hcount⟩ := Prod.mk.inj hrest
  have hreachable := Execution.Reachable.initial.run hstarted
  obtain ⟨ops, events, hrun⟩ := hreachable.kernelRun
  obtain ⟨next, hremove, hreturns, hkeeps⟩ := removal_keeps_contexts_iff ops hrun
    (hreachable.tracked.current.trans hexecuting) (fun _ => 0#8) 0x11F768#64
  obtain ⟨exit, result, after, hreturn⟩ := hreturns (by rw [hcount]; decide)
  refine ⟨execution, next, exit, result, after, hstarted, hexecuting, hsaved, hremove, hreturn, ?_⟩
  refine (hkeeps exit result after hreturn).mpr ?_
  rintro heir ⟨slot, hslot, hother, _⟩
  -- Only the second task is left to inherit.
  have hheir := hqueue slot
  rw [hstarted, Option.bind_some, hslot] at hheir
  simp only [List.mem_cons, Option.some.injEq, reduceCtorEq, hother, List.not_mem_nil, or_false,
    false_or] at hheir
  rw [hheir, hsaved]

set_option maxRecDepth 8000 in
/-- Two prepared tasks, the first of them started and then removed. The next
interrupt stores its stack pointer in the second one, whose own frame is lost. -/
theorem removal_overwrites_second_task :
    ∃ execution, Execution.Reachable execution ∧ execution.executing = some 1#64 ∧
      execution.statics.scheduler.currentTask = some 1#64 ∧
      ∃ next after, execution.statics.scheduler.removeTask 1#64 = some (true, next) ∧
        ({ execution.statics with scheduler := next } : Statics).timerInterrupt (fun _ => 0#8)
          0x10F000#64 = some (.sliceLeft, 0#64, after) ∧
        execution.statics.scheduler.savedRsp 2#64 = some 0x11F768#64 ∧
        after.scheduler.savedRsp 2#64 = some 0x10F000#64 ∧
        ¬ execution.statics.scheduler.KeepsContexts after.scheduler 1#64 := by
  have hstarted := Execution.Reachable.step (Execution.Reachable.step (Execution.Reachable.step
    Execution.Reachable.initial (.created 1#64 1#8 (some 0x110000#64) rfl))
    (.created 2#64 1#8 (some 0x120000#64) rfl)) (.start 1#64 rfl rfl)
  refine ⟨_, hstarted, rfl, hstarted.tracked.current, _, _, rfl, rfl, rfl, rfl, ?_⟩
  exact Scheduler.not_keepsContexts (by decide : (2#64 : TaskId) ≠ 1#64) rfl rfl (by decide)

end Statics

end UnboundOS.Sched
