import UnboundOS.Sched.CurrentRemoval

/-!
Task states and scheduling. A task in state `Blocked` or `Terminated` stays in
the run queue, and neither `schedule` nor `timer_interrupt` looks at the state
of the task it selects or writes. Such a task is left alone only as long as its
turn does not come: it is not current when an interrupt arrives and not at the
front when the queue is rotated.
-/

namespace UnboundOS.Sched

theorem RunQueue.Upcoming.unique {queue : RunQueue} (hqueue : queue.Sound) {first second : TaskId}
    (hfirst : queue.Upcoming first) (hsecond : queue.Upcoming second) : first = second := by
  rw [← RunQueue.rotate_first_iff hqueue] at hfirst hsecond
  exact Option.some.inj (hfirst.symm.trans hsecond)

namespace Scheduler

/-- The task is `Blocked` or `Terminated`. -/
def Halted (self : Scheduler) (taskId : TaskId) : Prop :=
  ∃ task, self.task taskId = some task ∧ task.isRunnable = false

/-- A timer interrupt that returned `result` left every halted task alone. -/
structure SparesHalted (before after : Scheduler) (result : U64) : Prop where
  not_current : ∀ taskId, before.Halted taskId → after.currentTask ≠ some taskId
  not_resumed : ∀ taskId, before.Halted taskId → result ≠ 0#64 →
    before.savedRsp taskId ≠ some result
  stays : ∀ taskId, before.Halted taskId → after.Halted taskId

/-- The next tick uses up the slice of the current task, and it is the turn of
another one. -/
def SwitchDue (self : Scheduler) (nextId : TaskId) : Prop :=
  ∃ taskId task, self.currentTask = some taskId ∧ self.task taskId = some task ∧
    defaultTimeSliceTicks ≤ task.timeSliceTicks + 1#64 ∧ self.runQueue.Upcoming nextId ∧
    nextId ≠ taskId

/-- No halted task is in the way of a timer interrupt: neither the current task
nor the one whose turn it is, and none shares its saved pointer with a frame
that is about to be resumed. -/
structure TimerAdmits (scheduler : Scheduler) (memory : X86.Memory) : Prop where
  current : ∀ taskId, scheduler.currentTask = some taskId → ¬ scheduler.Halted taskId
  next : ∀ nextId, scheduler.SwitchDue nextId → ¬ scheduler.Halted nextId
  frame : ∀ nextId rsp, scheduler.SwitchDue nextId → scheduler.savedRsp nextId = some rsp →
    validateInterruptFrame memory rsp = true →
    ∀ taskId, scheduler.Halted taskId → scheduler.savedRsp taskId ≠ some rsp

theorem not_halted {self : Scheduler} {taskId : TaskId} {task : Task}
    (htask : self.task taskId = some task) (hrunnable : task.isRunnable = true) :
    ¬ self.Halted taskId := by
  rintro ⟨other, hother, hhalted⟩
  rw [htask] at hother
  cases hother
  rw [hrunnable] at hhalted
  cases hhalted

/-- What an interrupt of the task `taskId` does, in terms of whose turn it is. -/
structure Outcome (before after : Scheduler) (memory : X86.Memory) (taskId : TaskId)
    (result : U64) : Prop where
  revives : ∀ other, other = taskId ∨ before.SwitchDue other → ¬ after.Halted other
  keeps : ∀ other, other ≠ taskId → ¬ before.SwitchDue other → after.task other = before.task other
  returns : (after.currentTask = some taskId ∧ result = 0#64) ∨
    ∃ nextId, before.SwitchDue nextId ∧ after.currentTask = some nextId ∧
      before.savedRsp nextId = some result ∧ validateInterruptFrame memory result = true
  switches : ∀ nextId rsp, before.SwitchDue nextId → before.savedRsp nextId = some rsp →
    validateInterruptFrame memory rsp = true → result = rsp

section Outcome

variable {self next : Scheduler} {memory : X86.Memory} {taskId nextId : TaskId}
  {task nextTask stopped started : Task} {result : U64}

/-- No switch is due: one task is written, and it goes on. -/
theorem outcome_of_stay (hnone : ∀ other, ¬ self.SwitchDue other)
    (hcurrent : next.currentTask = some taskId)
    (htasks : next.task = Function.update self.task taskId (some stopped))
    (hstopped : stopped.isRunnable = true) : self.Outcome next memory taskId 0#64 where
  revives other hother := by
    have hsame := hother.resolve_right (hnone other)
    refine not_halted ?_ hstopped
    rw [htasks, hsame, Function.update_self]
  keeps other hother _ := by rw [htasks, Function.update_of_ne hother]
  returns := .inl ⟨hcurrent, rfl⟩
  switches nextId rsp hdue := absurd hdue (hnone nextId)

/-- A switch is due: two tasks are written, whether or not it takes place. -/
theorem outcome_of_due (hdue : self.SwitchDue nextId)
    (honly : ∀ other, self.SwitchDue other → other = nextId) (hother : nextId ≠ taskId)
    (hnext : self.task nextId = some nextTask)
    (htasks : next.task = Function.update (Function.update self.task taskId (some stopped)) nextId
      (some started))
    (hstopped : stopped.isRunnable = true) (hstarted : started.isRunnable = true)
    (hreturn : (validateInterruptFrame memory nextTask.interruptRsp = false ∧
        next.currentTask = some taskId ∧ result = 0#64) ∨
      (validateInterruptFrame memory nextTask.interruptRsp = true ∧
        next.currentTask = some nextId ∧ result = nextTask.interruptRsp)) :
    self.Outcome next memory taskId result where
  revives other hrevived := by
    by_cases hsame : other = nextId
    · refine not_halted ?_ hstarted
      rw [htasks, hsame, Function.update_self]
    · have hcurrent := hrevived.resolve_right fun hswitch => hsame (honly other hswitch)
      refine not_halted ?_ hstopped
      rw [htasks, Function.update_of_ne hsame, hcurrent, Function.update_self]
  keeps other hcurrent hundue := by
    have hsame : other ≠ nextId := by
      rintro rfl
      exact hundue hdue
    rw [htasks, Function.update_of_ne hsame, Function.update_of_ne hcurrent]
  returns := by
    rcases hreturn with ⟨_, hcurrent, hresult⟩ | ⟨hvalid, hcurrent, hresult⟩
    · exact .inl ⟨hcurrent, hresult⟩
    · refine .inr ⟨nextId, hdue, hcurrent, ?_, ?_⟩
      · rw [savedRsp_of_task hnext, hresult]
      · rw [hresult, hvalid]
  switches other rsp hswitch hsaved hvalid := by
    rw [honly other hswitch, savedRsp_of_task hnext] at hsaved
    cases hsaved
    rcases hreturn with ⟨hinvalid, _⟩ | ⟨_, _, hresult⟩
    · rw [hvalid] at hinvalid
      cases hinvalid
    · exact hresult

theorem Interrupted.outcome {rsp : U64} (hself : self.Coherent)
    (hcurrent : self.currentTask = some taskId) (htask : self.task taskId = some task)
    (hinterrupted : self.Interrupted memory rsp taskId task result next) :
    self.Outcome next memory taskId result := by
  have hdue {other : TaskId} (hswitch : self.SwitchDue other) :
      defaultTimeSliceTicks ≤ task.timeSliceTicks + 1#64 ∧ self.runQueue.Upcoming other ∧
        other ≠ taskId := by
    obtain ⟨currentId, found, hfound, hlookup, hswitch⟩ := hswitch
    rw [hcurrent] at hfound
    cases hfound
    rw [htask] at hlookup
    cases hlookup
    exact hswitch
  cases hinterrupted with
  | sliceLeft hleft hstay htasks =>
      exact outcome_of_stay (fun other hswitch => hleft (hdue hswitch).1) hstay htasks rfl
  | @sliceOver ticked _ _ hover hqueue htasks hselected =>
      have honly {nextId : TaskId} (hupcoming : ticked.runQueue.Upcoming nextId) (other : TaskId)
          (hswitch : self.SwitchDue other) : other = nextId :=
        (hdue hswitch).2.1.unique hself.queue (hqueue ▸ hupcoming)
      have hlookup {nextId : TaskId} {nextTask : Task} (hother : nextId ≠ taskId)
          (hnext : ticked.task nextId = some nextTask) : self.task nextId = some nextTask := by
        rwa [htasks, Function.update_of_ne hother] at hnext
      cases hselected with
      | same hupcoming hstay hwritten =>
          rw [htasks, Function.update_idem] at hwritten
          refine outcome_of_stay (fun other hswitch => ?_) hstay hwritten rfl
          exact (hdue hswitch).2.2 (honly hupcoming other hswitch)
      | @refused _ nextId _ hupcoming hother hnext hinvalid hstay hwritten =>
          rw [htasks, Function.update_idem] at hwritten
          exact outcome_of_due ⟨taskId, task, hcurrent, htask, hover, hqueue ▸ hupcoming, hother⟩
            (honly hupcoming) hother (hlookup hother hnext) hwritten rfl rfl
            (.inl ⟨hinvalid, hstay, rfl⟩)
      | @switched _ nextId _ hupcoming hother hnext hvalid hmoved hwritten =>
          rw [htasks, Function.update_idem] at hwritten
          exact outcome_of_due ⟨taskId, task, hcurrent, htask, hover, hqueue ▸ hupcoming, hother⟩
            (honly hupcoming) hother (hlookup hother hnext) hwritten rfl rfl
            (.inr ⟨hvalid, hmoved, rfl⟩)

theorem Outcome.spares_iff (houtcome : self.Outcome next memory taskId result)
    (hcurrent : self.currentTask = some taskId) :
    self.SparesHalted next result ↔ self.TimerAdmits memory := by
  constructor
  · intro hspares
    refine ⟨fun other hother hhalted => ?_, fun nextId hdue hhalted => ?_,
      fun nextId rsp hdue hsaved hvalid other hhalted => ?_⟩
    · rw [hcurrent] at hother
      exact houtcome.revives other (.inl (Option.some.inj hother).symm)
        (hspares.stays other hhalted)
    · exact houtcome.revives nextId (.inr hdue) (hspares.stays nextId hhalted)
    · have hresult := houtcome.switches nextId rsp hdue hsaved hvalid
      rw [← hresult] at hvalid ⊢
      exact hspares.not_resumed other hhalted (validateInterruptFrame_ne_zero hvalid)
  · intro hadmits
    refine ⟨fun other hhalted hmoved => ?_, fun other hhalted hresult => ?_,
      fun other hhalted => ?_⟩
    · rcases houtcome.returns with ⟨hstay, _⟩ | ⟨nextId, hdue, hnext, _⟩
      · rw [hmoved] at hstay
        cases hstay
        exact hadmits.current taskId hcurrent hhalted
      · rw [hmoved] at hnext
        cases hnext
        exact hadmits.next other hdue hhalted
    · rcases houtcome.returns with ⟨_, hzero⟩ | ⟨nextId, hdue, _, hsaved, hvalid⟩
      · exact absurd hzero hresult
      · exact hadmits.frame nextId result hdue hsaved hvalid other hhalted
    · have hother : other ≠ taskId := by
        rintro rfl
        exact hadmits.current other hcurrent hhalted
      have hundue : ¬ self.SwitchDue other := fun hdue => hadmits.next other hdue hhalted
      obtain ⟨found, hfound, hstate⟩ := hhalted
      exact ⟨found, (houtcome.keeps other hother hundue).trans hfound, hstate⟩

end Outcome

end Scheduler

namespace Statics

theorem timerInterrupt_spares_iff (self : Statics) {next : Statics}
    (hself : self.scheduler.Coherent)
    {memory : X86.Memory} {rsp result : U64} {exit : TimerExit}
    (hreturn : self.timerInterrupt memory rsp = some (exit, result, next)) :
    self.scheduler.SparesHalted next.scheduler result ↔ self.scheduler.TimerAdmits memory := by
  cases hcurrent : self.scheduler.currentTask with
  | none =>
      rw [timerInterrupt_noCurrent hcurrent] at hreturn
      cases hreturn
      have hundue (nextId : TaskId) : ¬ self.scheduler.SwitchDue nextId := by
        rintro ⟨taskId, _, hsome, _⟩
        rw [hcurrent] at hsome
        cases hsome
      refine iff_of_true ⟨?_, ?_, ?_⟩ ⟨?_, ?_, ?_⟩
      · intro taskId _ hsome
        rw [hcurrent] at hsome
        cases hsome
      · exact fun taskId _ hzero => absurd rfl hzero
      · exact fun taskId hhalted => hhalted
      · intro taskId hsome
        rw [hcurrent] at hsome
        cases hsome
      · exact fun nextId hdue => absurd hdue (hundue nextId)
      · exact fun nextId rsp hdue => absurd hdue (hundue nextId)
  | some taskId =>
      obtain ⟨task, htask⟩ := hself.task_of_mem (hself.current_mem taskId hcurrent)
      have hinterrupted := timerInterrupt_interrupted self hself hcurrent htask hreturn
      exact (hinterrupted.outcome hself hcurrent htask).spares_iff hcurrent

/-- One call of `schedule` or `timer_interrupt` respects the states of tasks. -/
def OnlyRunnable (before : Statics) : KernelOp → SchedulerEvent → Statics → Prop
  | .scheduler .schedule, _, after => ∀ taskId, before.scheduler.Halted taskId →
      after.scheduler.currentTask ≠ some taskId
  | .scheduler (.timerInterrupt _ _), .interrupted _ result, after =>
      before.scheduler.SparesHalted after.scheduler result
  | _, _, _ => True

/-- What a call needs for that: the task whose turn it is can run. -/
def Admits (before : Statics) : KernelOp → Prop
  | .scheduler .schedule => ∀ taskId, before.scheduler.runQueue.Upcoming taskId →
      ¬ before.scheduler.Halted taskId
  | .scheduler (.timerInterrupt memory _) => before.scheduler.TimerAdmits memory
  | _ => True

theorem onlyRunnable_iff {before after : Statics} (hbefore : before.scheduler.Coherent)
    {op : KernelOp} {event : SchedulerEvent}
    (hstep : before.kernelStep op = some (event, after)) :
    before.OnlyRunnable op event after ↔ before.Admits op := by
  cases op with
  | updateTask taskId update => rfl
  | scheduler op =>
      cases op with
      | schedule =>
          cases hstep
          change (∀ taskId, _ → before.scheduler.schedule.currentTask ≠ some taskId) ↔ _
          refine forall_congr' fun taskId => ?_
          rw [Ne, Scheduler.schedule_currentTask_iff hbefore]
          exact imp_not_comm
      | timerInterrupt memory rsp =>
          change before.step (.timerInterrupt memory rsp) = _ at hstep
          rw [step_timerInterrupt, Option.map_eq_some_iff] at hstep
          obtain ⟨⟨exit, result, next⟩, hreturn, hsame⟩ := hstep
          cases hsame
          exact timerInterrupt_spares_iff before hbefore hreturn
      | createTask task => rfl
      | removeTask taskId => rfl
      | setCurrent taskId => rfl
      | tick => rfl
      | switchKernelToTask taskId => rfl
      | switchTaskToTask oldTaskId newTaskId saved => rfl
      | switchTaskToKernel taskId saved => rfl

/-- In every kernel run: all calls of `schedule` and `timer_interrupt` leave the
tasks that are `Blocked` or `Terminated` alone exactly if no such task is in the
way of any of them. -/
theorem only_runnable_scheduled_iff (ops : List KernelOp) :
    everyStep kernelStep OnlyRunnable initial ops ↔
      everyStep kernelStep (fun before op _ _ => before.Admits op) initial ops := by
  have hagree (before : Statics) (op : KernelOp) (event : SchedulerEvent) (after : Statics)
      (hbefore : before.scheduler.Coherent) (hstep : before.kernelStep op = some (event, after)) :
      (before.OnlyRunnable op event after ↔ before.Admits op) ∧ after.scheduler.Coherent :=
    ⟨onlyRunnable_iff hbefore hstep, kernelStep_coherent hbefore hstep⟩
  exact everyStep_iff hagree ops Scheduler.new_coherent

/-- Two tasks, the second of them blocked: `schedule` makes it current, and the
next timer interrupt puts it back into state `Running`. -/
theorem blocked_task_scheduled :
    ∃ events final, runChecked kernelStep initial
        [.scheduler (.createTask (Task.new 1#64 1#8)), .scheduler (.createTask (Task.new 2#64 1#8)),
          .updateTask 2#64 (.setState .blocked), .scheduler .schedule] = some (events, final) ∧
      final.scheduler.currentTask = some 2#64 ∧
      (final.scheduler.task 2#64).map Task.state = some .blocked ∧
      (final.timerInterrupt (fun _ => 0#8) 0x9000#64).map
        (fun result => (result.2.2.scheduler.task 2#64).map Task.state) = some (some .running) ∧
      ¬ everyStep kernelStep OnlyRunnable initial
        [.scheduler (.createTask (Task.new 1#64 1#8)), .scheduler (.createTask (Task.new 2#64 1#8)),
          .updateTask 2#64 (.setState .blocked), .scheduler .schedule] := by
  refine ⟨_, _, rfl, by decide +kernel, by decide +kernel, by decide +kernel, ?_⟩
  intro hruns
  obtain ⟨_, hsecond⟩ := hruns _ _ rfl
  obtain ⟨_, hblocked⟩ := hsecond _ _ rfl
  obtain ⟨_, hschedule⟩ := hblocked _ _ rfl
  obtain ⟨hspares, _⟩ := hschedule _ _ rfl
  exact hspares 2#64 ⟨_, rfl, rfl⟩ (by decide +kernel)

end Statics

end UnboundOS.Sched
