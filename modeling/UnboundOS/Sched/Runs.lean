import UnboundOS.Sched.Coherence

/-!
Runs of the scheduler: any sequence of its operations, with any arguments, from
the empty scheduler. Every state on the way is coherent, and no event is a
fallback. The only panic is an overflow of the switch counter, which needs
`2 ^ 64` interrupts. Kernel runs have changes of single tasks in between.
-/

namespace UnboundOS.Sched

inductive SchedulerOp where
  | createTask (task : Task)
  | removeTask (taskId : TaskId)
  | setCurrent (taskId : TaskId)
  | schedule
  | tick
  | timerInterrupt (memory : X86.Memory) (rsp : U64)
  | switchKernelToTask (taskId : TaskId)
  | switchTaskToTask (oldTaskId newTaskId : TaskId) (saved : TaskContext)
  | switchTaskToKernel (taskId : TaskId) (saved : TaskContext)

/-- What kernel code does to a task behind a reference from `task_mut`. -/
inductive TaskUpdate where
  | setState (state : TaskState)
  | startSlice
  | setContext (context : TaskContext)
  | initializeInterruptContext (stackTop : U64)

def TaskUpdate.apply : TaskUpdate → Task → Task
  | .setState state, task => task.setState state
  | .startSlice, task => task.startSlice
  | .setContext context, task => task.setContext context
  | .initializeInterruptContext stackTop, task => task.initializeInterruptContext stackTop

theorem TaskUpdate.apply_id (update : TaskUpdate) (task : Task) :
    (update.apply task).id = task.id := by
  cases update <;> rfl

/-- The operations of the scheduler, and those on one of its tasks. -/
inductive KernelOp where
  | scheduler (op : SchedulerOp)
  | updateTask (taskId : TaskId) (update : TaskUpdate)

inductive SchedulerEvent where
  | taskCreated (exit : CreateExit) (result : Option TaskId)
  | taskRemoved (result : Bool)
  | currentSet (result : Bool)
  | interrupted (exit : TimerExit) (rsp : U64)
  | done
deriving DecidableEq

/-- The call ended in a branch for a state that should not occur. -/
def SchedulerEvent.fallback : SchedulerEvent → Bool
  | .taskCreated exit _ => exit = .rolledBack
  | .interrupted exit _ => exit.fallback
  | _ => false

namespace Statics

def step (self : Statics) : SchedulerOp → Checked (SchedulerEvent × Statics)
  | .createTask task => do
      let (exit, result, scheduler) ← self.scheduler.createTask task
      some (.taskCreated exit result, { self with scheduler := scheduler })
  | .removeTask taskId => do
      let (result, scheduler) ← self.scheduler.removeTask taskId
      some (.taskRemoved result, { self with scheduler := scheduler })
  | .setCurrent taskId =>
      let (result, scheduler) := self.scheduler.setCurrent taskId
      some (.currentSet result, { self with scheduler := scheduler })
  | .schedule => some (.done, { self with scheduler := self.scheduler.schedule })
  | .tick => some (.done, { self with scheduler := self.scheduler.tick })
  | .timerInterrupt memory rsp => do
      let (exit, result, next) ← self.timerInterrupt memory rsp
      some (.interrupted exit result, next)
  | .switchKernelToTask taskId => some (.done, self.switchKernelToTask taskId)
  | .switchTaskToTask oldTaskId newTaskId saved =>
      some (.done, self.switchTaskToTask oldTaskId newTaskId saved)
  | .switchTaskToKernel taskId saved => some (.done, self.switchTaskToKernel taskId saved)

theorem switchKernelToTask_coherent {self : Statics} (hself : self.scheduler.Coherent)
    (taskId : TaskId) : (self.switchKernelToTask taskId).scheduler.Coherent := by
  unfold switchKernelToTask
  cases htask : self.scheduler.task taskId with
  | none => exact hself
  | some task => exact hself.setCurrentTask (hself.mem_of_task htask)

theorem switchTaskToTask_coherent {self : Statics} (hself : self.scheduler.Coherent)
    (oldTaskId newTaskId : TaskId) (saved : TaskContext) :
    (self.switchTaskToTask oldTaskId newTaskId saved).scheduler.Coherent := by
  unfold switchTaskToTask
  split
  · exact hself
  · split
    · rename_i hnew
      exact (hself.setCurrentTask (hself.mem_of_task hnew)).modifyTask oldTaskId
        (·.setContext saved) fun _ => rfl
    · exact hself

theorem switchTaskToKernel_coherent {self : Statics} (hself : self.scheduler.Coherent)
    (taskId : TaskId) (saved : TaskContext) :
    (self.switchTaskToKernel taskId saved).scheduler.Coherent := by
  unfold switchTaskToKernel
  cases self.scheduler.task taskId with
  | none => exact hself
  | some task =>
      exact hself.clearCurrentTask.modifyTask taskId (·.setContext saved) fun _ => rfl

theorem step_createTask {self : Statics} {task : Task} {exit : CreateExit}
    {result : Option TaskId} {next : Scheduler}
    (hcreate : self.scheduler.createTask task = some (exit, result, next)) :
    self.step (.createTask task) =
      some (.taskCreated exit result, { self with scheduler := next }) := by
  unfold step
  dsimp only
  rw [hcreate]
  dsimp only [Option.bind_eq_bind, Option.bind_some]

theorem step_removeTask {self : Statics} {taskId : TaskId} {result : Bool} {next : Scheduler}
    (hremove : self.scheduler.removeTask taskId = some (result, next)) :
    self.step (.removeTask taskId) =
      some (.taskRemoved result, { self with scheduler := next }) := by
  unfold step
  dsimp only
  rw [hremove]
  dsimp only [Option.bind_eq_bind, Option.bind_some]

theorem step_timerInterrupt (self : Statics) (memory : X86.Memory) (rsp : U64) :
    self.step (.timerInterrupt memory rsp) =
      (self.timerInterrupt memory rsp).map
        (fun result => (.interrupted result.1 result.2.1, result.2.2)) := by
  unfold step
  dsimp only
  cases self.timerInterrupt memory rsp with
  | none => dsimp only [Option.bind_eq_bind, Option.bind_none, Option.map_none]
  | some result => dsimp only [Option.bind_eq_bind, Option.bind_some, Option.map_some]

/-- One operation: the debug counter overflows, or the call takes no fallback
branch and leaves a coherent scheduler. -/
theorem step_cases {self : Statics} (hself : self.scheduler.Coherent) (op : SchedulerOp) :
    (self.preemptSwitchDebugCount.toNat + 1 = 2 ^ 64 ∧ self.step op = none) ∨
    ∃ event after, self.step op = some (event, after) ∧ event.fallback = false ∧
      after.scheduler.Coherent ∧
      after.preemptSwitchDebugCount.toNat ≤ self.preemptSwitchDebugCount.toNat + 1 := by
  cases op with
  | createTask task =>
      rcases Scheduler.createTask_cases hself task with ⟨_, exit, hexit, hcreate⟩ |
        ⟨_, _, next, hcreate, hnext⟩
      · have hevent : (SchedulerEvent.taskCreated exit none).fallback = false :=
          decide_eq_false hexit
        refine Or.inr ⟨.taskCreated exit none, self, ?_, hevent, hself, Nat.le_succ _⟩
        exact step_createTask hcreate
      · refine Or.inr ⟨.taskCreated .created (some task.id), { self with scheduler := next }, ?_,
          rfl, hnext, Nat.le_succ _⟩
        exact step_createTask hcreate
  | removeTask taskId =>
      rcases Scheduler.removeTask_cases hself taskId with ⟨_, hremove⟩ | ⟨_, next, hremove, hnext⟩
      · refine Or.inr ⟨.taskRemoved false, self, ?_, rfl, hself, Nat.le_succ _⟩
        exact step_removeTask hremove
      · refine Or.inr ⟨.taskRemoved true, { self with scheduler := next }, ?_, rfl, hnext,
          Nat.le_succ _⟩
        exact step_removeTask hremove
  | setCurrent taskId =>
      exact Or.inr ⟨.currentSet (self.scheduler.setCurrent taskId).1,
        { self with scheduler := (self.scheduler.setCurrent taskId).2 }, rfl, rfl,
        hself.setCurrent taskId, Nat.le_succ _⟩
  | schedule =>
      exact Or.inr ⟨.done, { self with scheduler := self.scheduler.schedule }, rfl, rfl,
        (Scheduler.schedule_cases hself).1, Nat.le_succ _⟩
  | tick =>
      exact Or.inr ⟨.done, { self with scheduler := self.scheduler.tick }, rfl, rfl, hself.tick,
        Nat.le_succ _⟩
  | timerInterrupt memory rsp =>
      rcases timerInterrupt_advances hself memory rsp with ⟨hcount, hpanic⟩ |
        ⟨exit, result, after, hreturn, hexit, hafter, hcount⟩
      · refine Or.inl ⟨hcount, ?_⟩
        rw [step_timerInterrupt, hpanic, Option.map_none]
      · refine Or.inr ⟨.interrupted exit result, after, ?_, hexit, hafter, hcount⟩
        rw [step_timerInterrupt, hreturn, Option.map_some]
  | switchKernelToTask taskId =>
      refine Or.inr ⟨_, _, rfl, rfl, switchKernelToTask_coherent hself taskId, ?_⟩
      unfold switchKernelToTask
      split <;> exact Nat.le_succ _
  | switchTaskToTask oldTaskId newTaskId saved =>
      refine Or.inr ⟨_, _, rfl, rfl, switchTaskToTask_coherent hself oldTaskId newTaskId saved, ?_⟩
      unfold switchTaskToTask
      split
      · exact Nat.le_succ _
      · split <;> exact Nat.le_succ _
  | switchTaskToKernel taskId saved =>
      refine Or.inr ⟨_, _, rfl, rfl, switchTaskToKernel_coherent hself taskId saved, ?_⟩
      unfold switchTaskToKernel
      split <;> exact Nat.le_succ _

theorem step_coherent {self next : Statics} (hself : self.scheduler.Coherent) {op : SchedulerOp}
    {event : SchedulerEvent} (hstep : self.step op = some (event, next)) :
    event.fallback = false ∧ next.scheduler.Coherent := by
  rcases step_cases hself op with ⟨_, hpanic⟩ | ⟨_, _, hafter, hfallback, hcoherent, _⟩
  · rw [hpanic] at hstep
    cases hstep
  · rw [hafter] at hstep
    cases hstep
    exact ⟨hfallback, hcoherent⟩

theorem run_coherent (ops : List SchedulerOp) {events : List SchedulerEvent} {final : Statics}
    (hrun : runChecked step initial ops = some (events, final)) :
    final.scheduler.Coherent ∧ ∀ event ∈ events, event.fallback = false :=
  runChecked_invariant (fun _ _ _ _ hstate hstep => step_coherent hstate hstep) ops
    Scheduler.new_coherent hrun

def kernelStep (self : Statics) : KernelOp → Checked (SchedulerEvent × Statics)
  | .scheduler op => self.step op
  | .updateTask taskId update =>
      some (.done, { self with scheduler := self.scheduler.modifyTask taskId update.apply })

theorem kernelStep_coherent {self next : Statics} (hself : self.scheduler.Coherent) {op : KernelOp}
    {event : SchedulerEvent} (hstep : self.kernelStep op = some (event, next)) :
    next.scheduler.Coherent := by
  cases op with
  | scheduler op => exact (step_coherent hself hstep).2
  | updateTask taskId update =>
      cases hstep
      exact hself.modifyTask taskId update.apply update.apply_id

theorem kernelRun_coherent (ops : List KernelOp) {events : List SchedulerEvent} {final : Statics}
    (hrun : runChecked kernelStep initial ops = some (events, final)) :
    final.scheduler.Coherent := by
  have hkeeps (state : Statics) (op : KernelOp) (event : SchedulerEvent) (next : Statics)
      (hstate : state.scheduler.Coherent) (hstep : state.kernelStep op = some (event, next)) :
      True ∧ next.scheduler.Coherent := ⟨trivial, kernelStep_coherent hstate hstep⟩
  exact (runChecked_invariant hkeeps ops Scheduler.new_coherent hrun).1

/-- Fewer than `2 ^ 64` operations never panic. -/
theorem run_total (ops : List SchedulerOp) (hops : ops.length < 2 ^ 64) :
    ∃ events final, runChecked step initial ops = some (events, final) := by
  let ready (left : Nat) (state : Statics) : Prop :=
    state.scheduler.Coherent ∧ state.preemptSwitchDebugCount.toNat + left < 2 ^ 64
  have hsteps : ∀ left state op, ready (left + 1) state →
      ∃ event next, step state op = some (event, next) ∧ ready left next := by
    rintro left state op ⟨hstate, hleft⟩
    rcases step_cases hstate op with ⟨hcount, _⟩ | ⟨event, after, hafter, _, hcoherent, hcount⟩
    · omega
    · exact ⟨event, after, hafter, hcoherent, by omega⟩
  have hready : ready ops.length initial := ⟨Scheduler.new_coherent, by
    change 0 + ops.length < 2 ^ 64
    omega⟩
  exact runChecked_total hsteps ops hready

/-- The scheduler after any run: what its containers hold, and what a creation
does next. -/
structure Structured (scheduler : Scheduler) : Prop where
  queue_distinct : Distinct scheduler.runQueue.tasks
  table_distinct : Distinct scheduler.ids
  same_ids : ∀ taskId, (∃ slot, scheduler.runQueue.tasks slot = some taskId) ↔
    ∃ slot task, scheduler.tasks slot = some task ∧ task.id = taskId
  queue_count : scheduler.runQueue.count = scheduler.taskCount
  task_count : scheduler.taskCount = occupancy scheduler.ids
  task_count_le : scheduler.taskCount ≤ maxSchedulerTasks
  current : ∀ taskId, scheduler.currentTask = some taskId →
    ∃ slot, scheduler.runQueue.tasks slot = some taskId
  /-- A creation fails exactly with eight tasks or a known id, without effect. -/
  create : ∀ task, ∃ exit result next, scheduler.createTask task = some (exit, result, next) ∧
    exit ≠ .rolledBack ∧
    (result = none ↔ scheduler.taskCount = maxSchedulerTasks ∨
      ∃ slot, scheduler.runQueue.tasks slot = some task.id) ∧
    (result = none → next = scheduler)

theorem structured_of_coherent {scheduler : Scheduler} (hscheduler : scheduler.Coherent) :
    Structured scheduler where
  queue_distinct := hscheduler.queue.distinct
  table_distinct := hscheduler.distinct
  same_ids := by
    intro taskId
    rw [← mem_held, ← RunQueue.ids, ← hscheduler.same_ids, mem_held]
    simp only [Scheduler.ids, Option.map_eq_some_iff]
  queue_count := hscheduler.queueCount_eq
  task_count := hscheduler.count_eq
  task_count_le := hscheduler.taskCount_le
  current := fun taskId hcurrent => mem_held.mp (hscheduler.current_mem taskId hcurrent)
  create := by
    intro task
    rcases Scheduler.createTask_cases hscheduler task with ⟨hreason, exit, hexit, hcreate⟩ |
      ⟨hroom, hnew, next, hcreate, _⟩
    · refine ⟨exit, none, scheduler, hcreate, hexit, ?_, fun _ => rfl⟩
      exact iff_of_true rfl (hreason.imp_right mem_held.mp)
    · refine ⟨.created, some task.id, next, hcreate, by decide, ?_, fun hnone => ?_⟩
      · refine iff_of_false (Option.some_ne_none _) ?_
        rintro (hfull | hknown)
        · omega
        · exact hnew (mem_held.mpr hknown)
      · cases hnone

/-- Every reachable scheduler is structured and no call has ended in a fallback
branch; a run panics only after `2 ^ 64` operations. -/
theorem scheduler_structured (ops : List SchedulerOp) :
    (∀ events final, runChecked step initial ops = some (events, final) →
      Structured final.scheduler ∧ ∀ event ∈ events, event.fallback = false) ∧
    (ops.length < 2 ^ 64 → ∃ events final, runChecked step initial ops = some (events, final)) := by
  refine ⟨fun events final hrun => ?_, run_total ops⟩
  obtain ⟨hcoherent, hevents⟩ := run_coherent ops hrun
  exact ⟨structured_of_coherent hcoherent, hevents⟩

/-- Two tasks, a third with a known id, a start, an interrupt and a removal. -/
theorem scheduler_structured_two_tasks :
    ∃ events final, runChecked step initial
        [.createTask (Task.new 1#64 1#8), .createTask (Task.new 2#64 1#8),
          .createTask (Task.new 1#64 7#8), .setCurrent 1#64,
          .timerInterrupt (fun _ => 0#8) 0x9000#64, .removeTask 1#64] = some (events, final) ∧
      Structured final.scheduler ∧ ∀ event ∈ events, event.fallback = false := by
  obtain ⟨events, final, hrun⟩ := (scheduler_structured
    [.createTask (Task.new 1#64 1#8), .createTask (Task.new 2#64 1#8),
      .createTask (Task.new 1#64 7#8), .setCurrent 1#64,
      .timerInterrupt (fun _ => 0#8) 0x9000#64, .removeTask 1#64]).2 (by decide)
  exact ⟨events, final, hrun, (scheduler_structured _).1 events final hrun⟩

end Statics

end UnboundOS.Sched
