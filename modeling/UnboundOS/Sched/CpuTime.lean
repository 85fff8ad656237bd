import UnboundOS.Base.Shares
import UnboundOS.Sched.Execution

/-!
The processor time of preempted tasks. A task keeps the processor for five
ticks, then `timer_interrupt` rotates the run queue and switches to the first
task in it. As the queue is rotated with its holes, the tasks do not take turns:
over one rotation of the sixty-four slots a task runs for five ticks for its own
slot and for five more for every empty slot that leads up to it.
-/

namespace UnboundOS.Sched

namespace Scheduler

/-- The ticks counted for a task. -/
def totalTicks (self : Scheduler) (taskId : TaskId) : Option U64 :=
  (self.task taskId).map Task.totalTicks

theorem schedule_runQueue (self : Scheduler) : self.schedule.runQueue = self.runQueue.rotate := by
  unfold schedule
  split
  · next hempty =>
      have hcount : self.runQueue.count = 0 := beq_iff_eq.mp hempty
      rw [RunQueue.rotate_of_single (by omega)]
  · rfl

end Scheduler

namespace Statics

section Queue

variable {self next : Statics} {memory : X86.Memory} {taskId : TaskId} {exit : TimerExit}
  {result : U64}

theorem selectNext_runQueue
    (hreturn : self.selectNext memory taskId = some (exit, result, next)) :
    next.scheduler.runQueue = self.scheduler.runQueue.rotate := by
  rw [← Scheduler.schedule_runQueue]
  unfold selectNext at hreturn
  generalize self.scheduler.schedule = scheduled at *
  dsimp only at hreturn
  split at hreturn
  · cases hreturn
    rw [Scheduler.modifyTask_runQueue]
  · split at hreturn
    · cases hreturn
      rw [Scheduler.modifyTask_runQueue]
    · split at hreturn
      · cases hreturn
        rw [Scheduler.modifyTask_runQueue]
      · obtain ⟨count, _, hpreempt⟩ := Option.bind_eq_some_iff.mp hreturn
        split at hpreempt
        · cases hpreempt
          rw [Scheduler.modifyTask_runQueue, Scheduler.modifyTask_runQueue]
        · cases hpreempt
          rw [Scheduler.modifyTask_runQueue, Scheduler.modifyTask_runQueue]

/-- The queue is rotated exactly at the end of a slice. -/
theorem timerInterrupt_runQueue (hself : self.scheduler.Coherent) {rsp : U64} {task : Task}
    (hcurrent : self.scheduler.currentTask = some taskId)
    (htask : self.scheduler.task taskId = some task)
    (hreturn : self.timerInterrupt memory rsp = some (exit, result, next)) :
    next.scheduler.runQueue = if defaultTimeSliceTicks ≤ task.timeSliceTicks + 1#64 then
      self.scheduler.runQueue.rotate else self.scheduler.runQueue := by
  have hexpired := Scheduler.ticked_sliceExpired hself hcurrent htask rsp
  have hqueue := self.scheduler.ticked_runQueue taskId rsp
  unfold timerInterrupt at hreturn
  simp only [hcurrent, htask, hexpired] at hreturn
  by_cases hover : defaultTimeSliceTicks ≤ task.timeSliceTicks + 1#64
  · rw [if_pos hover]
    rw [decide_eq_true hover, Bool.not_true, if_neg Bool.false_ne_true] at hreturn
    rw [selectNext_runQueue hreturn]
    exact congrArg RunQueue.rotate hqueue
  · rw [if_neg hover]
    rw [decide_eq_false hover, Bool.not_false, if_pos rfl] at hreturn
    cases hreturn
    exact hqueue

end Queue

/-- The state `position` ticks after the start of a slice, for a queue that had
these cells then. -/
structure Shared (cells : Fin maxTasks → Option TaskId) (position : Nat) (statics : Statics) :
    Prop where
  coherent : statics.scheduler.Coherent
  many : 1 < statics.scheduler.runQueue.count
  queue : statics.scheduler.runQueue.tasks = cells ∘ advance^[position / 5]
  current : statics.scheduler.currentTask = pick cells (position / 5)
  slice : ∀ taskId task, statics.scheduler.currentTask = some taskId →
    statics.scheduler.task taskId = some task → task.timeSliceTicks.toNat = position % 5

/-- Every task that waits for the processor has a frame that `timer_interrupt`
would accept. -/
def WaitingReady (statics : Statics) (memory : X86.Memory) : Prop :=
  ∀ taskId task, statics.scheduler.task taskId = some task →
    statics.scheduler.currentTask ≠ some taskId →
    validateInterruptFrame memory task.interruptRsp = true

section Lookups

variable {lookup : TaskId → Option Task} {taskId : TaskId} {old new : Task}

/-- A write that keeps a field keeps it for all tasks. -/
theorem map_update_same {β : Type} (field : Task → β) (change : Task → Task)
    (hsame : ∀ task, field (change task) = field task) (hold : lookup taskId = some old)
    (other : TaskId) : (Function.update lookup taskId (some (change old)) other).map field =
      (lookup other).map field := by
  by_cases hother : other = taskId
  · rw [hother, Function.update_self, hold, Option.map_some, Option.map_some, hsame]
  · rw [Function.update_of_ne hother]

/-- A write that counts a tick counts it for its task only. -/
theorem totalTicks_update (hold : lookup taskId = some old)
    (hcounted : new.totalTicks = old.totalTicks + 1#64) (other : TaskId) :
    (Function.update lookup taskId (some new) other).map Task.totalTicks =
      ((lookup other).map Task.totalTicks).map
        (· + if some taskId = some other then 1#64 else 0#64) := by
  by_cases hother : other = taskId
  · rw [hother, Function.update_self, hold, if_pos rfl, Option.map_some, hcounted]
    rfl
  · have hdifferent : ¬ some taskId = some other := fun hsame =>
      hother (Option.some.inj hsame).symm
    rw [Function.update_of_ne hother, if_neg hdifferent, Option.map_map]
    congr 1
    funext task
    exact (BitVec.add_zero _).symm

end Lookups

section Shared

variable {self next : Statics} {cells : Fin maxTasks → Option TaskId}
  {position : Nat} {memory : X86.Memory} {rsp : U64} {exit : TimerExit} {result : U64}

/-- Some task has the processor, at some point of its slice. -/
theorem Shared.running (hself : Shared cells position self) :
    ∃ taskId task, self.scheduler.currentTask = some taskId ∧
      self.scheduler.task taskId = some task ∧ task.timeSliceTicks.toNat = position % 5 := by
  have hfirst : self.scheduler.currentTask = self.scheduler.runQueue.first := by
    rw [hself.current, RunQueue.first_eq_firstHeld, hself.queue]
    rfl
  rcases self.scheduler.runQueue.first_cases with ⟨hempty, _⟩ | ⟨taskId, hmem, hfound⟩
  · have hmany := hself.many
    rw [hself.coherent.queue.count_eq_card, hempty, Finset.card_empty] at hmany
    omega
  · obtain ⟨task, htask⟩ := hself.coherent.task_of_mem hmem
    have hcurrent := hfirst.trans hfound
    exact ⟨taskId, task, hcurrent, htask, hself.slice taskId task hcurrent htask⟩

/-- The rotation at the end of a slice. -/
theorem Shared.rotated (hself : Shared cells position self) {nextId : TaskId}
    (hupcoming : self.scheduler.runQueue.Upcoming nextId) :
    self.scheduler.runQueue.rotate.tasks = cells ∘ advance^[position / 5 + 1] ∧
      self.scheduler.runQueue.rotate.count = self.scheduler.runQueue.count ∧
      pick cells (position / 5 + 1) = some nextId := by
  have hrotated : self.scheduler.runQueue.rotate.tasks = cells ∘ advance^[position / 5 + 1] := by
    rw [RunQueue.rotate_of_many hself.many, hself.queue, Function.comp_assoc,
      Function.iterate_succ]
  refine ⟨hrotated, by rw [RunQueue.rotate_of_many hself.many], ?_⟩
  have hfirst := (RunQueue.rotate_first_iff hself.coherent.queue).mpr hupcoming
  rw [RunQueue.first_eq_firstHeld, hrotated] at hfirst
  exact hfirst

/-- The next slice. -/
theorem Shared.nextSlice (hself : Shared cells position self) (hend : position % 5 = 4)
    (hcoherent : next.scheduler.Coherent)
    (hqueue : next.scheduler.runQueue = self.scheduler.runQueue.rotate) {nextId : TaskId}
    (hupcoming : self.scheduler.runQueue.Upcoming nextId)
    (hcurrent : next.scheduler.currentTask = some nextId) {task : Task}
    (hslice : next.scheduler.task nextId = some task.startSlice) :
    Shared cells (position + 1) next := by
  obtain ⟨htasks, hcount, hpick⟩ := hself.rotated hupcoming
  have hturn : (position + 1) / 5 = position / 5 + 1 := by omega
  refine ⟨hcoherent, ?_, ?_, ?_, ?_⟩
  · rw [hqueue, hcount]
    exact hself.many
  · rw [hqueue, htasks, hturn]
  · rw [hcurrent, hturn, hpick]
  · intro taskId found htaskId hfound
    rw [hcurrent] at htaskId
    cases htaskId
    rw [hslice] at hfound
    cases hfound
    change 0 = _
    omega

/-- With valid frames the end of a slice starts one of the upcoming task and
counts nothing. -/
theorem selected_shared {scheduler next : Scheduler} {running : TaskId} {task : Task}
    (hselected : scheduler.Selected memory running task result next)
    (htask : scheduler.task running = some task)
    (hvalid : ∀ taskId task, taskId ≠ running → scheduler.task taskId = some task →
      validateInterruptFrame memory task.interruptRsp = true) :
    (∃ nextId started, scheduler.runQueue.Upcoming nextId ∧ next.currentTask = some nextId ∧
        next.task nextId = some (Task.startSlice started)) ∧
      ∀ taskId, next.totalTicks taskId = scheduler.totalTicks taskId := by
  cases hselected with
  | same hupcoming hstay htasks =>
      refine ⟨⟨running, task, hupcoming, hstay, ?_⟩, ?_⟩
      · rw [htasks, Function.update_self]
      · intro taskId
        rw [Scheduler.totalTicks, htasks]
        exact map_update_same Task.totalTicks Task.startSlice (fun _ => rfl) htask taskId
  | refused _ hother hnext hinvalid _ _ =>
      rw [hvalid _ _ hother hnext] at hinvalid
      cases hinvalid
  | @switched _ nextId nextTask hupcoming hother hnext _ hswitched htasks =>
      have hstopped : Function.update scheduler.task running (some (task.setState .ready)) nextId =
          some nextTask := by
        rw [Function.update_of_ne hother, hnext]
      refine ⟨⟨nextId, nextTask, hupcoming, hswitched, ?_⟩, ?_⟩
      · rw [htasks, Function.update_self]
      · intro taskId
        rw [Scheduler.totalTicks, htasks,
          map_update_same Task.totalTicks Task.startSlice (fun _ => rfl) hstopped]
        exact map_update_same Task.totalTicks (·.setState .ready) (fun _ => rfl) htask taskId

/-- One tick: it is counted for the task that has the processor. -/
theorem timerInterrupt_shared (hself : Shared cells position self)
    (hready : self.WaitingReady memory)
    (hreturn : self.timerInterrupt memory rsp = some (exit, result, next)) :
    Shared cells (position + 1) next ∧
      ∀ taskId, next.scheduler.totalTicks taskId = (self.scheduler.totalTicks taskId).map
        (· + if pick cells (position / 5) = some taskId then 1#64 else 0#64) := by
  obtain ⟨running, task, hcurrent, htask, hslice⟩ := hself.running
  have hcoherent := timerInterrupt_coherent hself.coherent hreturn
  have hover : defaultTimeSliceTicks ≤ task.timeSliceTicks + 1#64 ↔ position % 5 = 4 := by
    rw [BitVec.le_def, BitVec.toNat_add, hslice, defaultTimeSliceTicks]
    simp only [BitVec.toNat_ofNat]
    omega
  have hqueue := timerInterrupt_runQueue hself.coherent hcurrent htask hreturn
  rw [← hself.current, hcurrent]
  cases timerInterrupt_interrupted self hself.coherent hcurrent htask hreturn with
  | sliceLeft hleft hstay htasks =>
      rw [if_neg hleft] at hqueue
      rw [hover] at hleft
      have hturn : (position + 1) / 5 = position / 5 := by omega
      refine ⟨⟨hcoherent, ?_, ?_, ?_, ?_⟩, fun taskId => ?_⟩
      · rw [hqueue]
        exact hself.many
      · rw [hqueue, hturn]
        exact hself.queue
      · rw [hstay, hturn, ← hself.current, hcurrent]
      · intro taskId found htaskId hfound
        rw [hstay] at htaskId
        cases htaskId
        rw [htasks, Function.update_self] at hfound
        cases hfound
        change (task.timeSliceTicks + 1#64).toNat = _
        rw [BitVec.toNat_add, hslice, BitVec.toNat_ofNat]
        omega
      · rw [Scheduler.totalTicks, htasks]
        exact totalTicks_update htask rfl taskId
  | sliceOver hend hticked htasks hselected =>
      rw [if_pos hend] at hqueue
      rw [hover] at hend
      have hlookup := congrFun htasks running
      rw [Function.update_self] at hlookup
      -- Only the frame of the interrupted task has changed.
      obtain ⟨⟨nextId, started, hupcoming, hnext, hslice⟩, htotals⟩ :=
        selected_shared hselected hlookup fun taskId waiting hother hwaiting => by
          rw [htasks, Function.update_of_ne hother] at hwaiting
          refine hready taskId waiting hwaiting fun hsame => hother ?_
          exact (Option.some.inj (hcurrent.symm.trans hsame)).symm
      rw [hticked] at hupcoming
      refine ⟨hself.nextSlice hend hcoherent hqueue hupcoming hnext hslice, fun taskId => ?_⟩
      rw [htotals, Scheduler.totalTicks, htasks]
      exact totalTicks_update htask rfl taskId

/-- The interrupts of the timer: memory at that time, and the frame of the task
that is interrupted. -/
def timerOps (interrupts : List (X86.Memory × U64)) : List SchedulerOp :=
  interrupts.map fun interrupt => .timerInterrupt interrupt.1 interrupt.2

/-- At each interrupt of a run the tasks that wait then have valid frames. -/
def WaitingValid : Statics → List (X86.Memory × U64) → Prop
  | _, [] => True
  | self, (memory, rsp) :: rest =>
      self.WaitingReady memory ∧ ∀ exit result next,
        self.timerInterrupt memory rsp = some (exit, result, next) → WaitingValid next rest

/-- Any number of ticks: each is counted for the task picked for its slice. -/
theorem run_shared {interrupts : List (X86.Memory × U64)}
    (hself : Shared cells position self) (hvalid : self.WaitingValid interrupts)
    (hcount : self.preemptSwitchDebugCount.toNat + interrupts.length < 2 ^ 64) :
    ∃ events final, runChecked step self (timerOps interrupts) = some (events, final) ∧
      Shared cells (position + interrupts.length) final ∧
      ∀ taskId, final.scheduler.totalTicks taskId = (self.scheduler.totalTicks taskId).map
        (· + BitVec.ofNat 64 (Nat.count
          (fun tick => pick cells ((position + tick) / 5) = some taskId) interrupts.length)) := by
  induction interrupts generalizing self position with
  | nil =>
      refine ⟨[], self, rfl, hself, fun taskId => ?_⟩
      simp
  | cons interrupt rest ih =>
      obtain ⟨memory, rsp⟩ := interrupt
      rw [List.length_cons] at hcount
      obtain ⟨hready, hlater⟩ := hvalid
      rcases timerInterrupt_advances hself.coherent memory rsp with
        ⟨hfull, _⟩ | ⟨exit, result, next, hreturn, _, _, hnextCount⟩
      · omega
      · obtain ⟨hnext, hticks⟩ := timerInterrupt_shared hself hready hreturn
        obtain ⟨events, final, hrun, hfinal, htotals⟩ :=
          ih hnext (hlater _ _ _ hreturn) (by omega)
        have hstep : self.step (.timerInterrupt memory rsp) =
            some (.interrupted exit result, next) := by
          rw [step_timerInterrupt, hreturn]
          rfl
        refine ⟨.interrupted exit result :: events, final, ?_, ?_, fun taskId => ?_⟩
        · rw [timerOps, List.map_cons, runChecked_cons_eq_some]
          exact ⟨_, next, events, hstep, hrun, rfl⟩
        · rwa [Nat.add_right_comm] at hfinal
        · have hcounted := count_window_succ
            (p := fun tick => pick cells (tick / 5) = some taskId) position rest.length
          rw [htotals, hticks, Option.map_map, List.length_cons, hcounted]
          congr 1
          funext ticks
          rw [Function.comp_apply, BitVec.ofNat_add, ← BitVec.add_assoc]
          split <;> rfl

end Shared

/-- While the frames of all waiting tasks are valid, five times sixty-four timer
interrupts bring the run queue back to where it was and give each task five
ticks for every slot from the task before it up to its own. -/
theorem cpu_time_follows_slots (ops : List KernelOp) {events : List SchedulerEvent} {self : Statics}
    (hreached : runChecked kernelStep initial ops = some (events, self))
    (hmany : 1 < self.scheduler.runQueue.count)
    (hfront : self.scheduler.currentTask = self.scheduler.runQueue.first)
    (hslice : ∀ taskId task, self.scheduler.currentTask = some taskId →
      self.scheduler.task taskId = some task → task.timeSliceTicks.toNat < 5)
    {interrupts : List (X86.Memory × U64)} (hvalid : self.WaitingValid interrupts)
    (hlength : interrupts.length = 5 * maxTasks)
    (hcount : self.preemptSwitchDebugCount.toNat + interrupts.length < 2 ^ 64) :
    ∃ events final, runChecked step self (timerOps interrupts) = some (events, final) ∧
      final.scheduler.runQueue.tasks = self.scheduler.runQueue.tasks ∧
      final.scheduler.currentTask = self.scheduler.currentTask ∧
      ∀ slot taskId, self.scheduler.runQueue.tasks slot = some taskId →
        final.scheduler.totalTicks taskId = (self.scheduler.totalTicks taskId).map
          (· + BitVec.ofNat 64 (5 * gap self.scheduler.runQueue.tasks slot)) := by
  have hcoherent := kernelRun_coherent ops hreached
  obtain ⟨running, _, hrunning⟩ : ∃ taskId ∈ self.scheduler.runQueue.ids,
      self.scheduler.currentTask = some taskId := by
    rw [hfront]
    rcases self.scheduler.runQueue.first_cases with ⟨hempty, _⟩ | hfirst
    · rw [hcoherent.queue.count_eq_card, hempty, Finset.card_empty] at hmany
      omega
    · exact hfirst
  obtain ⟨task, htask⟩ := hcoherent.task_of_mem (hcoherent.current_mem running hrunning)
  have hless := hslice running task hrunning htask
  have hself : Shared self.scheduler.runQueue.tasks task.timeSliceTicks.toNat self := by
    have hturn : task.timeSliceTicks.toNat / 5 = 0 := by omega
    refine ⟨hcoherent, hmany, ?_, ?_, ?_⟩
    · rw [hturn]
      rfl
    · rw [hfront, hturn, RunQueue.first_eq_firstHeld]
      rfl
    · intro taskId other htaskId hother
      rw [hrunning] at htaskId
      cases htaskId
      rw [htask] at hother
      cases hother
      omega
  obtain ⟨events, final, hrun, hfinal, htotals⟩ := run_shared hself hvalid hcount
  have hturns : (task.timeSliceTicks.toNat + interrupts.length) / 5 = 0 + maxTasks := by
    rw [hlength, maxTasks]
    omega
  refine ⟨events, final, hrun, ?_, ?_, ?_⟩
  · rw [hfinal.queue, hturns, advance_add_period]
    rfl
  · rw [hfinal.current, hturns, pick_add_period, hfront, RunQueue.first_eq_firstHeld]
    rfl
  · intro slot taskId hslot
    rw [htotals, hlength, count_pick_ticks hcoherent.queue.distinct hslot (by decide)]

/-- A set of frames that are always valid is enough, if every interrupt finds
its task on one of them. -/
theorem waitingValid_of_frames {frames : Set U64} {interrupts : List (X86.Memory × U64)}
    (hinterrupts : ∀ interrupt ∈ interrupts, interrupt.2 ∈ frames ∧
      ∀ frame ∈ frames, validateInterruptFrame interrupt.1 frame = true)
    {self : Statics} (hself : self.scheduler.Coherent) {running : TaskId}
    (hcurrent : self.scheduler.currentTask = some running) {saved : TaskId → U64}
    (hrecords : self.scheduler.Records (some running) saved)
    (hsaved : ∀ taskId, saved taskId ∈ frames) : self.WaitingValid interrupts := by
  induction interrupts generalizing self running saved with
  | nil => trivial
  | cons interrupt rest ih =>
      obtain ⟨memory, rsp⟩ := interrupt
      obtain ⟨hrsp, hvalid⟩ := hinterrupts (memory, rsp) List.mem_cons_self
      refine ⟨fun taskId task htask _ => ?_, fun exit result next hreturn => ?_⟩
      · obtain ⟨slot, hslot, _⟩ := Scheduler.task_eq_some htask
        rw [(hrecords slot task hslot).1]
        exact hvalid _ (hsaved _)
      · have hlater : ∀ other ∈ rest, other.2 ∈ frames ∧
            ∀ frame ∈ frames, validateInterruptFrame other.1 frame = true :=
          fun other hother => hinterrupts other (List.mem_cons_of_mem _ hother)
        have hupdated (taskId : TaskId) : Function.update saved running rsp taskId ∈ frames := by
          by_cases hsame : taskId = running
          · rw [hsame, Function.update_self]
            exact hrsp
          · rw [Function.update_of_ne hsame]
            exact hsaved taskId
        have hnext := timerInterrupt_coherent hself hreturn
        rcases timerInterrupt_resumes memory hself hcurrent hrecords rsp
            exit result next hreturn with
          ⟨_, hstay, hkept⟩ | ⟨_, _, nextId, hswitched, _, hkept⟩
        · exact ih hlater hnext hstay hkept hupdated
        · exact ih hlater hnext hswitched hkept hupdated

/-- Two tasks as in `run_preemptive_test`, with stacks of their own. -/
def twoPreemptive : List KernelOp :=
  [.scheduler (.createTask ((Task.new 1#64 1#8).initializeInterruptContext 0x3000#64)),
    .scheduler (.createTask ((Task.new 2#64 1#8).initializeInterruptContext 0x5000#64)),
    .scheduler (.setCurrent 1#64), .updateTask 1#64 .startSlice]

/-- Their scheduler. -/
def pairStatics : Statics :=
  ((runChecked kernelStep initial twoPreemptive).map Prod.snd).getD initial

/-- Memory with valid frames at 0x2768 and 0x4768. -/
def validMemory : X86.Memory :=
  X86.Memory.writeWords (X86.Memory.writeWords (fun _ => 0#8) 0x27E0#64
    [0x20#64, 0x100000#64, 0x08#64, 0x2#64]) 0x47E0#64 [0x20#64, 0x100000#64, 0x08#64, 0x2#64]

/-- Where their frames lie. -/
def pairFrames (taskId : TaskId) : U64 :=
  if taskId = 2#64 then 0x4768#64 else 0x2768#64

/-- Each task is interrupted on its own stack. -/
def pairInterrupts : List (X86.Memory × U64) :=
  List.replicate 5 (validMemory, 0x2768#64) ++ (List.replicate 5 (validMemory, 0x4768#64) ++
    List.replicate 310 (validMemory, 0x2768#64))

theorem pairStatics_reached : runChecked kernelStep initial twoPreemptive =
    some ([.taskCreated .created (some 1#64), .taskCreated .created (some 2#64),
      .currentSet true, .done], pairStatics) := rfl

theorem pairStatics_tasks : ∀ slot, ∀ task ∈ pairStatics.scheduler.tasks slot,
    task.timeSliceTicks = 0#64 ∧ task.interruptRsp = pairFrames task.id ∧
      (task.state = .running → some 1#64 = some task.id) := by decide +kernel

/-- Both frames are valid at every interrupt. -/
theorem pairInterrupts_valid : ∀ interrupt ∈ pairInterrupts,
    interrupt.2 ∈ ({0x2768#64, 0x4768#64} : Set U64) ∧
      ∀ frame ∈ ({0x2768#64, 0x4768#64} : Set U64),
        validateInterruptFrame interrupt.1 frame = true := by
  have hframes : ∀ frame ∈ ({0x2768#64, 0x4768#64} : Set U64),
      validateInterruptFrame validMemory frame = true := by
    rintro frame (rfl | rfl)
    · decide +kernel
    · decide +kernel
  intro interrupt hinterrupt
  rcases List.mem_append.mp hinterrupt with hfirst | hlater
  · rw [List.eq_of_mem_replicate hfirst]
    exact ⟨Or.inl rfl, hframes⟩
  · rcases List.mem_append.mp hlater with hsecond | hthird
    · rw [List.eq_of_mem_replicate hsecond]
      exact ⟨Or.inr rfl, hframes⟩
    · rw [List.eq_of_mem_replicate hthird]
      exact ⟨Or.inl rfl, hframes⟩

theorem pairStatics_waitingValid : pairStatics.WaitingValid pairInterrupts := by
  have hrecords : pairStatics.scheduler.Records (some 1#64) pairFrames :=
    fun slot task hslot => (pairStatics_tasks slot task hslot).2
  apply waitingValid_of_frames pairInterrupts_valid
    (kernelRun_coherent twoPreemptive pairStatics_reached)
    (show pairStatics.scheduler.currentTask = some 1#64 by decide +kernel) hrecords
  intro taskId
  unfold pairFrames
  split
  · exact Or.inr rfl
  · exact Or.inl rfl

/-- The first of them gets 315 ticks of 320. -/
theorem cpu_time_follows_slots_pair :
    ∃ events final, runChecked step pairStatics (timerOps pairInterrupts) = some (events, final) ∧
      final.scheduler.totalTicks 1#64 = some 315#64 ∧
      final.scheduler.totalTicks 2#64 = some 5#64 := by
  have hslice (taskId : TaskId) (task : Task)
      (_ : pairStatics.scheduler.currentTask = some taskId)
      (htask : pairStatics.scheduler.task taskId = some task) : task.timeSliceTicks.toNat < 5 := by
    obtain ⟨slot, hslot, _⟩ := Scheduler.task_eq_some htask
    rw [(pairStatics_tasks slot task hslot).1]
    decide
  have hlength : pairInterrupts.length = 5 * maxTasks := by decide +kernel
  obtain ⟨events, final, hrun, _, _, hticks⟩ := cpu_time_follows_slots twoPreemptive
    pairStatics_reached (by decide +kernel) (by decide +kernel) hslice pairStatics_waitingValid
    hlength (by rw [hlength]; decide +kernel)
  refine ⟨events, final, hrun, ?_, ?_⟩
  · rw [hticks ⟨0, by decide⟩ 1#64 (by decide +kernel)]
    decide +kernel
  · rw [hticks ⟨1, by decide⟩ 2#64 (by decide +kernel)]
    decide +kernel

end Statics

end UnboundOS.Sched
