import UnboundOS.Sched.Fairness

/-!
The scheduler seen through `task`. With distinct ids the table is a map from ids
to tasks, and an operation updates that map. In these terms `timer_interrupt`
is a relation with one constructor for each way it returns.
-/

namespace UnboundOS.Sched

namespace RunQueue

/-- The first queued id in the order of the slots 1, 2, …, 63, 0. -/
def Upcoming (queue : RunQueue) (taskId : TaskId) : Prop :=
  ∃ slot, queue.tasks (advance slot) = some taskId ∧
    ∀ earlier < slot, queue.tasks (advance earlier) = none

/-- What is at the front after a rotation. A queue of one id is not rotated, but
then the order does not matter. -/
theorem rotate_first_iff {self : RunQueue} (hself : self.Sound) {taskId : TaskId} :
    self.rotate.first = some taskId ↔ self.Upcoming taskId := by
  have hupcoming : self.Upcoming taskId ↔ firstHeld (self.tasks ∘ advance) = some taskId :=
    firstHeld_eq_some.symm
  rw [hupcoming, first_eq_firstHeld]
  by_cases hmany : 1 < self.count
  · rw [rotate_of_many hmany]
  · have hcard : self.ids.card ≤ 1 := by
      rw [← hself.count_eq_card]
      omega
    have hheld : held (self.tasks ∘ advance) = held self.tasks :=
      held_comp self.tasks advance_surjective
    have hrotated : (held (self.tasks ∘ advance)).card ≤ 1 := by
      rw [hheld]
      exact hcard
    rw [rotate_of_single (by omega), firstHeld_eq_some_of_card hcard,
      firstHeld_eq_some_of_card hrotated, hheld]

end RunQueue

namespace Scheduler

theorem task_eq_some {self : Scheduler} {taskId : TaskId} {task : Task}
    (htask : self.task taskId = some task) :
    ∃ slot, self.tasks slot = some task ∧ task.id = taskId := by
  rcases self.slotOf_cases taskId with ⟨_, hnone⟩ | ⟨slot, found, hslot, hfound, hid⟩
  · simp only [Scheduler.task, hnone, Option.bind_none] at htask
    cases htask
  · simp only [Scheduler.task, hslot, Option.bind_some] at htask
    refine ⟨slot, htask, ?_⟩
    rw [ids, htask, Option.map_some] at hid
    exact Option.some.inj hid

theorem task_eq_some_iff {self : Scheduler} (hdistinct : Distinct self.ids) {taskId : TaskId}
    {task : Task} :
    self.task taskId = some task ↔ ∃ slot, self.tasks slot = some task ∧ task.id = taskId := by
  refine ⟨task_eq_some, ?_⟩
  rintro ⟨slot, hslot, rfl⟩
  have hid : self.ids slot = some task.id := by rw [ids, hslot, Option.map_some]
  rcases self.slotOf_cases task.id with ⟨hnone, _⟩ | ⟨found, other, hscan, hother, hfound⟩
  · exact absurd (mem_held.mpr ⟨slot, hid⟩) hnone
  · rw [Scheduler.task, hscan, Option.bind_some, hdistinct found slot task.id hfound hid, hslot]

theorem task_congr {self other : Scheduler} (htasks : other.tasks = self.tasks) :
    other.task = self.task := by
  funext taskId
  unfold task slotOf
  rw [htasks]

theorem task_modifyTask (self : Scheduler) (hdistinct : Distinct self.ids) (taskId : TaskId)
    (change : Task → Task) (hid : ∀ task, (change task).id = task.id) :
    (self.modifyTask taskId change).task =
      Function.update self.task taskId ((self.task taskId).map change) := by
  have hchanged := distinct_modifyTask self hdistinct taskId change hid
  funext other
  ext task
  rw [task_eq_some_iff hchanged]
  simp only [modifyTask_tasks self taskId hdistinct, Option.map_eq_some_iff]
  by_cases hother : other = taskId
  · subst hother
    rw [Function.update_self, Option.map_eq_some_iff]
    constructor
    · rintro ⟨slot, ⟨old, hold, rfl⟩, hsame⟩
      by_cases hidOld : old.id = other
      · refine ⟨old, (task_eq_some_iff hdistinct).mpr ⟨slot, hold, hidOld⟩, ?_⟩
        rw [if_pos hidOld]
      · rw [if_neg hidOld] at hsame
        exact absurd hsame hidOld
    · rintro ⟨old, hold, rfl⟩
      obtain ⟨slot, hslot, hidOld⟩ := task_eq_some hold
      exact ⟨slot, ⟨old, hslot, if_pos hidOld⟩, (hid old).trans hidOld⟩
  · rw [Function.update_of_ne hother, task_eq_some_iff hdistinct]
    constructor
    · rintro ⟨slot, ⟨old, hold, rfl⟩, hsame⟩
      by_cases hidOld : old.id = taskId
      · rw [if_pos hidOld, hid] at hsame
        exact absurd (hsame.symm.trans hidOld) hother
      · rw [if_neg hidOld] at hsame ⊢
        exact ⟨slot, hold, hsame⟩
    · rintro ⟨slot, hslot, rfl⟩
      exact ⟨slot, ⟨task, hslot, if_neg hother⟩, rfl⟩

theorem task_modifyTask_twice (self : Scheduler) (hdistinct : Distinct self.ids)
    {first second : TaskId} (hother : second ≠ first) (change later : Task → Task)
    (hchange : ∀ task, (change task).id = task.id) (hlater : ∀ task, (later task).id = task.id) :
    ((self.modifyTask first change).modifyTask second later).task =
      Function.update (Function.update self.task first ((self.task first).map change)) second
        ((self.task second).map later) := by
  have hchanged := distinct_modifyTask self hdistinct first change hchange
  rw [task_modifyTask _ hchanged second later hlater, task_modifyTask self hdistinct first change
    hchange, Function.update_of_ne hother]

@[simp] theorem schedule_task (self : Scheduler) : self.schedule.task = self.task := by
  apply task_congr
  unfold schedule
  split <;> rfl

theorem schedule_currentTask_iff {self : Scheduler} (hself : self.Coherent) {taskId : TaskId} :
    self.schedule.currentTask = some taskId ↔ self.runQueue.Upcoming taskId := by
  rw [← RunQueue.rotate_first_iff hself.queue]
  by_cases hempty : self.runQueue.count = 0
  · have hnone : self.runQueue.rotate.first = none := by
      have hids : self.runQueue.rotate.ids = ∅ := by
        rw [RunQueue.rotate_ids, ← Finset.card_eq_zero, ← hself.queue.count_eq_card, hempty]
      rcases self.runQueue.rotate.first_cases with ⟨_, hfirst⟩ | ⟨first, hfirst, _⟩
      · exact hfirst
      · rw [hids] at hfirst
        exact absurd hfirst (Finset.notMem_empty first)
    have hschedule : self.schedule.currentTask = none := by
      have hisEmpty : self.runQueue.isEmpty = true := beq_iff_eq.mpr hempty
      unfold schedule
      rw [if_pos hisEmpty]
    rw [hnone, hschedule]
  · rw [(schedule_of_pos (Nat.pos_of_ne_zero hempty)).2]

theorem tick_task {self : Scheduler} (hdistinct : Distinct self.ids) {taskId : TaskId}
    (hcurrent : self.currentTask = some taskId) :
    self.tick.task =
      Function.update self.task taskId ((self.task taskId).map Task.countTick) := by
  have hcounted : ({ self with schedulerTicks := self.schedulerTicks + 1#64 } : Scheduler).task =
      self.task := task_congr rfl
  have htick : self.tick = ({ self with schedulerTicks := self.schedulerTicks + 1#64 } :
      Scheduler).modifyTask taskId Task.countTick := by
    unfold tick
    dsimp only
    rw [hcurrent]
  rw [htick, task_modifyTask { self with schedulerTicks := self.schedulerTicks + 1#64 } hdistinct
    taskId Task.countTick fun _ => rfl, hcounted]

theorem ticked_task {self : Scheduler} (hself : self.Coherent) {taskId : TaskId} {task : Task}
    (hcurrent : self.currentTask = some taskId) (htask : self.task taskId = some task) (rsp : U64) :
    (self.ticked taskId rsp).task =
      Function.update self.task taskId (some (task.interruptedAt rsp).countTick) := by
  have hsaved := hself.modifyTask taskId (·.interruptedAt rsp) fun _ => rfl
  have hstay := (modifyTask_currentTask self taskId (·.interruptedAt rsp)).trans hcurrent
  rw [ticked, tick_task hsaved.distinct hstay,
    task_modifyTask _ hself.distinct taskId (·.interruptedAt rsp) fun _ => rfl,
    Function.update_self, Function.update_idem, htask, Option.map_some, Option.map_some]

theorem ticked_sliceExpired {self : Scheduler} (hself : self.Coherent) {taskId : TaskId}
    {task : Task} (hcurrent : self.currentTask = some taskId)
    (htask : self.task taskId = some task) (rsp : U64) :
    (self.ticked taskId rsp).sliceExpired taskId =
      decide (defaultTimeSliceTicks ≤ task.timeSliceTicks + 1#64) := by
  rw [sliceExpired, ticked_task hself hcurrent htask, Function.update_self]
  rfl

/-- The saved stack pointer of a task. -/
def savedRsp (self : Scheduler) (taskId : TaskId) : Option U64 :=
  (self.task taskId).map Task.interruptRsp

/-- The returns of `timer_interrupt` once the slice of `task` is over: the task
goes on, the frame of the next one is refused, or there is a switch. -/
inductive Selected (self : Scheduler) (memory : X86.Memory) (taskId : TaskId) (task : Task) :
    U64 → Scheduler → Prop where
  | same {next : Scheduler} (hupcoming : self.runQueue.Upcoming taskId)
      (hcurrent : next.currentTask = some taskId)
      (htasks : next.task = Function.update self.task taskId (some task.startSlice)) :
      Selected self memory taskId task 0#64 next
  | refused {next : Scheduler} {nextId : TaskId} {nextTask : Task}
      (hupcoming : self.runQueue.Upcoming nextId) (hother : nextId ≠ taskId)
      (hnext : self.task nextId = some nextTask)
      (hinvalid : validateInterruptFrame memory nextTask.interruptRsp = false)
      (hcurrent : next.currentTask = some taskId)
      (htasks : next.task = Function.update
        (Function.update self.task taskId (some task.startSlice)) nextId
        (some (nextTask.setState .ready))) :
      Selected self memory taskId task 0#64 next
  | switched {next : Scheduler} {nextId : TaskId} {nextTask : Task}
      (hupcoming : self.runQueue.Upcoming nextId) (hother : nextId ≠ taskId)
      (hnext : self.task nextId = some nextTask)
      (hvalid : validateInterruptFrame memory nextTask.interruptRsp = true)
      (hcurrent : next.currentTask = some nextId)
      (htasks : next.task = Function.update
        (Function.update self.task taskId (some (task.setState .ready))) nextId
        (some nextTask.startSlice)) :
      Selected self memory taskId task nextTask.interruptRsp next

/-- The returns of `timer_interrupt` while `task` is current. It is saved and
its tick counted before anything else. -/
inductive Interrupted (self : Scheduler) (memory : X86.Memory) (rsp : U64) (taskId : TaskId)
    (task : Task) : U64 → Scheduler → Prop where
  | sliceLeft {next : Scheduler} (hleft : ¬ defaultTimeSliceTicks ≤ task.timeSliceTicks + 1#64)
      (hcurrent : next.currentTask = some taskId)
      (htasks : next.task =
        Function.update self.task taskId (some (task.interruptedAt rsp).countTick)) :
      Interrupted self memory rsp taskId task 0#64 next
  | sliceOver {ticked next : Scheduler} {result : U64}
      (hover : defaultTimeSliceTicks ≤ task.timeSliceTicks + 1#64)
      (hqueue : ticked.runQueue = self.runQueue)
      (htasks : ticked.task =
        Function.update self.task taskId (some (task.interruptedAt rsp).countTick))
      (hselected : ticked.Selected memory taskId (task.interruptedAt rsp).countTick result next) :
      Interrupted self memory rsp taskId task result next

end Scheduler

namespace Statics

theorem timerInterrupt_noCurrent {self : Statics} (hcurrent : self.scheduler.currentTask = none)
    (memory : X86.Memory) (rsp : U64) :
    self.timerInterrupt memory rsp = some (.noCurrent, 0#64, self) := by
  unfold timerInterrupt
  rw [hcurrent]

theorem selectNext_selected (self : Statics) {next : Statics} (hself : self.scheduler.Coherent)
    {memory : X86.Memory} {taskId : TaskId} {task : Task}
    (htask : self.scheduler.task taskId = some task) {exit : TimerExit} {result : U64}
    (hreturn : self.selectNext memory taskId = some (exit, result, next)) :
    self.scheduler.Selected memory taskId task result next.scheduler := by
  have hmem := hself.mem_of_task htask
  obtain ⟨hscheduled, hids, hempty | ⟨nextId, hnext, hfound⟩⟩ := Scheduler.schedule_cases hself
  · rw [hempty] at hmem
    exact absurd hmem (Finset.notMem_empty _)
  · have hupcoming := (Scheduler.schedule_currentTask_iff hself).mp hfound
    have htasks := self.scheduler.schedule_task
    have hdistinct := hscheduled.distinct
    unfold selectNext at hreturn
    rw [← hids] at hnext
    generalize self.scheduler.schedule = scheduled at *
    simp only [hfound] at hreturn
    by_cases hsame : nextId = taskId
    · rw [if_pos hsame] at hreturn
      cases hreturn
      refine .same (hsame ▸ hupcoming) ?_ ?_
      · rw [Scheduler.modifyTask_currentTask, hfound, hsame]
      · have hlookups := Scheduler.task_modifyTask scheduled hdistinct taskId Task.startSlice
          fun _ => rfl
        rwa [htasks, htask, Option.map_some] at hlookups
    · rw [if_neg hsame] at hreturn
      obtain ⟨nextTask, hnextTask⟩ := hscheduled.task_of_mem hnext
      have hlookup : self.scheduler.task nextId = some nextTask := by rw [← htasks, hnextTask]
      simp only [hnextTask, preempt] at hreturn
      cases hcount : checkedAdd self.preemptSwitchDebugCount 1#64 with
      | none => simp [hcount] at hreturn
      | some count =>
          simp only [hcount, Option.bind_eq_bind, Option.bind_some] at hreturn
          cases hvalid : validateInterruptFrame memory nextTask.interruptRsp with
          | false =>
              simp only [hvalid, Bool.not_false, if_true] at hreturn
              cases hreturn
              refine .refused hupcoming hsame hlookup hvalid ?_ ?_
              · rw [Scheduler.modifyTask_currentTask, Scheduler.modifyTask_currentTask]
              · have hback : ({ scheduled with currentTask := some taskId } : Scheduler).task =
                    self.scheduler.task := (Scheduler.task_congr rfl).trans htasks
                have hlookups := Scheduler.task_modifyTask_twice
                  { scheduled with currentTask := some taskId } hdistinct hsame Task.startSlice
                  (·.setState .ready) (fun _ => rfl) fun _ => rfl
                rwa [hback, htask, hlookup, Option.map_some, Option.map_some] at hlookups
          | true =>
              simp only [hvalid, Bool.not_true, Bool.false_eq_true, if_false] at hreturn
              cases hreturn
              refine .switched hupcoming hsame hlookup hvalid ?_ ?_
              · rw [Scheduler.modifyTask_currentTask, Scheduler.modifyTask_currentTask, hfound]
              · have hlookups := Scheduler.task_modifyTask_twice scheduled hdistinct hsame
                  (·.setState .ready) Task.startSlice (fun _ => rfl) fun _ => rfl
                rwa [htasks, htask, hlookup, Option.map_some, Option.map_some] at hlookups

theorem timerInterrupt_interrupted (self : Statics) {next : Statics}
    (hself : self.scheduler.Coherent) {memory : X86.Memory} {rsp : U64} {taskId : TaskId}
    {task : Task}
    (hcurrent : self.scheduler.currentTask = some taskId)
    (htask : self.scheduler.task taskId = some task) {exit : TimerExit} {result : U64}
    (hreturn : self.timerInterrupt memory rsp = some (exit, result, next)) :
    self.scheduler.Interrupted memory rsp taskId task result next.scheduler := by
  have hticked := hself.ticked taskId rsp
  have htickedCurrent : (self.scheduler.ticked taskId rsp).currentTask = some taskId := by
    rw [Scheduler.ticked, Scheduler.tick_currentTask, Scheduler.modifyTask_currentTask, hcurrent]
  have htickedQueue := self.scheduler.ticked_runQueue taskId rsp
  have htickedTasks := Scheduler.ticked_task hself hcurrent htask rsp
  have hexpired := Scheduler.ticked_sliceExpired hself hcurrent htask rsp
  unfold timerInterrupt at hreturn
  simp only [hcurrent, htask] at hreturn
  generalize self.scheduler.ticked taskId rsp = ticked at *
  have hlookup : ticked.task taskId = some (task.interruptedAt rsp).countTick := by
    rw [htickedTasks, Function.update_self]
  by_cases hover : defaultTimeSliceTicks ≤ task.timeSliceTicks + 1#64
  · rw [hexpired, decide_eq_true hover, Bool.not_true, if_neg Bool.false_ne_true] at hreturn
    have hselected := selectNext_selected { self with scheduler := ticked } hticked hlookup hreturn
    exact .sliceOver hover htickedQueue htickedTasks hselected
  · rw [hexpired, decide_eq_false hover, Bool.not_false, if_pos rfl] at hreturn
    cases hreturn
    exact .sliceLeft hover htickedCurrent htickedTasks

end Statics

end UnboundOS.Sched
