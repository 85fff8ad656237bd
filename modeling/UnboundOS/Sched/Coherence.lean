import UnboundOS.Sched.Scheduler

/-!
The structural invariant of the scheduler. Run queue and task table are two
containers for the same set of ids, with two counters and a current task beside
them. Every operation keeps them in agreement, which makes the fallback
branches of `create_task` and `timer_interrupt` unreachable.
-/

namespace UnboundOS.Sched

namespace Scheduler

/-- The ids in the task table, slot by slot. -/
def ids (self : Scheduler) (slot : Fin maxSchedulerTasks) : Option TaskId :=
  (self.tasks slot).map Task.id

/-- Run queue, task table, counters and current task agree. -/
structure Coherent (scheduler : Scheduler) : Prop where
  queue : scheduler.runQueue.Sound
  distinct : Distinct scheduler.ids
  same_ids : held scheduler.ids = scheduler.runQueue.ids
  count_eq : scheduler.taskCount = occupancy scheduler.ids
  current_mem : ∀ taskId, scheduler.currentTask = some taskId → taskId ∈ scheduler.runQueue.ids

theorem Coherent.taskCount_eq_card {self : Scheduler} (hself : self.Coherent) :
    self.taskCount = self.runQueue.ids.card := by
  rw [hself.count_eq, ← card_held hself.distinct, hself.same_ids]

theorem Coherent.queueCount_eq {self : Scheduler} (hself : self.Coherent) :
    self.runQueue.count = self.taskCount := by
  rw [hself.queue.count_eq_card, hself.taskCount_eq_card]

theorem Coherent.taskCount_le {self : Scheduler} (hself : self.Coherent) :
    self.taskCount ≤ maxSchedulerTasks := by
  rw [hself.count_eq]
  exact occupancy_le _

theorem coherent_of_card {self : Scheduler} {cells : Fin maxSchedulerTasks → Option TaskId}
    (hcells : self.ids = cells) (hqueue : self.runQueue.Sound) (hdistinct : Distinct cells)
    (hsame : held cells = self.runQueue.ids) (hcount : self.taskCount = self.runQueue.ids.card)
    (hcurrent : ∀ taskId, self.currentTask = some taskId → taskId ∈ self.runQueue.ids) :
    self.Coherent := by
  subst hcells
  exact ⟨hqueue, hdistinct, hsame, by rw [hcount, ← hsame, card_held hdistinct], hcurrent⟩

theorem new_coherent : new.Coherent := by
  have hids : held new.ids = ∅ := held_none
  have hqueue : new.runQueue.ids = ∅ := held_none
  refine coherent_of_card rfl RunQueue.new_sound (fun _ _ _ hfirst => ?_)
    (hids.trans hqueue.symm) ?_ (fun _ hcurrent => ?_)
  · cases hfirst
  · rw [hqueue]
    rfl
  · cases hcurrent

/-- Coherence speaks of the ids only, and of the current task. -/
theorem Coherent.congr {self other : Scheduler} (hself : self.Coherent)
    (hqueue : other.runQueue = self.runQueue) (hids : other.ids = self.ids)
    (hcount : other.taskCount = self.taskCount)
    (hcurrent : ∀ taskId, other.currentTask = some taskId → taskId ∈ self.runQueue.ids) :
    other.Coherent where
  queue := hqueue ▸ hself.queue
  distinct := hids ▸ hself.distinct
  same_ids := by rw [hids, hqueue, hself.same_ids]
  count_eq := by rw [hcount, hids, hself.count_eq]
  current_mem := by rw [hqueue]; exact hcurrent

/-- No task has the id, or the slot found holds a task that does. -/
theorem slotOf_cases (self : Scheduler) (taskId : TaskId) :
    (taskId ∉ held self.ids ∧ self.slotOf taskId = none) ∨
    ∃ slot task, self.slotOf taskId = some slot ∧ self.tasks slot = some task ∧
      self.ids slot = some taskId := by
  unfold slotOf
  cases hscan : firstFit (fun slot => (self.tasks slot).any (fun task => task.id == taskId)) with
  | some slot =>
      have hsat : (self.tasks slot).any (fun task => task.id == taskId) = true := firstFit_sat hscan
      cases htask : self.tasks slot with
      | none =>
          rw [htask] at hsat
          cases hsat
      | some task =>
          rw [htask, Option.any_some, beq_iff_eq] at hsat
          refine Or.inr ⟨slot, task, rfl, htask, ?_⟩
          rw [ids, htask, Option.map_some, hsat]
  | none =>
      refine Or.inl ⟨fun hmem => ?_, rfl⟩
      obtain ⟨slot, hslot⟩ := mem_held.mp hmem
      obtain ⟨task, htask, hid⟩ := Option.map_eq_some_iff.mp hslot
      have hnone : (self.tasks slot).any (fun task => task.id == taskId) = false :=
        firstFit_eq_none.mp hscan slot
      rw [htask, Option.any_some, hid, beq_self_eq_true] at hnone
      cases hnone

theorem Coherent.task_of_mem {self : Scheduler} (hself : self.Coherent) {taskId : TaskId}
    (hmem : taskId ∈ self.runQueue.ids) : ∃ task, self.task taskId = some task := by
  rcases self.slotOf_cases taskId with ⟨hnone, _⟩ | ⟨slot, task, hslot, htask, _⟩
  · rw [hself.same_ids] at hnone
    exact absurd hmem hnone
  · refine ⟨task, ?_⟩
    simp only [Scheduler.task, hslot, Option.bind_some, htask]

theorem Coherent.mem_of_task {self : Scheduler} (hself : self.Coherent) {taskId : TaskId}
    {task : Task} (htask : self.task taskId = some task) : taskId ∈ self.runQueue.ids := by
  rcases self.slotOf_cases taskId with ⟨_, hnone⟩ | ⟨slot, _, _, _, hid⟩
  · simp only [Scheduler.task, hnone, Option.bind_none] at htask
    cases htask
  · rw [← hself.same_ids]
    exact mem_held.mpr ⟨slot, hid⟩

section ModifyTask

variable (self : Scheduler) (taskId : TaskId) (change : Task → Task)

@[simp] theorem modifyTask_runQueue :
    (self.modifyTask taskId change).runQueue = self.runQueue := by
  unfold modifyTask
  cases self.slotOf taskId <;> rfl

@[simp] theorem modifyTask_currentTask :
    (self.modifyTask taskId change).currentTask = self.currentTask := by
  unfold modifyTask
  cases self.slotOf taskId <;> rfl

@[simp] theorem modifyTask_taskCount :
    (self.modifyTask taskId change).taskCount = self.taskCount := by
  unfold modifyTask
  cases self.slotOf taskId <;> rfl

variable {change}

/-- A change that keeps a task's id keeps the table's ids. -/
theorem modifyTask_ids (hid : ∀ task, (change task).id = task.id) :
    (self.modifyTask taskId change).ids = self.ids := by
  unfold modifyTask
  cases self.slotOf taskId with
  | none => rfl
  | some slot =>
      funext other
      by_cases hother : other = slot
      · subst hother
        simp only [ids, Function.update_self, Option.map_map]
        congr 1
        funext task
        exact hid task
      · simp only [ids, Function.update_of_ne hother]

theorem Coherent.modifyTask {self : Scheduler} (hself : self.Coherent) (taskId : TaskId)
    (change : Task → Task) (hid : ∀ task, (change task).id = task.id) :
    (self.modifyTask taskId change).Coherent :=
  hself.congr (modifyTask_runQueue _ _ _) (modifyTask_ids _ _ hid) (modifyTask_taskCount _ _ _)
    (by rw [modifyTask_currentTask]; exact hself.current_mem)

theorem distinct_modifyTask (hdistinct : Distinct self.ids) (taskId : TaskId)
    (change : Task → Task) (hid : ∀ task, (change task).id = task.id) :
    Distinct (self.modifyTask taskId change).ids := by
  rwa [modifyTask_ids self taskId hid]

/-- With distinct ids, a change reaches the one task with the id. -/
theorem modifyTask_tasks (hdistinct : Distinct self.ids) (slot : Fin maxSchedulerTasks) :
    (self.modifyTask taskId change).tasks slot =
      (self.tasks slot).map (fun task => if task.id = taskId then change task else task) := by
  have hothers (hslot : self.ids slot ≠ some taskId) : self.tasks slot =
      (self.tasks slot).map (fun task => if task.id = taskId then change task else task) := by
    cases htask : self.tasks slot with
    | none => rfl
    | some task =>
        have hid : task.id ≠ taskId := by
          rintro rfl
          exact hslot (by rw [ids, htask, Option.map_some])
        rw [Option.map_some, if_neg hid]
  unfold modifyTask
  rcases self.slotOf_cases taskId with ⟨hnone, hscan⟩ | ⟨found, task, hscan, htask, hid⟩
  · rw [hscan]
    exact hothers fun hslot => hnone (mem_held.mpr ⟨slot, hslot⟩)
  · rw [hscan]
    by_cases hslot : slot = found
    · have htaskId : task.id = taskId := by
        rw [ids, htask, Option.map_some] at hid
        exact Option.some.inj hid
      simp only [hslot, Function.update_self, htask, Option.map_some, htaskId, if_true]
    · simp only [Function.update_of_ne hslot]
      exact hothers fun hsame => hslot (hdistinct slot found taskId hsame hid)

end ModifyTask

/-- A creation fails only if the table is full or the id is taken, and then
changes nothing; it never gets as far as undoing its push. -/
theorem createTask_cases {self : Scheduler} (hself : self.Coherent) (task : Task) :
    ((self.taskCount = maxSchedulerTasks ∨ task.id ∈ self.runQueue.ids) ∧
      ∃ exit, exit ≠ .rolledBack ∧ self.createTask task = some (exit, none, self)) ∨
    (self.taskCount < maxSchedulerTasks ∧ task.id ∉ self.runQueue.ids ∧
      ∃ next, self.createTask task = some (.created, some task.id, next) ∧ next.Coherent) := by
  have hle := hself.taskCount_le
  unfold createTask
  by_cases hfull : maxSchedulerTasks ≤ self.taskCount
  · refine Or.inl ⟨Or.inl (by omega), .tableFull, by decide, if_pos hfull⟩
  · rw [if_neg hfull]
    rcases RunQueue.push_cases hself.queue task.id with ⟨hrefused, hpush⟩ |
      ⟨_, hnew, queue, hpush, hqueue, hids⟩
    · have hlarge : ¬ maxTasks ≤ self.runQueue.count := by
        rw [hself.queueCount_eq]
        unfold maxTasks maxSchedulerTasks at *
        omega
      refine Or.inl ⟨Or.inr (hrefused.resolve_left hlarge), .queueRefused, by decide, ?_⟩
      rw [hpush]
      rfl
    · rw [hpush]
      refine Or.inr ⟨Nat.lt_of_not_le hfull, hnew, ?_⟩
      cases hscan : firstFit (fun slot => (self.tasks slot).isNone) with
      | some slot =>
          have hfree : self.ids slot = none := by
            rw [ids, Option.isNone_iff_eq_none.mp (firstFit_sat hscan)]
            rfl
          have hfilled : (fun other =>
              (Function.update self.tasks slot (some task) other).map Task.id) =
              Function.update self.ids slot (some task.id) :=
            Function.comp_update (Option.map Task.id) self.tasks slot (some task)
          have habsent : task.id ∉ held self.ids := by rwa [hself.same_ids]
          refine ⟨_, rfl, coherent_of_card hfilled hqueue (hself.distinct.fill slot habsent) ?_ ?_
            fun taskId hcurrent => ?_⟩
          · rw [held_fill hfree, hself.same_ids]
            exact hids.symm
          · change self.taskCount + 1 = queue.ids.card
            rw [hids, Finset.card_insert_of_notMem hnew, hself.taskCount_eq_card]
          · change taskId ∈ queue.ids
            rw [hids]
            exact Finset.mem_insert_of_mem (hself.current_mem taskId hcurrent)
      | none =>
          have hoccupied (slot : Fin maxSchedulerTasks) : (self.ids slot).isSome := by
            have hsome : (self.tasks slot).isNone = false := firstFit_eq_none.mp hscan slot
            rw [ids, Option.isSome_map, ← Option.isNone_eq_false_iff]
            exact hsome
          have hall : occupancy self.ids = maxSchedulerTasks := by
            rw [occupancy, Finset.filter_true_of_mem fun slot _ => hoccupied slot,
              Finset.card_univ, Fintype.card_fin]
          rw [hself.count_eq, hall] at hfull
          exact absurd le_rfl hfull

/-- Removing an id takes it out of both containers. -/
theorem removeTask_cases {self : Scheduler} (hself : self.Coherent) (taskId : TaskId) :
    (taskId ∉ self.runQueue.ids ∧ self.removeTask taskId = some (false, self)) ∨
    (taskId ∈ self.runQueue.ids ∧ ∃ next, self.removeTask taskId = some (true, next) ∧
      next.Coherent) := by
  unfold removeTask
  rcases RunQueue.remove_cases hself.queue taskId with ⟨habsent, hremove⟩ |
    ⟨hmem, queue, hremove, hqueue, hids⟩
  · rw [hremove]
    exact Or.inl ⟨habsent, rfl⟩
  · rw [hremove]
    rcases self.slotOf_cases taskId with ⟨hnone, _⟩ | ⟨slot, task, hslot, _, hid⟩
    · rw [hself.same_ids] at hnone
      exact absurd hmem hnone
    · have hemptied : (fun other => (Function.update self.tasks slot none other).map Task.id) =
          Function.update self.ids slot none :=
        Function.comp_update (Option.map Task.id) self.tasks slot none
      have hpositive : 0 < self.taskCount := by
        rw [hself.taskCount_eq_card]
        exact Finset.card_pos.mpr ⟨taskId, hmem⟩
      rw [hslot]
      refine Or.inr ⟨hmem, _, rfl, coherent_of_card hemptied hqueue (hself.distinct.empty slot)
        ?_ ?_ fun other hcurrent => ?_⟩
      · rw [held_empty hself.distinct hid, hself.same_ids]
        exact hids.symm
      · change (if _ then _ else _) = queue.ids.card
        rw [if_pos hpositive, hids, Finset.card_erase_of_mem hmem, hself.taskCount_eq_card]
      · change (if _ then _ else _) = some other at hcurrent
        change other ∈ queue.ids
        split at hcurrent
        · rcases queue.first_cases with ⟨_, hfirst⟩ | ⟨first, hfirst, hfound⟩
          · rw [hfirst] at hcurrent
            cases hcurrent
          · rw [hfound] at hcurrent
            cases hcurrent
            exact hfirst
        · rename_i hother
          rw [hids, Finset.mem_erase]
          refine ⟨?_, hself.current_mem other hcurrent⟩
          rintro rfl
          exact hother hcurrent

/-- A creation that succeeds fills a free slot of the table. -/
theorem createTask_tasks {self next : Scheduler} {task : Task} {exit : CreateExit} {taskId : TaskId}
    (hcreate : self.createTask task = some (exit, some taskId, next)) :
    next.currentTask = self.currentTask ∧ taskId = task.id ∧
      ∃ slot, self.tasks slot = none ∧
        next.tasks = Function.update self.tasks slot (some task) := by
  unfold createTask at hcreate
  by_cases hfull : maxSchedulerTasks ≤ self.taskCount
  · rw [if_pos hfull] at hcreate
    cases hcreate
  · rw [if_neg hfull] at hcreate
    generalize self.runQueue.push task.id = pushed at hcreate
    obtain ⟨accepted, queue⟩ := pushed
    cases accepted with
    | false => cases hcreate
    | true =>
        cases hscan : firstFit (fun slot => (self.tasks slot).isNone) with
        | some slot =>
            rw [hscan] at hcreate
            cases hcreate
            exact ⟨rfl, rfl, slot, Option.isNone_iff_eq_none.mp (firstFit_sat hscan), rfl⟩
        | none =>
            rw [hscan] at hcreate
            cases hremove : queue.remove task.id with
            | none => simp [hremove] at hcreate
            | some removed => simp [hremove] at hcreate

/-- A removal changes no other task, and the current one only if it is removed. -/
theorem removeTask_tasks {self next : Scheduler} {taskId : TaskId} {removed : Bool}
    (hremove : self.removeTask taskId = some (removed, next)) :
    (self.currentTask ≠ some taskId → next.currentTask = self.currentTask) ∧
      ∀ slot task, next.tasks slot = some task → self.tasks slot = some task := by
  unfold removeTask at hremove
  cases hqueue : self.runQueue.remove taskId with
  | none => simp [hqueue] at hremove
  | some result =>
      obtain ⟨found, queue⟩ := result
      rw [hqueue] at hremove
      cases found with
      | false =>
          cases hremove
          exact ⟨fun _ => rfl, fun _ _ htask => htask⟩
      | true =>
          cases hremove
          refine ⟨fun hother => if_neg hother, fun slot task htask => ?_⟩
          cases hscan : self.slotOf taskId with
          | none =>
              simp only [hscan] at htask
              exact htask
          | some emptied =>
              simp only [hscan] at htask
              by_cases hslot : slot = emptied
              · rw [hslot, Function.update_self] at htask
                cases htask
              · rwa [Function.update_of_ne hslot] at htask

theorem Coherent.setCurrentTask {self : Scheduler} (hself : self.Coherent) {taskId : TaskId}
    (hmem : taskId ∈ self.runQueue.ids) :
    ({ self with currentTask := some taskId } : Scheduler).Coherent :=
  hself.congr rfl rfl rfl fun other hother => by
    cases hother
    exact hmem

theorem Coherent.clearCurrentTask {self : Scheduler} (hself : self.Coherent) :
    ({ self with currentTask := none } : Scheduler).Coherent :=
  hself.congr rfl rfl rfl fun other hother => by cases hother

theorem Coherent.setCurrent {self : Scheduler} (hself : self.Coherent) (taskId : TaskId) :
    (self.setCurrent taskId).2.Coherent := by
  unfold Scheduler.setCurrent
  cases hcontains : self.runQueue.contains taskId with
  | false => exact hself
  | true => exact hself.setCurrentTask (RunQueue.contains_iff.mp hcontains)

theorem Coherent.tick {self : Scheduler} (hself : self.Coherent) : self.tick.Coherent := by
  have hcounted :
      ({ self with schedulerTicks := self.schedulerTicks + 1#64 } : Scheduler).Coherent :=
    hself.congr rfl rfl rfl hself.current_mem
  unfold Scheduler.tick
  dsimp only
  split
  · exact hcounted.modifyTask _ Task.countTick fun _ => rfl
  · exact hcounted

/-- Scheduling rotates the queue and makes one of its ids current, unless there
is none. -/
theorem schedule_cases {self : Scheduler} (hself : self.Coherent) :
    self.schedule.Coherent ∧ self.schedule.runQueue.ids = self.runQueue.ids ∧
      (self.runQueue.ids = ∅ ∨
        ∃ taskId ∈ self.runQueue.ids, self.schedule.currentTask = some taskId) := by
  unfold schedule
  by_cases hempty : self.runQueue.isEmpty
  · rw [if_pos hempty]
    exact ⟨hself.clearCurrentTask, rfl, Or.inl ((RunQueue.isEmpty_iff hself.queue).mp hempty)⟩
  · rw [if_neg hempty]
    have hids := self.runQueue.rotate_ids
    refine ⟨?_, hids, ?_⟩
    · refine coherent_of_card rfl (RunQueue.rotate_sound hself.queue) hself.distinct ?_ ?_ ?_
      · exact hself.same_ids.trans hids.symm
      · exact hself.taskCount_eq_card.trans (congrArg Finset.card hids.symm)
      · intro taskId hcurrent
        change self.runQueue.rotate.first = some taskId at hcurrent
        rcases self.runQueue.rotate.first_cases with ⟨_, hfirst⟩ | ⟨first, hfirst, hfound⟩
        · rw [hfirst] at hcurrent
          cases hcurrent
        · rw [hfound] at hcurrent
          cases hcurrent
          exact hfirst
    · rcases self.runQueue.rotate.first_cases with ⟨hnone, _⟩ | ⟨first, hfirst, hfound⟩
      · exact Or.inl (hids.symm.trans hnone)
      · exact Or.inr ⟨first, hids ▸ hfirst, hfound⟩

theorem tick_runQueue (self : Scheduler) : self.tick.runQueue = self.runQueue := by
  unfold tick
  dsimp only
  split
  · rw [modifyTask_runQueue]
  · rfl

theorem tick_currentTask (self : Scheduler) : self.tick.currentTask = self.currentTask := by
  unfold tick
  dsimp only
  split
  · rw [modifyTask_currentTask]
  · rfl

theorem ticked_runQueue (self : Scheduler) (taskId : TaskId) (rsp : U64) :
    (self.ticked taskId rsp).runQueue = self.runQueue := by
  rw [ticked, tick_runQueue, modifyTask_runQueue]

theorem Coherent.ticked {self : Scheduler} (hself : self.Coherent) (taskId : TaskId) (rsp : U64) :
    (self.ticked taskId rsp).Coherent :=
  (hself.modifyTask taskId (·.interruptedAt rsp) fun _ => rfl).tick

end Scheduler

/-- The returns of `timer_interrupt` for a current or next task that is not
there. -/
def TimerExit.fallback : TimerExit → Bool
  | .currentMissing => true
  | .noNext => true
  | .nextMissing => true
  | _ => false

namespace Statics

/-- The debug counter overflowed, or the call returned by no fallback branch,
left the scheduler coherent and counted at most one switch. -/
def Advances (before : Statics) (result : Checked (TimerExit × U64 × Statics)) : Prop :=
  (before.preemptSwitchDebugCount.toNat + 1 = 2 ^ 64 ∧ result = none) ∨
  ∃ exit rsp after, result = some (exit, rsp, after) ∧ exit.fallback = false ∧
    after.scheduler.Coherent ∧
    after.preemptSwitchDebugCount.toNat ≤ before.preemptSwitchDebugCount.toNat + 1

/-- A return before the switch counter. -/
theorem advances_same_count {before : Statics} {scheduler : Scheduler} {exit : TimerExit}
    (hscheduler : scheduler.Coherent) (hexit : exit.fallback = false) (rsp : U64) :
    before.Advances (some (exit, rsp, { before with scheduler := scheduler })) :=
  Or.inr ⟨exit, rsp, _, rfl, hexit, hscheduler, Nat.le_succ _⟩

theorem preempt_advances (self : Statics) (hself : self.scheduler.Coherent)
    (memory : X86.Memory) {currentId : TaskId} (hcurrent : currentId ∈ self.scheduler.runQueue.ids)
    (nextId : TaskId) (nextRsp : U64) :
    self.Advances (self.preempt memory currentId nextId nextRsp) := by
  by_cases hcount : self.preemptSwitchDebugCount.toNat + 1 < 2 ^ 64
  · have hadd : checkedAdd self.preemptSwitchDebugCount 1#64 =
        some (self.preemptSwitchDebugCount + 1#64) := checkedAdd_eq_some hcount
    have hnext : (self.preemptSwitchDebugCount + 1#64).toNat ≤
        self.preemptSwitchDebugCount.toNat + 1 := by
      rw [BitVec.toNat_add]
      exact Nat.mod_le _ _
    refine Or.inr ?_
    rw [preempt, hadd]
    simp only [Option.bind_eq_bind, Option.bind_some]
    split
    · refine ⟨.invalidFrame, 0#64, _, rfl, rfl, ?_, hnext⟩
      exact ((hself.setCurrentTask hcurrent).modifyTask currentId Task.startSlice
        fun _ => rfl).modifyTask nextId (·.setState .ready) fun _ => rfl
    · refine ⟨.switched, nextRsp, _, rfl, rfl, ?_, hnext⟩
      exact (hself.modifyTask currentId (·.setState .ready) fun _ => rfl).modifyTask nextId
        Task.startSlice fun _ => rfl
  · have hlt := self.preemptSwitchDebugCount.isLt
    have hadd : checkedAdd self.preemptSwitchDebugCount 1#64 = none :=
      checkedAdd_eq_none.mpr (Nat.le_of_not_lt hcount)
    refine Or.inl ⟨by omega, ?_⟩
    rw [preempt, hadd]
    rfl

theorem selectNext_advances (self : Statics) (hself : self.scheduler.Coherent)
    (memory : X86.Memory) {currentId : TaskId}
    (hcurrent : currentId ∈ self.scheduler.runQueue.ids) :
    self.Advances (self.selectNext memory currentId) := by
  obtain ⟨hscheduled, hids, hempty | ⟨nextId, hnext, hfound⟩⟩ := Scheduler.schedule_cases hself
  · rw [hempty] at hcurrent
    exact absurd hcurrent (Finset.notMem_empty _)
  · unfold selectNext
    rw [← hids] at hcurrent hnext
    generalize self.scheduler.schedule = scheduled at *
    simp only [hfound]
    by_cases hsame : nextId = currentId
    · rw [if_pos hsame]
      exact advances_same_count
        (hscheduled.modifyTask currentId Task.startSlice fun _ => rfl) rfl 0#64
    · rw [if_neg hsame]
      obtain ⟨next, htask⟩ := hscheduled.task_of_mem hnext
      simp only [htask]
      exact preempt_advances { self with scheduler := scheduled } hscheduled memory hcurrent nextId
        next.interruptRsp

/-- Every timer interrupt keeps the scheduler coherent and takes none of the
fallback branches. -/
theorem timerInterrupt_advances {self : Statics} (hself : self.scheduler.Coherent)
    (memory : X86.Memory) (currentInterruptRsp : U64) :
    self.Advances (self.timerInterrupt memory currentInterruptRsp) := by
  unfold timerInterrupt
  cases hcurrent : self.scheduler.currentTask with
  | none => exact advances_same_count hself rfl 0#64
  | some currentId =>
      have hmem := hself.current_mem currentId hcurrent
      obtain ⟨task, htask⟩ := hself.task_of_mem hmem
      have hticked := hself.ticked currentId currentInterruptRsp
      have hstay : currentId ∈
          (self.scheduler.ticked currentId currentInterruptRsp).runQueue.ids := by
        rwa [Scheduler.ticked_runQueue]
      simp only [htask]
      generalize self.scheduler.ticked currentId currentInterruptRsp = ticked at *
      cases ticked.sliceExpired currentId with
      | false => exact advances_same_count hticked rfl 0#64
      | true => exact selectNext_advances { self with scheduler := ticked } hticked memory hstay

end Statics

end UnboundOS.Sched
