import UnboundOS.Base.Rotation
import UnboundOS.Sched.Runs

/-!
Round-robin order. `schedule` rotates all sixty-four slots of the run queue by
one, holes included, and then takes the first occupied slot. Consecutive calls
are therefore picks from a rotating array, and they go round the queued tasks
only as long as no hole reaches the front.
-/

namespace UnboundOS.Sched

namespace RunQueue

theorem first_eq_firstHeld (self : RunQueue) : self.first = firstHeld self.tasks := by
  unfold first firstHeld
  cases firstFit (fun slot => (self.tasks slot).isSome) <;> rfl

theorem rotate_of_many {self : RunQueue} (hmany : 1 < self.count) :
    self.rotate = ⟨self.tasks ∘ advance, self.count⟩ := by
  unfold rotate
  rw [if_neg (by omega), rotate_eq_comp_advance self.tasks (by decide)]

theorem rotate_of_single {self : RunQueue} (hsingle : self.count ≤ 1) : self.rotate = self :=
  if_pos hsingle

end RunQueue

namespace Scheduler

/-- The current task after each of some consecutive calls of `schedule`. -/
def currents (self : Scheduler) : Nat → List (Option TaskId)
  | 0 => []
  | calls + 1 => self.schedule.currentTask :: self.schedule.currents calls

/-- As many calls as there are queued tasks make each of them current once. -/
def RoundRobin (self : Scheduler) : Prop :=
  ∀ taskId ∈ self.runQueue.ids,
    (self.currents self.runQueue.count).count (some taskId) = 1

theorem not_roundRobin {self : Scheduler} (taskId : TaskId)
    (hqueued : self.runQueue.contains taskId = true)
    (hskipped : (self.currents self.runQueue.count).count (some taskId) = 0) :
    ¬ self.RoundRobin := by
  intro hfair
  have honce := hfair taskId (RunQueue.contains_iff.mp hqueued)
  omega

theorem schedule_of_pos {self : Scheduler} (hpositive : 0 < self.runQueue.count) :
    self.schedule.runQueue = self.runQueue.rotate ∧
      self.schedule.currentTask = self.runQueue.rotate.first := by
  have hnonempty : self.runQueue.isEmpty = false := beq_eq_false_iff_ne.mpr (by omega)
  unfold schedule
  rw [hnonempty]
  exact ⟨rfl, rfl⟩

theorem length_currents (self : Scheduler) (calls : Nat) :
    (self.currents calls).length = calls := by
  induction calls generalizing self with
  | zero => rfl
  | succ calls ih => rw [currents, List.length_cons, ih]

/-- With two tasks or more, the calls pick from the rotating slots. -/
theorem currents_eq_picks {self : Scheduler} (hmany : 1 < self.runQueue.count) (calls : Nat) :
    self.currents calls =
      (List.range calls).map (fun turn => pick self.runQueue.tasks (turn + 1)) := by
  induction calls generalizing self with
  | zero => rfl
  | succ calls ih =>
      obtain ⟨hqueue, hcurrent⟩ := schedule_of_pos (Nat.lt_of_succ_lt hmany)
      rw [RunQueue.rotate_of_many hmany] at hqueue hcurrent
      have hstill : 1 < self.schedule.runQueue.count := by
        rw [hqueue]
        exact hmany
      have hrest := ih hstill
      have hturn (turn : Nat) : pick (self.runQueue.tasks ∘ advance) (turn + 1) =
          pick self.runQueue.tasks (turn + 1 + 1) := by
        unfold pick
        rw [Function.comp_assoc, ← Function.iterate_succ']
      rw [currents, hrest, hqueue, hcurrent, List.range_succ_eq_map, List.map_cons, List.map_map]
      refine congrArg₂ List.cons ?_ (List.map_congr_left fun turn _ => hturn turn)
      rw [RunQueue.first_eq_firstHeld]
      rfl

/-- Every call makes a queued task current. -/
theorem mem_currents {self : Scheduler} (hself : self.Coherent)
    (hpositive : 0 < self.runQueue.count) {calls : Nat} {entry : Option TaskId}
    (hentry : entry ∈ self.currents calls) : ∃ taskId ∈ self.runQueue.ids, entry = some taskId := by
  induction calls generalizing self with
  | zero => cases hentry
  | succ calls ih =>
      obtain ⟨hscheduled, hids, hcurrent⟩ := schedule_cases hself
      rcases List.mem_cons.mp hentry with rfl | hrest
      · rcases hcurrent with hempty | ⟨taskId, hmem, hfound⟩
        · rw [hself.queue.count_eq_card, hempty, Finset.card_empty] at hpositive
          omega
        · exact ⟨taskId, hmem, hfound⟩
      · rw [← hids]
        refine ih hscheduled ?_ hrest
        rwa [hscheduled.queue.count_eq_card, hids, ← hself.queue.count_eq_card]

/-- Fair over one turn means that no call repeats a task. -/
theorem roundRobin_iff_nodup {self : Scheduler} (hself : self.Coherent)
    (hpositive : 0 < self.runQueue.count) :
    self.RoundRobin ↔ (self.currents self.runQueue.count).Nodup := by
  have hlength : (self.currents self.runQueue.count).length =
      (self.runQueue.ids.image some).card := by
    rw [length_currents, Finset.card_image_of_injective _ (Option.some_injective TaskId),
      hself.queue.count_eq_card]
  have hentries : ∀ entry ∈ self.currents self.runQueue.count,
      entry ∈ self.runQueue.ids.image some := by
    intro entry hentry
    obtain ⟨taskId, hmem, rfl⟩ := mem_currents hself hpositive hentry
    exact Finset.mem_image_of_mem some hmem
  rw [← count_eq_one_iff_nodup hlength hentries]
  constructor
  · intro hfair value hvalue
    obtain ⟨taskId, hmem, rfl⟩ := Finset.mem_image.mp hvalue
    exact hfair taskId hmem
  · intro honce taskId hmem
    exact honce (some taskId) (Finset.mem_image_of_mem some hmem)

/-- A turn is fair exactly if slots `1` to `count - 1` of the queue are occupied. -/
theorem roundRobin_iff_aligned {self : Scheduler} (hself : self.Coherent)
    (hpositive : 0 < self.runQueue.count) :
    self.RoundRobin ↔ Aligned self.runQueue.tasks self.runQueue.count := by
  rw [roundRobin_iff_nodup hself hpositive]
  by_cases hmany : 1 < self.runQueue.count
  · rw [currents_eq_picks hmany, ← picks_ne_iff_aligned hself.queue.count_eq.symm
      hself.queue.distinct, List.nodup_map_iff_inj_on List.nodup_range]
    constructor
    · intro hinjective first second hfirst hless hsecond hsame
      have hturns := hinjective (first - 1) (List.mem_range.mpr (by omega)) (second - 1)
        (List.mem_range.mpr (by omega)) (by
          rwa [Nat.sub_add_cancel hfirst, Nat.sub_add_cancel (by omega)])
      omega
    · intro hpicks first hfirst second hsecond hsame
      rw [List.mem_range] at hfirst hsecond
      rcases lt_trichotomy first second with hless | heq | hgreater
      · exact absurd hsame (hpicks (first + 1) (second + 1) (by omega) (by omega) (by omega))
      · exact heq
      · exact absurd hsame.symm
          (hpicks (second + 1) (first + 1) (by omega) (by omega) (by omega))
  · have hsingle : self.runQueue.count = 1 := by omega
    rw [hsingle]
    refine iff_of_true ?_ fun slot hslot hless => absurd hslot (by omega)
    exact List.nodup_singleton _

end Scheduler

namespace Statics

/-- In every reachable state with queued tasks, the next turn of `schedule`
calls is fair exactly if the slots behind the front of the queue are occupied
without a hole. -/
theorem round_robin_iff (ops : List SchedulerOp) {events : List SchedulerEvent} {final : Statics}
    (hrun : runChecked step initial ops = some (events, final))
    (hqueued : 0 < final.scheduler.runQueue.count) :
    final.scheduler.RoundRobin ↔
      ∀ slot : Fin maxTasks, 0 < slot.val → slot.val < final.scheduler.runQueue.count →
        (final.scheduler.runQueue.tasks slot).isSome :=
  Scheduler.roundRobin_iff_aligned (run_coherent ops hrun).1 hqueued

/-- Two tasks just created take turns. -/
theorem round_robin_iff_fresh_pair :
    ∃ events final, runChecked step initial
        [.createTask (Task.new 1#64 1#8), .createTask (Task.new 2#64 1#8)] =
          some (events, final) ∧
      0 < final.scheduler.runQueue.count ∧ final.scheduler.RoundRobin := by
  refine ⟨_, _, rfl, by decide, ?_⟩
  refine (round_robin_iff [.createTask (Task.new 1#64 1#8), .createTask (Task.new 2#64 1#8)]
    rfl (by decide)).mpr ?_
  decide

/-- After one more call the second task is at the front and the first in the
last slot; the next two calls both run the first. -/
theorem round_robin_fails_after_schedule :
    ∃ events final, runChecked step initial
        [.createTask (Task.new 1#64 1#8), .createTask (Task.new 2#64 1#8), .schedule] =
          some (events, final) ∧
      final.scheduler.runQueue.count = 2 ∧
      final.scheduler.currents 2 = [some 1#64, some 1#64] ∧
      ¬ final.scheduler.RoundRobin := by
  refine ⟨_, _, rfl, by decide +kernel, by decide +kernel, ?_⟩
  exact Scheduler.not_roundRobin 2#64 (by decide +kernel) (by decide +kernel)

end Statics

end UnboundOS.Sched
