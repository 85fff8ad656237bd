import UnboundOS.Base.Ring
import UnboundOS.Base.Scan
import UnboundOS.Base.SlotSet

/-!
The run queue of `scheduler/queue.rs`: sixty-four slots with holes, and a count
kept beside them. The queue stands for a set of task ids; each operation is
described by what it does to that set.
-/

namespace UnboundOS.Sched

abbrev TaskId := U64

def maxTasks : Nat := 64

structure RunQueue where
  tasks : Fin maxTasks → Option TaskId
  count : Nat

namespace RunQueue

def new : RunQueue := ⟨fun _ => none, 0⟩

def contains (self : RunQueue) (taskId : TaskId) : Bool :=
  (firstFit (fun slot => self.tasks slot == some taskId)).isSome

def push (self : RunQueue) (taskId : TaskId) : Bool × RunQueue :=
  if maxTasks ≤ self.count then (false, self)
  else if self.contains taskId then (false, self)
  else
    match firstFit (fun slot => (self.tasks slot).isNone) with
    | some slot => (true, ⟨Function.update self.tasks slot (some taskId), self.count + 1⟩)
    | none => (false, self)

def remove (self : RunQueue) (taskId : TaskId) : Checked (Bool × RunQueue) :=
  match firstFit (fun slot => self.tasks slot == some taskId) with
  | some slot => do
      let count ← checkedSub self.count 1
      some (true, ⟨Function.update self.tasks slot none, count⟩)
  | none => some (false, self)

def isEmpty (self : RunQueue) : Bool := self.count == 0

def first (self : RunQueue) : Option TaskId :=
  match firstFit (fun slot => (self.tasks slot).isSome) with
  | some slot => self.tasks slot
  | none => none

def rotate (self : RunQueue) : RunQueue :=
  if self.count ≤ 1 then self
  else
    { self with
      tasks := Function.update (shiftDown self.tasks (maxTasks - 1)) ⟨maxTasks - 1, by decide⟩
        (self.tasks ⟨0, by decide⟩) }

/-- The queued ids. -/
def ids (self : RunQueue) : Finset TaskId := held self.tasks

/-- No id is queued twice, and the count is that of the occupied slots. -/
structure Sound (queue : RunQueue) : Prop where
  distinct : Distinct queue.tasks
  count_eq : queue.count = occupancy queue.tasks

theorem Sound.count_eq_card {queue : RunQueue} (hqueue : queue.Sound) :
    queue.count = queue.ids.card := by
  rw [hqueue.count_eq, ids, card_held hqueue.distinct]

theorem sound_of_card {queue : RunQueue} (hdistinct : Distinct queue.tasks)
    (hcount : queue.count = queue.ids.card) : queue.Sound :=
  ⟨hdistinct, by rw [hcount, ids, card_held hdistinct]⟩

theorem new_sound : new.Sound := by
  refine sound_of_card (fun _ _ _ hfirst => ?_) ?_
  · cases hfirst
  · exact (congrArg Finset.card held_none).symm

theorem contains_iff {self : RunQueue} {taskId : TaskId} :
    self.contains taskId = true ↔ taskId ∈ self.ids := by
  rw [contains, ids, mem_held]
  constructor
  · intro hfound
    obtain ⟨slot, hslot⟩ := Option.isSome_iff_exists.mp hfound
    exact ⟨slot, beq_iff_eq.mp (firstFit_sat hslot)⟩
  · rintro ⟨slot, hslot⟩
    have hsat : (self.tasks slot == some taskId) = true := beq_iff_eq.mpr hslot
    obtain ⟨found, hfound⟩ :=
      firstFit_of_sat (p := fun slot => self.tasks slot == some taskId) hsat
    rw [hfound]
    rfl

/-- A push is refused if the queue is full or holds the id, and inserts the id
otherwise. -/
theorem push_cases {self : RunQueue} (hself : self.Sound) (taskId : TaskId) :
    ((maxTasks ≤ self.count ∨ taskId ∈ self.ids) ∧ self.push taskId = (false, self)) ∨
    (self.count < maxTasks ∧ taskId ∉ self.ids ∧ ∃ next, self.push taskId = (true, next) ∧
      next.Sound ∧ next.ids = insert taskId self.ids) := by
  unfold push
  by_cases hfull : maxTasks ≤ self.count
  · exact Or.inl ⟨Or.inl hfull, if_pos hfull⟩
  · rw [if_neg hfull]
    by_cases hcontains : self.contains taskId
    · exact Or.inl ⟨Or.inr (contains_iff.mp hcontains), if_pos hcontains⟩
    · rw [if_neg hcontains]
      have hnew : taskId ∉ self.ids := fun hmem => hcontains (contains_iff.mpr hmem)
      refine Or.inr ⟨Nat.lt_of_not_le hfull, hnew, ?_⟩
      cases hscan : firstFit (fun slot => (self.tasks slot).isNone) with
      | some slot =>
          have hfree : self.tasks slot = none := Option.isNone_iff_eq_none.mp (firstFit_sat hscan)
          have hids : held (Function.update self.tasks slot (some taskId)) =
              insert taskId self.ids := held_fill hfree taskId
          refine ⟨_, rfl, sound_of_card (hself.distinct.fill slot hnew) ?_, hids⟩
          change self.count + 1 = (held (Function.update self.tasks slot (some taskId))).card
          rw [hids, Finset.card_insert_of_notMem hnew, hself.count_eq_card]
      | none =>
          have hoccupied (slot : Fin maxTasks) : (self.tasks slot).isSome := by
            rw [← Option.isNone_eq_false_iff]
            exact firstFit_eq_none.mp hscan slot
          have hall : occupancy self.tasks = maxTasks := by
            rw [occupancy, Finset.filter_true_of_mem fun slot _ => hoccupied slot,
              Finset.card_univ, Fintype.card_fin]
          rw [hself.count_eq, hall] at hfull
          exact absurd le_rfl hfull

/-- A removal takes the id out if it is there; the count never underflows. -/
theorem remove_cases {self : RunQueue} (hself : self.Sound) (taskId : TaskId) :
    (taskId ∉ self.ids ∧ self.remove taskId = some (false, self)) ∨
    (taskId ∈ self.ids ∧ ∃ next, self.remove taskId = some (true, next) ∧ next.Sound ∧
      next.ids = self.ids.erase taskId) := by
  unfold remove
  cases hscan : firstFit (fun slot => self.tasks slot == some taskId) with
  | some slot =>
      have hslot : self.tasks slot = some taskId := beq_iff_eq.mp (firstFit_sat hscan)
      have hmem : taskId ∈ self.ids := mem_held.mpr ⟨slot, hslot⟩
      have hpositive : 1 ≤ self.count := by
        rw [hself.count_eq_card]
        exact Finset.card_pos.mpr ⟨taskId, hmem⟩
      have hids : held (Function.update self.tasks slot none) = self.ids.erase taskId :=
        held_empty hself.distinct hslot
      refine Or.inr ⟨hmem, ⟨Function.update self.tasks slot none, self.count - 1⟩, ?_,
        sound_of_card (hself.distinct.empty slot) ?_, hids⟩
      · simp only [checkedSub_eq_some hpositive, Option.bind_eq_bind, Option.bind_some]
      · change self.count - 1 = (held (Function.update self.tasks slot none)).card
        rw [hids, Finset.card_erase_of_mem hmem, hself.count_eq_card]
  | none =>
      refine Or.inl ⟨fun hmem => ?_, rfl⟩
      obtain ⟨slot, hslot⟩ := mem_held.mp hmem
      have hnone : (self.tasks slot == some taskId) = false := firstFit_eq_none.mp hscan slot
      exact beq_eq_false_iff_ne.mp hnone hslot

theorem rotate_ids (self : RunQueue) : self.rotate.ids = self.ids := by
  unfold rotate
  split
  · rfl
  · change held (Function.update _ _ _) = _
    rw [rotate_eq_comp_advance self.tasks (by decide), held_comp _ advance_surjective, ids]

theorem rotate_sound {self : RunQueue} (hself : self.Sound) : self.rotate.Sound := by
  refine sound_of_card ?_ ?_
  · unfold rotate
    split
    · exact hself.distinct
    · change Distinct (Function.update _ _ _)
      rw [rotate_eq_comp_advance self.tasks (by decide)]
      exact hself.distinct.comp advance_injective
  · rw [rotate_ids, ← hself.count_eq_card, rotate]
    split <;> rfl

theorem isEmpty_iff {self : RunQueue} (hself : self.Sound) :
    self.isEmpty = true ↔ self.ids = ∅ := by
  rw [isEmpty, beq_iff_eq, hself.count_eq_card, Finset.card_eq_zero]

/-- The first id is one of the queue, and there is one unless it is empty. -/
theorem first_cases (self : RunQueue) :
    (self.ids = ∅ ∧ self.first = none) ∨ ∃ taskId ∈ self.ids, self.first = some taskId := by
  unfold first
  cases hscan : firstFit (fun slot => (self.tasks slot).isSome) with
  | some slot =>
      obtain ⟨taskId, hslot⟩ := Option.isSome_iff_exists.mp (firstFit_sat hscan)
      exact Or.inr ⟨taskId, mem_held.mpr ⟨slot, hslot⟩, hslot⟩
  | none =>
      refine Or.inl ⟨Finset.eq_empty_of_forall_notMem fun taskId hmem => ?_, rfl⟩
      obtain ⟨slot, hslot⟩ := mem_held.mp hmem
      have hnone := firstFit_eq_none.mp hscan slot
      rw [hslot] at hnone
      cases hnone

end RunQueue

end UnboundOS.Sched
