import UnboundOS.Base.Run

/-!
An abstract first-fit pool: two sets of a linearly ordered type, the elements
that are free and the elements that are out. Clients see an element through
its name. Taking hands out the least free element, giving returns the element
of that name if it is out and ignores every other name. The run-level facts
(nothing is lost, nothing appears, nothing is handed out twice without coming
back in between) are proved here once.
-/

namespace UnboundOS

structure Pool (α : Type) where
  free : Finset α
  out : Finset α

namespace Pool

variable {α ν : Type} [LinearOrder α] [DecidableEq ν]

inductive Op (ν : Type) where
  | take
  | give (name : ν)

inductive Event (ν : Type) where
  | taken (name : ν)
  | exhausted
  | given (name : ν)
deriving DecidableEq

/-- The least free element goes out. -/
def take (pool : Pool α) (hfree : pool.free.Nonempty) : Pool α where
  free := pool.free.erase (pool.free.min' hfree)
  out := insert (pool.free.min' hfree) pool.out

/-- The elements of this name that are out come back. -/
def give (nameOf : α → ν) (pool : Pool α) (name : ν) : Pool α where
  free := pool.free ∪ pool.out.filter (fun element => nameOf element = name)
  out := pool.out.filter (fun element => nameOf element ≠ name)

def step (nameOf : α → ν) (pool : Pool α) : Op ν → Event ν × Pool α
  | .take =>
      if hfree : pool.free.Nonempty then
        (.taken (nameOf (pool.free.min' hfree)), pool.take hfree)
      else (.exhausted, pool)
  | .give name => (.given name, pool.give nameOf name)

variable {nameOf : α → ν}

theorem give_of_mem (hinjective : Function.Injective nameOf) {pool : Pool α} {element : α}
    (hout : element ∈ pool.out) :
    pool.give nameOf (nameOf element) =
      ⟨insert element pool.free, pool.out.erase element⟩ := by
  have hsame (other : α) : nameOf other = nameOf element ↔ other = element :=
    ⟨fun heq => hinjective heq, fun heq => by rw [heq]⟩
  simp only [give, hsame, mk.injEq]
  constructor
  · ext other
    simp only [Finset.mem_union, Finset.mem_filter, Finset.mem_insert]
    constructor
    · rintro (hfree | ⟨_, heq⟩)
      · exact Or.inr hfree
      · exact Or.inl heq
    · rintro (rfl | hfree)
      · exact Or.inr ⟨hout, rfl⟩
      · exact Or.inl hfree
  · ext other
    simp only [Finset.mem_filter, Finset.mem_erase, ne_eq, hsame]
    exact and_comm

theorem give_of_not_mem {pool : Pool α} {name : ν}
    (hnone : ∀ element ∈ pool.out, nameOf element ≠ name) : pool.give nameOf name = pool := by
  have hempty : pool.out.filter (fun element => nameOf element = name) = ∅ :=
    Finset.filter_eq_empty_iff.mpr fun {element} helement => hnone element helement
  have hall : pool.out.filter (fun element => nameOf element ≠ name) = pool.out :=
    Finset.filter_eq_self.mpr hnone
  simp only [give, hempty, hall, Finset.union_empty]

theorem step_take_least {pool : Pool α} {least : α} (hmem : least ∈ pool.free)
    (hleast : ∀ other ∈ pool.free, least ≤ other) :
    pool.step nameOf .take =
      (.taken (nameOf least), ⟨pool.free.erase least, insert least pool.out⟩) := by
  have hfree : pool.free.Nonempty := ⟨least, hmem⟩
  have hmin : pool.free.min' hfree = least :=
    le_antisymm (Finset.min'_le _ _ hmem) (hleast _ (Finset.min'_mem _ hfree))
  rw [step, dif_pos hfree, take, hmin]

/-- Everything one step of a pool can do, with its guards. -/
theorem step_cases (hinjective : Function.Injective nameOf) (pool : Pool α) (op : Op ν) :
    (pool.free = ∅ ∧ op = .take ∧ pool.step nameOf op = (.exhausted, pool)) ∨
    (∃ least ∈ pool.free, (∀ other ∈ pool.free, least ≤ other) ∧ op = .take ∧
      pool.step nameOf op =
        (.taken (nameOf least), ⟨pool.free.erase least, insert least pool.out⟩)) ∨
    (∃ element ∈ pool.out, op = .give (nameOf element) ∧
      pool.step nameOf op =
        (.given (nameOf element), ⟨insert element pool.free, pool.out.erase element⟩)) ∨
    (∃ name, (∀ element ∈ pool.out, nameOf element ≠ name) ∧ op = .give name ∧
      pool.step nameOf op = (.given name, pool)) := by
  cases op with
  | take =>
      by_cases hfree : pool.free.Nonempty
      · have hleast (other : α) (hother : other ∈ pool.free) : pool.free.min' hfree ≤ other :=
          pool.free.min'_le other hother
        exact Or.inr (Or.inl ⟨_, pool.free.min'_mem hfree, hleast, rfl,
          step_take_least (pool.free.min'_mem hfree) hleast⟩)
      · have hempty := Finset.not_nonempty_iff_eq_empty.mp hfree
        exact Or.inl ⟨hempty, rfl, by simp [step, hempty]⟩
  | give name =>
      right; right
      by_cases hout : ∃ element ∈ pool.out, nameOf element = name
      · obtain ⟨element, hmem, rfl⟩ := hout
        exact Or.inl ⟨element, hmem, rfl, by rw [step, give_of_mem hinjective hmem]⟩
      · have hnone : ∀ element ∈ pool.out, nameOf element ≠ name :=
          fun element hmem heq => hout ⟨element, hmem, heq⟩
        exact Or.inr ⟨name, hnone, rfl, by rw [step, give_of_not_mem hnone]⟩

/-- Free and out never overlap, and together they are always the same set. -/
structure Within (whole : Finset α) (pool : Pool α) : Prop where
  disjoint : Disjoint pool.free pool.out
  union_eq : pool.free ∪ pool.out = whole

variable {whole : Finset α} {pool : Pool α}

theorem step_within (hinjective : Function.Injective nameOf) (op : Op ν)
    (hpool : pool.Within whole) : (pool.step nameOf op).2.Within whole := by
  obtain ⟨_, rfl, hstep⟩ | ⟨least, hleast, _, rfl, hstep⟩ | ⟨element, helement, rfl, hstep⟩ |
    ⟨name, _, rfl, hstep⟩ := step_cases hinjective pool op <;> rw [hstep]
  · exact hpool
  · constructor
    · rw [Finset.disjoint_insert_right]
      exact ⟨Finset.notMem_erase _ _, hpool.disjoint.mono_left (Finset.erase_subset _ _)⟩
    · rw [← hpool.union_eq, Finset.union_insert, ← Finset.insert_union,
        Finset.insert_erase hleast]
  · constructor
    · rw [Finset.disjoint_insert_left]
      exact ⟨Finset.notMem_erase _ _, hpool.disjoint.mono_right (Finset.erase_subset _ _)⟩
    · rw [← hpool.union_eq, Finset.insert_union, ← Finset.union_insert,
        Finset.insert_erase helement]
  · exact hpool

theorem run_within (hinjective : Function.Injective nameOf) (ops : List (Op ν))
    (hpool : pool.Within whole) : (runAll (step nameOf) pool ops).2.Within whole :=
  runAll_invariant (fun _ op hstate => step_within hinjective op hstate) ops hpool

/-- Only elements of the whole are ever handed out. -/
theorem taken_mem (hinjective : Function.Injective nameOf) (ops : List (Op ν))
    (hpool : pool.Within whole) {name : ν}
    (htaken : .taken name ∈ (runAll (step nameOf) pool ops).1) :
    ∃ element ∈ whole, nameOf element = name := by
  induction ops generalizing pool with
  | nil => simp at htaken
  | cons op rest ih =>
      rw [runAll_cons, List.mem_cons] at htaken
      rcases htaken with hhead | htail
      · obtain ⟨_, rfl, hstep⟩ | ⟨least, hleast, _, rfl, hstep⟩ | ⟨_, _, rfl, hstep⟩ |
          ⟨_, _, rfl, hstep⟩ := step_cases hinjective pool op <;> rw [hstep] at hhead
        · cases hhead
        · cases hhead
          exact ⟨least, by rw [← hpool.union_eq]; exact Finset.mem_union_left _ hleast, rfl⟩
        · cases hhead
        · cases hhead
      · exact ih (step_within hinjective op hpool) htail

/-- Every free element is handed out if one keeps taking. -/
theorem taken_of_mem_free {pool : Pool α} {element : α} (hfree : element ∈ pool.free) :
    .taken (nameOf element) ∈
      (runAll (step nameOf) pool (List.replicate pool.free.card .take)).1 := by
  induction hcard : pool.free.card generalizing pool with
  | zero =>
      rw [Finset.card_eq_zero.mp hcard] at hfree
      exact absurd hfree (Finset.notMem_empty element)
  | succ n ih =>
      have hnonempty : pool.free.Nonempty := ⟨element, hfree⟩
      have hleast := pool.free.min'_mem hnonempty
      have hstep : pool.step nameOf .take = _ :=
        step_take_least hleast (pool.free.min'_le)
      rw [List.replicate_succ, runAll_cons, hstep, List.mem_cons]
      by_cases hsame : element = pool.free.min' hnonempty
      · left
        rw [← hsame]
      · right
        apply ih
        · exact Finset.mem_erase.mpr ⟨hsame, hfree⟩
        · rw [Finset.card_erase_of_mem hleast, hcard]
          rfl

/-- An element that is out is not handed out again before it is given back. -/
theorem given_before_retaken (hinjective : Function.Injective nameOf) (ops : List (Op ν))
    (hpool : pool.Within whole) {element : α} (hout : element ∈ pool.out)
    {between after : List (Event ν)}
    (hrun : (runAll (step nameOf) pool ops).1 = between ++ .taken (nameOf element) :: after) :
    .given (nameOf element) ∈ between := by
  induction ops generalizing pool between with
  | nil => simp at hrun
  | cons op rest ih =>
      rw [runAll_cons] at hrun
      cases between with
      | nil =>
          rw [List.nil_append, List.cons.injEq] at hrun
          obtain ⟨_, rfl, hstep⟩ | ⟨least, hleast, _, rfl, hstep⟩ | ⟨_, _, rfl, hstep⟩ |
            ⟨_, _, rfl, hstep⟩ := step_cases hinjective pool op <;> rw [hstep] at hrun
          · cases hrun.1
          · have hsame : least = element := hinjective (Event.taken.inj hrun.1)
            rw [hsame] at hleast
            exact absurd hout (Finset.disjoint_left.mp hpool.disjoint hleast)
          · cases hrun.1
          · cases hrun.1
      | cons event more =>
          rw [List.cons_append, List.cons.injEq] at hrun
          by_cases hgiven : event = .given (nameOf element)
          · simp [hgiven]
          · have hstill : element ∈ (pool.step nameOf op).2.out := by
              obtain ⟨_, rfl, hstep⟩ | ⟨least, hleast, _, rfl, hstep⟩ |
                ⟨other, _, rfl, hstep⟩ | ⟨_, _, rfl, hstep⟩ := step_cases hinjective pool op <;>
                rw [hstep] at hrun ⊢
              · exact hout
              · exact Finset.mem_insert_of_mem hout
              · refine Finset.mem_erase.mpr ⟨?_, hout⟩
                rintro rfl
                exact hgiven hrun.1.symm
              · exact hout
            exact List.mem_cons_of_mem _ (ih (step_within hinjective op hpool) hstill hrun.2)

/-- No element is handed out twice without being given back in between. -/
theorem no_double_take (hinjective : Function.Injective nameOf) (ops : List (Op ν))
    (hpool : pool.Within whole) {name : ν} {before between after : List (Event ν)}
    (hrun : (runAll (step nameOf) pool ops).1 =
      before ++ .taken name :: (between ++ .taken name :: after)) :
    .given name ∈ between := by
  induction ops generalizing pool before with
  | nil => simp at hrun
  | cons op rest ih =>
      rw [runAll_cons] at hrun
      cases before with
      | nil =>
          rw [List.nil_append, List.cons.injEq] at hrun
          have hout : ∃ element ∈ (pool.step nameOf op).2.out, nameOf element = name := by
            obtain ⟨_, rfl, hstep⟩ | ⟨least, _, _, rfl, hstep⟩ | ⟨_, _, rfl, hstep⟩ |
              ⟨_, _, rfl, hstep⟩ := step_cases hinjective pool op <;> rw [hstep] at hrun ⊢
            · cases hrun.1
            · cases hrun.1
              exact ⟨least, Finset.mem_insert_self _ _, rfl⟩
            · cases hrun.1
            · cases hrun.1
          obtain ⟨element, helement, rfl⟩ := hout
          exact given_before_retaken hinjective rest (step_within hinjective op hpool)
            helement hrun.2
      | cons event more =>
          rw [List.cons_append, List.cons.injEq] at hrun
          exact ih (step_within hinjective op hpool) hrun.2

end Pool

end UnboundOS
