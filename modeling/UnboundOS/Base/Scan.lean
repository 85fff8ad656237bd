import UnboundOS.Base.Checked

/-!
The first-fit scan `for index in 0..n { if p(index) { return Some(index) } }`.
Users reason with its two characterisations and never unroll it. And the scan
for a best value, which keeps the better of what it has and what it sees.
-/

namespace UnboundOS

/-- The lowest index below `n` that satisfies `p`. -/
def firstFit {n : Nat} (p : Fin n → Bool) : Option (Fin n) :=
  Fin.find? p

variable {n : Nat} {p : Fin n → Bool}

theorem firstFit_eq_some {index : Fin n} :
    firstFit p = some index ↔ p index = true ∧ ∀ earlier < index, p earlier = false :=
  Fin.find?_eq_some_iff

theorem firstFit_eq_none : firstFit p = none ↔ ∀ index, p index = false :=
  Fin.find?_eq_none_iff

theorem firstFit_sat {index : Fin n} (h : firstFit p = some index) : p index = true :=
  (firstFit_eq_some.mp h).1

/-- A scan finds something as soon as one index satisfies the predicate. -/
theorem firstFit_of_sat {index : Fin n} (h : p index = true) :
    ∃ found, firstFit p = some found := by
  cases hfind : firstFit p with
  | none =>
      rw [firstFit_eq_none.mp hfind index] at h
      cases h
  | some found => exact ⟨found, rfl⟩

section Best

variable {α : Type}

/-- The best of the values seen so far, in a scan that starts from the worst
value there is. -/
structure Best (better : α → α → Prop) (seen : Set α) (worst value : α) : Prop where
  best : ∀ other ∈ seen, better value other
  attained : value ∈ seen ∨ seen = ∅ ∧ value = worst

variable {better : α → α → Prop} {seen : Set α} {worst value : α}

theorem Best.start : Best better ∅ worst worst :=
  ⟨fun _ hother => absurd hother (Set.notMem_empty _), .inr ⟨rfl, rfl⟩⟩

/-- Seeing one more value. -/
theorem Best.see [∀ left right, Decidable (better left right)]
    (hself : Best better seen worst value)
    (htotal : ∀ left right, ¬ better left right → better right left)
    (htrans : ∀ left middle right, better left middle → better middle right → better left right)
    (hworst : ∀ other, better worst other → other = worst) (next : α) :
    Best better (insert next seen) worst (if better value next then value else next) := by
  by_cases hkeep : better value next
  · rw [if_pos hkeep]
    refine ⟨?_, .inl ?_⟩
    · rintro other (rfl | hother)
      · exact hkeep
      · exact hself.best other hother
    · rcases hself.attained with hseen | ⟨_, rfl⟩
      · exact Set.mem_insert_of_mem _ hseen
      · rw [hworst next hkeep]
        exact Set.mem_insert _ _
  · rw [if_neg hkeep]
    have hnext := htotal value next hkeep
    have hrefl : better next next := by
      by_contra hnot
      exact hnot (htotal next next hnot)
    refine ⟨?_, .inl (Set.mem_insert _ _)⟩
    rintro other (rfl | hother)
    · exact hrefl
    · exact htrans next value other hnext (hself.best other hother)

end Best

end UnboundOS
