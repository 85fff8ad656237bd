import UnboundOS.Base.Ring
import UnboundOS.Base.Scan
import UnboundOS.Base.SlotSet

/-!
Picking from an array with holes that is rotated by one cell before each pick.
A pick takes the first occupied cell, so an empty cell at the front makes the
next pick repeat the last one. Over as many picks as there are values, every
value is picked once exactly if the cells about to reach the front are occupied.
-/

namespace UnboundOS

variable {α : Type} {n : Nat}

/-- The value in the first occupied cell. -/
def firstHeld (cells : Fin n → Option α) : Option α :=
  match firstFit (fun slot => (cells slot).isSome) with
  | some slot => cells slot
  | none => none

theorem firstHeld_eq_some {cells : Fin n → Option α} {value : α} :
    firstHeld cells = some value ↔
      ∃ slot, cells slot = some value ∧ ∀ earlier < slot, cells earlier = none := by
  unfold firstHeld
  cases hscan : firstFit (fun slot => (cells slot).isSome) with
  | some found =>
      obtain ⟨hfound, hbefore⟩ := firstFit_eq_some.mp hscan
      have hnone (earlier : Fin n) (hearlier : earlier < found) : cells earlier = none :=
        Option.isSome_eq_false_iff.mp (hbefore earlier hearlier) |> Option.isNone_iff_eq_none.mp
      constructor
      · intro hvalue
        exact ⟨found, hvalue, hnone⟩
      · rintro ⟨slot, hslot, hempty⟩
        rcases lt_trichotomy slot found with hless | rfl | hgreater
        · rw [hnone slot hless] at hslot
          cases hslot
        · exact hslot
        · rw [hempty found hgreater] at hfound
          cases hfound
  | none =>
      constructor
      · intro hnone
        cases hnone
      · rintro ⟨slot, hslot, _⟩
        have hempty := firstFit_eq_none.mp hscan slot
        simp [hslot] at hempty

/-- There is a first value as soon as one cell is occupied. -/
theorem exists_firstHeld {cells : Fin n → Option α} {slot : Fin n} {value : α}
    (hslot : cells slot = some value) : ∃ first, firstHeld cells = some first := by
  have hsome : (cells slot).isSome = true := by rw [hslot]; rfl
  obtain ⟨found, hscan⟩ := firstFit_of_sat (p := fun slot => (cells slot).isSome) hsome
  obtain ⟨first, hfirst⟩ := Option.isSome_iff_exists.mp (firstFit_sat hscan)
  refine ⟨first, ?_⟩
  unfold firstHeld
  rw [hscan]
  exact hfirst

/-- With one value at most, the first value is any value. -/
theorem firstHeld_eq_some_of_card [DecidableEq α] {cells : Fin n → Option α}
    (hcard : (held cells).card ≤ 1) {value : α} :
    firstHeld cells = some value ↔ value ∈ held cells := by
  constructor
  · intro hvalue
    obtain ⟨slot, hslot, _⟩ := firstHeld_eq_some.mp hvalue
    exact mem_held.mpr ⟨slot, hslot⟩
  · intro hmem
    obtain ⟨slot, hslot⟩ := mem_held.mp hmem
    obtain ⟨first, hfirst⟩ := exists_firstHeld hslot
    obtain ⟨front, hfront, _⟩ := firstHeld_eq_some.mp hfirst
    have hsame := Finset.card_le_one.mp hcard first (mem_held.mpr ⟨front, hfront⟩) value hmem
    rw [hfirst, hsame]

/-- Rotating an empty cell away from the front does not change the first value. -/
theorem firstHeld_comp_advance {cells : Fin n → Option α} (hn : 0 < n)
    (hempty : cells ⟨0, hn⟩ = none) {value : α} (hvalue : firstHeld cells = some value) :
    firstHeld (cells ∘ advance) = some value := by
  obtain ⟨slot, hslot, hbefore⟩ := firstHeld_eq_some.mp hvalue
  have hpositive : 0 < slot.val := by
    refine Nat.pos_of_ne_zero fun hzero => ?_
    have hfront : slot = ⟨0, hn⟩ := Fin.ext hzero
    rw [hfront, hempty] at hslot
    cases hslot
  have hprevious (index : Nat) (hindex : index < slot.val) :
      (advance ⟨index, by omega⟩ : Fin n).val = index + 1 := by
    have hsucc : index + 1 < n := by omega
    rw [advance_val, Nat.mod_eq_of_lt hsucc]
  refine firstHeld_eq_some.mpr ⟨⟨slot.val - 1, by omega⟩, ?_, fun earlier hearlier => ?_⟩
  · have hadvance : (advance ⟨slot.val - 1, by omega⟩ : Fin n) = slot := by
      apply Fin.ext
      rw [hprevious (slot.val - 1) (by omega)]
      omega
    rw [Function.comp_apply, hadvance, hslot]
  · have hless : earlier.val < slot.val - 1 := hearlier
    refine hbefore _ ?_
    rw [Fin.lt_def, hprevious earlier.val (by omega)]
    omega

/-- The value picked after `turns` rotations. -/
def pick (cells : Fin n → Option α) (turns : Nat) : Option α :=
  firstHeld (cells ∘ advance^[turns])

theorem comp_advance_iterate_front (cells : Fin n → Option α) (hn : 0 < n) {turns : Nat}
    (hturns : turns < n) : (cells ∘ advance^[turns]) ⟨0, hn⟩ = cells ⟨turns, hturns⟩ := by
  rw [Function.comp_apply]
  congr 1
  apply Fin.ext
  rw [advance_iterate_val, Nat.zero_add, Nat.mod_eq_of_lt hturns]

/-- An empty cell at the front makes the next pick a repetition. -/
theorem pick_succ_of_empty {cells : Fin n → Option α} {turns : Nat} (hturns : turns < n)
    (hempty : cells ⟨turns, hturns⟩ = none) {value : α} (hvalue : pick cells turns = some value) :
    pick cells (turns + 1) = some value := by
  have hn : 0 < n := Nat.lt_of_le_of_lt (Nat.zero_le _) hturns
  have hfront := comp_advance_iterate_front cells hn hturns
  rw [hempty] at hfront
  have hnext := firstHeld_comp_advance hn hfront hvalue
  rwa [Function.comp_assoc, ← Function.iterate_succ] at hnext

/-- An occupied cell that reaches the front is picked. -/
theorem pick_of_occupied {cells : Fin n → Option α} {turns : Nat} (hturns : turns < n) {value : α}
    (hvalue : cells ⟨turns, hturns⟩ = some value) : pick cells turns = some value := by
  have hn : 0 < n := Nat.lt_of_le_of_lt (Nat.zero_le _) hturns
  refine firstHeld_eq_some.mpr ⟨⟨0, hn⟩, ?_, fun earlier hearlier => ?_⟩
  · rw [comp_advance_iterate_front cells hn hturns, hvalue]
  · exact absurd hearlier (Nat.not_lt_zero _)

theorem pick_eq_some {cells : Fin n → Option α} {turns : Nat} {value : α}
    (hvalue : pick cells turns = some value) :
    ∃ slot, cells (advance^[turns] slot) = some value ∧
      ∀ earlier < slot, cells (advance^[turns] earlier) = none :=
  firstHeld_eq_some.mp hvalue

/-- If only cells between the front and position `count` are occupied, there are
fewer than `count` of them. -/
theorem occupancy_lt_of_inner {cells : Fin n → Option α} {count : Nat} (hcount : 0 < count)
    (hinner : ∀ slot, (cells slot).isSome → 0 < slot.val ∧ slot.val < count) :
    occupancy cells < count := by
  have hmaps : ∀ slot ∈ Finset.univ.filter (fun slot => (cells slot).isSome),
      slot.val ∈ Finset.Ioo 0 count := fun slot hslot =>
    Finset.mem_Ioo.mpr (hinner slot (Finset.mem_filter.mp hslot).2)
  have hle := Finset.card_le_card_of_injOn Fin.val hmaps Fin.val_injective.injOn
  rw [Nat.card_Ioo] at hle
  unfold occupancy
  omega

section Turn

variable {cells : Fin n → Option α} {count : Nat}

/-- The cells that reach the front during the next `count - 1` rotations are
occupied. -/
def Aligned (cells : Fin n → Option α) (count : Nat) : Prop :=
  ∀ slot : Fin n, 0 < slot.val → slot.val < count → (cells slot).isSome

/-- The last pick of an aligned turn takes the one cell the others left. -/
theorem pick_last_ne (haligned : Aligned cells count) (hcount : occupancy cells = count)
    (hdistinct : Distinct cells) {turns : Nat} (hpositive : 0 < turns) (hturns : turns < count) :
    pick cells turns ≠ pick cells count := by
  have hle := occupancy_le cells
  have hbound : turns < n := by omega
  obtain ⟨value, hvalue⟩ := Option.isSome_iff_exists.mp
    (haligned ⟨turns, hbound⟩ hpositive hturns)
  rw [pick_of_occupied hbound hvalue]
  intro hsame
  obtain ⟨slot, hslot, hbefore⟩ := pick_eq_some hsame.symm
  have hposition : advance^[count] slot = ⟨turns, hbound⟩ := hdistinct _ _ value hslot hvalue
  have hmod : (slot.val + count) % n = turns := by
    rw [← advance_iterate_val, hposition]
  have hwrap : slot.val + count = turns + n := by
    have hslotLt := slot.isLt
    by_cases hsmall : slot.val + count < n
    · rw [Nat.mod_eq_of_lt hsmall] at hmod
      omega
    · rw [Nat.mod_eq_sub_mod (by omega), Nat.mod_eq_of_lt (by omega)] at hmod
      omega
  -- Every cell from `count` on, and the front, would have been met before.
  have hinner (other : Fin n) (hother : (cells other).isSome) :
      0 < other.val ∧ other.val < count := by
    by_contra houter
    have hmet (index : Fin n) (hindex : index < slot)
        (hreach : (index.val + count) % n = other.val) : False := by
      have hnone := hbefore index hindex
      have hcell : advance^[count] index = other := by
        apply Fin.ext
        rw [advance_iterate_val, hreach]
      rw [hcell] at hnone
      rw [hnone] at hother
      cases hother
    have hotherLt := other.isLt
    by_cases hfront : other.val = 0
    · refine hmet ⟨n - count, by omega⟩ ?_ ?_
      · rw [Fin.lt_def]
        simp only
        omega
      · simp only
        rw [Nat.sub_add_cancel (by omega), Nat.mod_self, hfront]
    · refine hmet ⟨other.val - count, by omega⟩ ?_ ?_
      · rw [Fin.lt_def]
        simp only
        omega
      · simp only
        rw [Nat.sub_add_cancel (by omega), Nat.mod_eq_of_lt hotherLt]
  have hless := occupancy_lt_of_inner (by omega) hinner
  omega

/-- The picks of one turn are pairwise different exactly if the turn is aligned. -/
theorem picks_ne_iff_aligned (hcount : occupancy cells = count) (hdistinct : Distinct cells) :
    (∀ first second, 0 < first → first < second → second ≤ count →
      pick cells first ≠ pick cells second) ↔ Aligned cells count := by
  have hle := occupancy_le cells
  constructor
  · intro hpicks slot hpositive hslot
    by_contra hempty
    rw [Option.not_isSome_iff_eq_none] at hempty
    have hoccupied : (Finset.univ.filter (fun slot => (cells slot).isSome)).Nonempty := by
      rw [← Finset.card_pos]
      unfold occupancy at hcount
      omega
    obtain ⟨other, hother⟩ := hoccupied
    obtain ⟨held, hheld⟩ := Option.isSome_iff_exists.mp (Finset.mem_filter.mp hother).2
    obtain ⟨source, hsource⟩ := advance_surjective.iterate slot.val other
    have hreached : (cells ∘ advance^[slot.val]) source = some held := by
      rw [Function.comp_apply, hsource, hheld]
    obtain ⟨value, hvalue⟩ : ∃ value, pick cells slot.val = some value :=
      exists_firstHeld hreached
    refine hpicks slot.val (slot.val + 1) hpositive (by omega) (by omega) ?_
    rw [hvalue, pick_succ_of_empty slot.isLt hempty hvalue]
  · intro haligned first second hpositive hless hsecond
    rcases Nat.lt_or_eq_of_le hsecond with hinner | rfl
    · have hfirstLt : first < n := by omega
      have hsecondLt : second < n := by omega
      obtain ⟨left, hleft⟩ := Option.isSome_iff_exists.mp
        (haligned ⟨first, hfirstLt⟩ hpositive (by simp only; omega))
      obtain ⟨right, hright⟩ := Option.isSome_iff_exists.mp
        (haligned ⟨second, hsecondLt⟩ (by simp only; omega) hinner)
      rw [pick_of_occupied hfirstLt hleft, pick_of_occupied hsecondLt hright]
      intro hsame
      rw [hsame] at hleft
      have hslots := hdistinct _ _ right hleft hright
      simp only [Fin.mk.injEq] at hslots
      omega
    · exact pick_last_ne haligned hcount hdistinct hpositive hless

end Turn

/-- As many entries as there are values, all of them values: each value occurs
once exactly if no entry repeats. -/
theorem count_eq_one_iff_nodup [DecidableEq α] [BEq α] [LawfulBEq α]
    {entries : List α} {values : Finset α}
    (hlength : entries.length = values.card) (hentries : ∀ entry ∈ entries, entry ∈ values) :
    (∀ value ∈ values, entries.count value = 1) ↔ entries.Nodup := by
  constructor
  · intro honce
    refine List.nodup_iff_count_le_one.mpr fun entry => ?_
    by_cases hmem : entry ∈ entries
    · exact Nat.le_of_eq (honce entry (hentries entry hmem))
    · rw [List.count_eq_zero_of_not_mem hmem]
      exact Nat.zero_le 1
  · intro hnodup value hvalue
    have hsubset : entries.toFinset ⊆ values := fun entry hentry =>
      hentries entry (List.mem_toFinset.mp hentry)
    have hcard : values.card ≤ entries.toFinset.card := by
      rw [List.toFinset_card_of_nodup hnodup, hlength]
    rw [← Finset.eq_of_subset_of_card_le hsubset hcard, List.mem_toFinset] at hvalue
    exact List.count_eq_one_of_mem hnodup hvalue

end UnboundOS
