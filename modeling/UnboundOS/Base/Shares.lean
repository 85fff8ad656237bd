import UnboundOS.Base.Rotation

/-!
How often each value of a rotating array with holes is picked. Over one full
rotation a value is picked once for its own cell and once for every empty cell
that leads up to it, so the holes of an array go to the value behind them. A
pick that lasts for several ticks shares out ticks in the same proportion, from
whichever tick on the rotation is watched.
-/

namespace UnboundOS

variable {α : Type} {n : Nat}

/-- The cell `back + 1` places before a cell, going round. -/
def behind (slot back : Fin n) : Fin n :=
  if hback : back.val < slot.val then ⟨slot - 1 - back, by omega⟩
  else ⟨slot + n - 1 - back, by omega⟩

/-- The distance to the occupied cell before this one, going round. -/
def gap (cells : Fin n → Option α) (slot : Fin n) : Nat :=
  match firstFit (fun back => (cells (behind slot back)).isSome) with
  | some back => back + 1
  | none => 0

theorem add_mod_of_lt {left right : Nat} (hleft : left < n) (hright : right < n) :
    (left + right) % n = if left + right < n then left + right else left + right - n := by
  split
  · next hsmall => exact Nat.mod_eq_of_lt hsmall
  · next hlarge => rw [Nat.mod_eq_sub_mod (by omega), Nat.mod_eq_of_lt (by omega)]

section Gap

variable {cells : Fin n → Option α} {slot : Fin n} {value : α}

/-- What the gap says: up to it the cells are empty, and then one is not. -/
theorem gap_spec (hslot : cells slot = some value) :
    0 < gap cells slot ∧ gap cells slot ≤ n ∧
      ∀ back : Fin n, (back.val + 1 < gap cells slot → cells (behind slot back) = none) ∧
        (back.val + 1 = gap cells slot → (cells (behind slot back)).isSome = true) := by
  have hlt := slot.isLt
  -- The last cell of the way round is the one it started from.
  have hself : behind slot ⟨n - 1, by omega⟩ = slot := by
    apply Fin.ext
    unfold behind
    split
    · next hback => simp only at hback; omega
    · simp only; omega
  have hsat : (cells (behind slot ⟨n - 1, by omega⟩)).isSome = true := by
    rw [hself, hslot]
    rfl
  obtain ⟨found, hfound⟩ :=
    firstFit_of_sat (p := fun back => (cells (behind slot back)).isSome) hsat
  have hgap : gap cells slot = found + 1 := by rw [gap, hfound]
  obtain ⟨hoccupied, hbefore⟩ := firstFit_eq_some.mp hfound
  rw [hgap]
  refine ⟨by omega, by omega, fun back => ⟨fun hless => ?_, fun hsame => ?_⟩⟩
  · have hnone := hbefore back (Fin.lt_def.mpr (by omega))
    exact Option.isNone_iff_eq_none.mp (Option.isSome_eq_false_iff.mp hnone)
  · obtain rfl : back = found := Fin.ext (by omega)
    exact hoccupied

/-- The rotations from a number of turns until a cell is at the front. -/
def turnsLeft (slot : Fin n) (turns : Nat) : Nat :=
  if turns ≤ slot.val then slot - turns else slot + n - turns

/-- A value is picked exactly from its gap on until its cell is at the front. -/
theorem pick_eq_iff (hdistinct : Distinct cells) (hslot : cells slot = some value) {turns : Nat}
    (hturns : turns < n) :
    pick cells turns = some value ↔ turnsLeft slot turns < gap cells slot := by
  obtain ⟨_, hgap, hcells⟩ := gap_spec hslot
  have hlt := slot.isLt
  have hleft : turnsLeft slot turns < n ∧ (turnsLeft slot turns + turns = slot ∨
      turnsLeft slot turns + turns = slot + n) := by
    unfold turnsLeft
    split <;> omega
  have hposition (index : Fin n) : (advance^[turns] index).val =
      if index + turns < n then index + turns else index + turns - n := by
    rw [advance_iterate_val, add_mod_of_lt index.isLt hturns]
  constructor
  · intro hpick
    obtain ⟨index, hindex, hempty⟩ := pick_eq_some hpick
    have hreached := congrArg Fin.val (hdistinct _ _ value hindex hslot)
    rw [hposition] at hreached
    have hindexLeft : index.val = turnsLeft slot turns := by
      split at hreached <;> omega
    by_contra hfar
    -- The occupied cell at the end of the gap would have come first.
    have hback := (hcells ⟨gap cells slot - 1, by omega⟩).2 (by simp only; omega)
    have hearlier := hempty ⟨index - gap cells slot, by omega⟩
      (Fin.lt_def.mpr (by simp only; omega))
    have hsame : advance^[turns] ⟨index - gap cells slot, by omega⟩ =
        behind slot ⟨gap cells slot - 1, by omega⟩ := by
      apply Fin.ext
      rw [hposition, behind]
      simp only
      split <;> split <;> simp only <;> omega
    rw [← hsame, hearlier] at hback
    cases hback
  · intro hnear
    apply firstHeld_eq_some.mpr
    refine ⟨⟨turnsLeft slot turns, hleft.1⟩, ?_, fun earlier hearlier => ?_⟩
    · have hreached : advance^[turns] ⟨turnsLeft slot turns, hleft.1⟩ = slot := by
        apply Fin.ext
        rw [hposition]
        simp only
        split <;> omega
      rw [Function.comp_apply, hreached, hslot]
    · have hbefore : earlier.val < turnsLeft slot turns := hearlier
      have hnone := (hcells ⟨turnsLeft slot turns - earlier - 1, by omega⟩).1 (by simp only; omega)
      have hsame : advance^[turns] earlier =
          behind slot ⟨turnsLeft slot turns - earlier - 1, by omega⟩ := by
        apply Fin.ext
        rw [hposition, behind]
        simp only
        split <;> split <;> simp only <;> omega
      rw [Function.comp_apply, hsame, hnone]

theorem turnsLeft_involutive {turns : Nat} (hturns : turns < n) :
    turnsLeft slot turns < n ∧ turnsLeft slot (turnsLeft slot turns) = turns := by
  have hlt := slot.isLt
  unfold turnsLeft
  split <;> split <;> omega

/-- One full rotation picks a value as often as its gap. -/
theorem count_pick [DecidableEq α] (hdistinct : Distinct cells) (hslot : cells slot = some value) :
    Nat.count (fun turns => pick cells turns = some value) n = gap cells slot := by
  obtain ⟨_, hgap, _⟩ := gap_spec hslot
  rw [Nat.count_eq_card_filter_range]
  calc ((Finset.range n).filter fun turns => pick cells turns = some value).card
      = ((Finset.range n).filter fun turns => turnsLeft slot turns < gap cells slot).card := by
        congr 1
        apply Finset.filter_congr
        intro turns hturns
        exact pick_eq_iff hdistinct hslot (Finset.mem_range.mp hturns)
    _ = (Finset.range (gap cells slot)).card := by
        apply Finset.card_nbij' (turnsLeft slot) (turnsLeft slot)
        · intro turns hturns
          exact Finset.mem_coe.mpr (Finset.mem_range.mpr (Finset.mem_filter.mp hturns).2)
        · intro left hleft
          have hless := Finset.mem_range.mp (Finset.mem_coe.mp hleft)
          obtain ⟨hbound, hback⟩ := turnsLeft_involutive (show left < n by omega)
          apply Finset.mem_coe.mpr
          rw [Finset.mem_filter, Finset.mem_range, hback]
          exact ⟨hbound, hless⟩
        · intro turns hturns
          exact (turnsLeft_involutive (Finset.mem_range.mp (Finset.mem_filter.mp hturns).1)).2
        · intro left hleft
          have hless := Finset.mem_range.mp (Finset.mem_coe.mp hleft)
          exact (turnsLeft_involutive (show left < n by omega)).2
    _ = gap cells slot := Finset.card_range _

end Gap

/-! ### Picks that last -/

theorem advance_add_period (turns : Nat) :
    (advance^[turns + n] : Fin n → Fin n) = advance^[turns] := by
  funext index
  apply Fin.ext
  rw [advance_iterate_val, advance_iterate_val, ← Nat.add_assoc, Nat.add_mod_right]

theorem pick_add_period (cells : Fin n → Option α) (turns : Nat) :
    pick cells (turns + n) = pick cells turns := by
  rw [pick, advance_add_period, pick]

section Count

variable {p : Nat → Prop} [DecidablePred p]

/-- Every turn counted once per tick. -/
theorem count_ticks_eq {length : Nat} (hlength : 0 < length) (turns : Nat) :
    Nat.count (fun tick => p (tick / length)) (length * turns) = length * Nat.count p turns := by
  induction turns with
  | zero => rw [Nat.mul_zero, Nat.count_zero, Nat.count_zero, Nat.mul_zero]
  | succ turns ih =>
      have hturn : Nat.count (fun tick => p ((length * turns + tick) / length)) length =
          length * if p turns then 1 else 0 := by
        have hsame : ∀ tick < length, (length * turns + tick) / length = turns := by
          intro tick htick
          rw [Nat.mul_add_div hlength, Nat.div_eq_of_lt htick, Nat.add_zero]
        split
        · next hpicked =>
            rw [Nat.mul_one, Nat.count_iff_forall]
            intro tick htick
            rwa [hsame tick htick]
        · next hother =>
            rw [Nat.mul_zero, Nat.count_iff_forall_not]
            intro tick htick
            rwa [hsame tick htick]
      rw [Nat.mul_succ, Nat.count_add, ih, hturn, Nat.count_succ, Nat.mul_add]

/-- The first tick of a window, then the rest. -/
theorem count_window_succ (start length : Nat) :
    Nat.count (fun tick => p (start + tick)) (length + 1) =
      (if p start then 1 else 0) + Nat.count (fun tick => p (start + 1 + tick)) length := by
  have hshift : (fun tick => p (start + (tick + 1))) = fun tick => p (start + 1 + tick) := by
    funext tick
    rw [Nat.add_comm tick, Nat.add_assoc]
  rw [Nat.count_succ', Nat.add_comm]
  simp only [hshift, Nat.add_zero]

/-- A window of one period sees the same, wherever it starts. -/
theorem count_window {period : Nat} (hperiod : ∀ tick, p (tick + period) ↔ p tick) (start : Nat) :
    Nat.count (fun tick => p (start + tick)) period = Nat.count p period := by
  have hfirst := Nat.count_add p start period
  have hsecond := Nat.count_add p period start
  have hshift : Nat.count (fun tick => p (period + tick)) start = Nat.count p start := by
    congr 1
    funext tick
    rw [Nat.add_comm]
    exact propext (hperiod tick)
  rw [Nat.add_comm period start, hshift] at hsecond
  omega

end Count

/-- With picks of some length, every window of one full rotation gives each
value its gap times that length. -/
theorem count_pick_ticks [DecidableEq α] {cells : Fin n → Option α} {slot : Fin n} {value : α}
    (hdistinct : Distinct cells) (hslot : cells slot = some value) {length : Nat}
    (hlength : 0 < length) (start : Nat) :
    Nat.count (fun tick => pick cells ((start + tick) / length) = some value) (length * n) =
      length * gap cells slot := by
  have hperiod (tick : Nat) : pick cells ((tick + length * n) / length) = some value ↔
      pick cells (tick / length) = some value := by
    rw [Nat.add_mul_div_left _ _ hlength, pick_add_period]
  rw [count_window (p := fun tick => pick cells (tick / length) = some value) hperiod,
    count_ticks_eq (p := fun turns => pick cells turns = some value) hlength,
    count_pick hdistinct hslot]

end UnboundOS
