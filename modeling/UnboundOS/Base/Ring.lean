import UnboundOS.Base.Checked

/-!
Circular buffers. An index moves with `advance`, which starts over at the end;
the contents of a buffer are the cells met from the head on. The two rules at
the end are what a queue needs: writing behind the window appends, stepping
over the head removes the first element.
-/

namespace UnboundOS

variable {α : Type} {n : Nat}

/-- `index += 1; if index == n { index = 0 }`. -/
def advance (index : Fin n) : Fin n :=
  if hlast : index.val + 1 = n then ⟨0, by omega⟩ else ⟨index.val + 1, by omega⟩

theorem advance_val (index : Fin n) : (advance index).val = (index.val + 1) % n := by
  unfold advance
  split
  · rename_i hlast
    rw [hlast, Nat.mod_self]
  · rw [Nat.mod_eq_of_lt (by omega)]

theorem advance_iterate_val (index : Fin n) (steps : Nat) :
    (advance^[steps] index).val = (index.val + steps) % n := by
  induction steps with
  | zero => exact (Nat.mod_eq_of_lt index.isLt).symm
  | succ steps ih =>
      rw [Function.iterate_succ_apply', advance_val, ih, Nat.mod_add_mod, Nat.add_assoc]

/-- Less than one full turn away from a cell is another cell. -/
theorem advance_iterate_ne {index : Fin n} {near far : Nat} (hnear : near < far)
    (hfar : far < near + n) : advance^[near] index ≠ advance^[far] index := by
  intro hsame
  have hmod : (index.val + near) % n = (index.val + far) % n := by
    rw [← advance_iterate_val, ← advance_iterate_val, hsame]
  have hdvd : n ∣ (index.val + far) - (index.val + near) :=
    (Nat.modEq_iff_dvd' (by omega)).mp hmod
  have hle := Nat.le_of_dvd (by omega) hdvd
  omega

theorem advance_injective : Function.Injective (advance : Fin n → Fin n) := by
  intro first second hsame
  have hval := congrArg Fin.val hsame
  have hfirst := first.isLt
  have hsecond := second.isLt
  apply Fin.ext
  unfold advance at hval
  split at hval <;> split at hval <;> simp only at hval <;> omega

theorem advance_surjective : Function.Surjective (advance : Fin n → Fin n) :=
  Finite.injective_iff_surjective.mp advance_injective

/-- `for index in 0..steps { cells[index] = cells[index + 1]; }`. -/
def shiftDown (cells : Fin n → α) : Nat → Fin n → α
  | 0 => cells
  | steps + 1 =>
      let shifted := shiftDown cells steps
      if hnext : steps + 1 < n then
        Function.update shifted ⟨steps, by omega⟩ (shifted ⟨steps + 1, hnext⟩)
      else shifted

theorem shiftDown_apply (cells : Fin n → α) {steps : Nat} (hsteps : steps < n) (index : Fin n) :
    shiftDown cells steps index =
      if index.val < steps then cells (advance index) else cells index := by
  induction steps generalizing index with
  | zero => rfl
  | succ steps ih =>
      rw [shiftDown, dif_pos hsteps]
      by_cases hindex : index = ⟨steps, by omega⟩
      · have hadvance : advance index = ⟨steps + 1, hsteps⟩ := by
          rw [hindex, advance, dif_neg (by simp only; omega)]
        rw [hindex, Function.update_self, ih (by omega), if_neg (by simp), if_pos (by simp),
          ← hindex, hadvance]
      · have hne : index.val ≠ steps := fun hval => hindex (Fin.ext hval)
        rw [Function.update_of_ne hindex, ih (by omega)]
        by_cases hless : index.val < steps
        · rw [if_pos hless, if_pos (by omega)]
        · rw [if_neg hless, if_neg (by omega)]

/-- Shifting an array down and putting its first cell last is a rotation. -/
theorem rotate_eq_comp_advance (cells : Fin n → α) (hn : 0 < n) :
    Function.update (shiftDown cells (n - 1)) ⟨n - 1, by omega⟩ (cells ⟨0, hn⟩) =
      cells ∘ advance := by
  funext index
  by_cases hlast : index = ⟨n - 1, by omega⟩
  · have hadvance : advance index = ⟨0, hn⟩ := by
      rw [hlast, advance, dif_pos (by simp only; omega)]
    rw [hlast, Function.update_self, ← hlast, Function.comp_apply, hadvance]
  · have hless : index.val < n - 1 := by
      have hlt := index.isLt
      have hne : index.val ≠ n - 1 := fun hval => hlast (Fin.ext hval)
      omega
    rw [Function.update_of_ne hlast, shiftDown_apply cells (by omega), if_pos hless,
      Function.comp_apply]

/-- The first `count` cells from `head` on. -/
def window (cells : Fin n → α) (head : Fin n) : Nat → List α
  | 0 => []
  | count + 1 => cells head :: window cells (advance head) count

@[simp] theorem window_zero (cells : Fin n → α) (head : Fin n) : window cells head 0 = [] := rfl

@[simp] theorem length_window (cells : Fin n → α) (head : Fin n) (count : Nat) :
    (window cells head count).length = count := by
  induction count generalizing head with
  | zero => rfl
  | succ count ih => rw [window, List.length_cons, ih]

theorem window_snoc (cells : Fin n → α) (head : Fin n) (count : Nat) :
    window cells head (count + 1) = window cells head count ++ [cells (advance^[count] head)] := by
  induction count generalizing head with
  | zero => rfl
  | succ count ih =>
      rw [window, ih, window, List.cons_append, Function.iterate_succ_apply]

/-- A write outside the window does not change it. -/
theorem window_update {cells : Fin n → α} {head index : Fin n} {count : Nat} (value : α)
    (houtside : ∀ steps < count, advance^[steps] head ≠ index) :
    window (Function.update cells index value) head count = window cells head count := by
  induction count generalizing head with
  | zero => rfl
  | succ count ih =>
      have hhead : head ≠ index := houtside 0 (by omega)
      have hrest : ∀ steps < count, advance^[steps] (advance head) ≠ index := by
        intro steps hsteps
        exact houtside (steps + 1) (by omega)
      rw [window, window, Function.update_of_ne hhead, ih hrest]

/-- Writing the cell behind the window and counting it in appends. -/
theorem window_push {cells : Fin n → α} {head : Fin n} {count : Nat} (value : α)
    (hroom : count < n) :
    window (Function.update cells (advance^[count] head) value) head (count + 1) =
      window cells head count ++ [value] := by
  have houtside : ∀ steps < count, advance^[steps] head ≠ advance^[count] head :=
    fun steps hsteps => advance_iterate_ne hsteps (by omega)
  rw [window_snoc, window_update value houtside, Function.update_self]

/-- Overwriting the head cell and stepping over it leaves the rest. -/
theorem window_pop {cells : Fin n → α} {head : Fin n} {count : Nat} (blank : α)
    (hcount : count < n) :
    window (Function.update cells head blank) (advance head) count =
      (window cells head (count + 1)).tail := by
  have houtside : ∀ steps < count, advance^[steps] (advance head) ≠ head := by
    intro steps hsteps
    rw [← Function.iterate_succ_apply]
    exact (advance_iterate_ne (by omega : 0 < steps + 1) (by omega)).symm
  rw [window_update blank houtside, window, List.tail_cons]

end UnboundOS
