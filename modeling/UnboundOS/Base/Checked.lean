import Mathlib.Tactic
import Mathlib.Order.CompletePartialOrder

/-!
Machine words and the arithmetic of a build with overflow checks. A checked
computation either returns a value or stops in a panic, so the absence of
overflow is a statement about a result, not a side condition of the model.
Strided `while` loops over addresses are packaged once, with the induction
rule their users need.
-/

namespace UnboundOS

abbrev U8 := BitVec 8
abbrev U16 := BitVec 16
abbrev U32 := BitVec 32
abbrev U64 := BitVec 64

/-- `none` is a panic of the checked build. -/
abbrev Checked (α : Type) := Option α

/-- Checked addition of two 64-bit words. -/
def checkedAdd (a b : U64) : Checked U64 :=
  if a.toNat + b.toNat < 2 ^ 64 then some (a + b) else none

/-- Checked subtraction of two machine-size counters. -/
def checkedSub (a b : Nat) : Checked Nat :=
  if b ≤ a then some (a - b) else none

theorem checkedAdd_eq_some {a b : U64} (h : a.toNat + b.toNat < 2 ^ 64) :
    checkedAdd a b = some (a + b) :=
  if_pos h

theorem checkedAdd_eq_none {a b : U64} :
    checkedAdd a b = none ↔ 2 ^ 64 ≤ a.toNat + b.toNat := by
  unfold checkedAdd
  split <;> simp <;> omega

theorem checkedAdd_toNat {a b c : U64} (h : checkedAdd a b = some c) :
    c.toNat = a.toNat + b.toNat := by
  unfold checkedAdd at h
  split at h
  · cases h
    rw [BitVec.toNat_add]
    omega
  · cases h

theorem checkedSub_eq_some {a b : Nat} (h : b ≤ a) :
    checkedSub a b = some (a - b) :=
  if_pos h

/-- The entries of a partial map after a deletion. -/
theorem of_update_none {κ α : Type} [DecidableEq κ] {map : κ → Option α} {key other : κ}
    {value : α} (hother : Function.update map key none other = some value) :
    other ≠ key ∧ map other = some value := by
  by_cases hsame : other = key
  · rw [hsame, Function.update_self] at hother
    cases hother
  · rw [Function.update_of_ne hsame] at hother
    exact ⟨hsame, hother⟩

/-- The entries of a partial map after an insertion. -/
theorem of_update_some {κ α : Type} [DecidableEq κ] {map : κ → Option α} {key other : κ}
    {inserted value : α} (hother : Function.update map key (some inserted) other = some value) :
    other = key ∧ value = inserted ∨ other ≠ key ∧ map other = some value := by
  by_cases hsame : other = key
  · rw [hsame, Function.update_self] at hother
    exact .inl ⟨hsame, (Option.some.inj hother).symm⟩
  · rw [Function.update_of_ne hsame] at hother
    exact .inr ⟨hsame, hother⟩

/-- A mask that clears the low bits rounds down. -/
theorem and_high_toNat (value mask : U64) (low : Nat)
    (hmask : ∀ bit < 64, mask.getLsbD bit = decide (low ≤ bit)) :
    (value &&& mask).toNat = value.toNat / 2 ^ low * 2 ^ low := by
  have hshift : value &&& mask = (value >>> low) <<< low := by
    refine BitVec.eq_of_getLsbD_eq fun bit hbit => ?_
    rw [BitVec.getLsbD_and, hmask bit hbit, BitVec.getLsbD_shiftLeft, BitVec.getLsbD_ushiftRight]
    by_cases hlow : bit < low
    · simp [hlow, not_le.mpr hlow]
    · simp [hlow, hbit, not_lt.mp hlow, Nat.add_sub_cancel' (not_lt.mp hlow)]
  have hle : value.toNat / 2 ^ low * 2 ^ low ≤ value.toNat := Nat.div_mul_le_self _ _
  rw [hshift, BitVec.toNat_shiftLeft, BitVec.toNat_ushiftRight, Nat.shiftRight_eq_div_pow,
    Nat.shiftLeft_eq, Nat.mod_eq_of_lt (lt_of_le_of_lt hle value.isLt)]

/-- `while address < limit { body; address += stride }`. The body may panic,
and so may the increment. -/
def strideLoop {σ : Type} (stride : U64) (hstride : 0 < stride.toNat) (limit : U64)
    (body : U64 → σ → Checked σ) (address : U64) (state : σ) : Checked σ :=
  if _hless : address < limit then
    match body address state with
    | none => none
    | some next =>
      match _hadd : checkedAdd address stride with
      | none => none
      | some successor => strideLoop stride hstride limit body successor next
  else some state
termination_by limit.toNat - address.toNat
decreasing_by
  have hsum := checkedAdd_toNat _hadd
  have hlt : address.toNat < limit.toNat := _hless
  omega

/-- Whatever every returning iteration keeps, a returning loop keeps. -/
theorem strideLoop_preserves {σ : Type} {stride : U64} {hstride : 0 < stride.toNat}
    {limit : U64} {body : U64 → σ → Checked σ} {property : σ → Prop}
    (hbody : ∀ address state next, property state → body address state = some next →
      property next)
    {address : U64} {state result : σ} (hstate : property state)
    (hrun : strideLoop stride hstride limit body address state = some result) :
    property result := by
  fun_induction strideLoop stride hstride limit body address state with
  | case1 => cases hrun
  | case2 => cases hrun
  | case3 address state _ next hnext successor _ ih =>
      exact ih (hbody address state next hstate hnext) hrun
  | case4 =>
      cases hrun
      exact hstate

/-- Induction rule for a loop whose bounds are multiples of the stride. The
invariant is indexed by the multiple the next iteration visits, and the
conclusion includes that neither the body nor the increment panics. -/
theorem strideLoop_rule {σ : Type} {stride : U64} (hstride : 0 < stride.toNat)
    {limit : U64} {body : U64 → σ → Checked σ} (invariant : Nat → σ → Prop)
    {low finish : Nat} (hlimit : limit.toNat = stride.toNat * finish)
    (hbody : ∀ k, low ≤ k → k < finish → ∀ state, invariant k state →
      ∃ next, body (BitVec.ofNat 64 (stride.toNat * k)) state = some next ∧
        invariant (k + 1) next)
    {start : Nat} {address : U64} {state : σ} (hlow : low ≤ start)
    (hstart : address.toNat = stride.toNat * start) (hinit : invariant start state) :
    ∃ result, strideLoop stride hstride limit body address state = some result ∧
      invariant (max start finish) result := by
  induction hgap : finish - start generalizing start address state with
  | zero =>
      have hmul : stride.toNat * finish ≤ stride.toNat * start :=
        Nat.mul_le_mul_left _ (by omega)
      have hstop : ¬ address < limit := by
        intro hless
        have hless' : address.toNat < limit.toNat := hless
        omega
      refine ⟨state, ?_, ?_⟩
      · rw [strideLoop, dif_neg hstop]
      · rwa [max_eq_left (by omega)]
  | succ gap ih =>
      have hlt : start < finish := by omega
      have hmul : stride.toNat * (start + 1) ≤ stride.toNat * finish :=
        Nat.mul_le_mul_left _ hlt
      have hsucc : stride.toNat * (start + 1) = address.toNat + stride.toNat := by
        rw [Nat.mul_succ, hstart]
      have hbound := limit.isLt
      have hless : address < limit := by
        change address.toNat < limit.toNat
        omega
      have haddress : address = BitVec.ofNat 64 (stride.toNat * start) := by
        rw [← hstart, BitVec.ofNat_toNat, BitVec.setWidth_eq]
      obtain ⟨next, hnext, hinvariant⟩ := hbody start hlow hlt state hinit
      rw [← haddress] at hnext
      have hadd := checkedAdd_eq_some (a := address) (b := stride) (by omega)
      have hnextStart : (address + stride).toNat = stride.toNat * (start + 1) := by
        rw [checkedAdd_toNat hadd, hsucc]
      obtain ⟨result, hresult, hfinal⟩ :=
        ih (Nat.le_succ_of_le hlow) hnextStart hinvariant (by omega)
      refine ⟨result, ?_, ?_⟩
      · rw [strideLoop, dif_pos hless, hnext]
        simp only
        split
        · next hnone => rw [hadd] at hnone; cases hnone
        · next successor hsome =>
            rw [hadd] at hsome
            cases hsome
            exact hresult
      · rwa [max_eq_right (by omega : start ≤ finish),
          ← max_eq_right (by omega : start + 1 ≤ finish)]

end UnboundOS
