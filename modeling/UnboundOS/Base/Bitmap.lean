import UnboundOS.Base.Checked

/-!
Byte-packed bitmaps. Bit `k` lives in byte `k / 8` under the mask `1 << k % 8`.
The three accessors are the usual shift-and-mask forms; the lemmas below say
that they behave like a total function on bit numbers, which is all a user of
the bitmap needs to know.
-/

namespace UnboundOS

/-- `8 * n` bits, eight to a byte. -/
abbrev Bitmap (n : Nat) := Vector U8 n

namespace Bitmap

variable {n : Nat}

def mask (k : Nat) : U8 := 1#8 <<< (k % 8)

def test (bytes : Bitmap n) (k : Nat) (hk : k / 8 < n) : Bool :=
  bytes[k / 8] &&& mask k != 0#8

def set (bytes : Bitmap n) (k : Nat) (hk : k / 8 < n) : Bitmap n :=
  Vector.set bytes (k / 8) (bytes[k / 8] ||| mask k)

def clear (bytes : Bitmap n) (k : Nat) (hk : k / 8 < n) : Bitmap n :=
  Vector.set bytes (k / 8) (bytes[k / 8] &&& ~~~ mask k)

private theorem and_mask (byte : U8) (k : Nat) :
    (byte &&& mask k != 0#8) = byte.getLsbD (k % 8) := by
  have hk : k % 8 < 8 := Nat.mod_lt _ (by decide)
  unfold mask
  rw [← BitVec.twoPow_eq, BitVec.and_twoPow]
  cases hbit : byte.getLsbD (k % 8) with
  | false => simp
  | true =>
      simp only [if_true, bne_iff_ne, ne_eq]
      intro hzero
      have hat := congrArg (fun word => BitVec.getLsbD word (k % 8)) hzero
      simp [hk] at hat

private theorem getLsbD_mask (k j : Nat) :
    (mask k).getLsbD j = decide (k % 8 = j) := by
  have hk : k % 8 < 8 := Nat.mod_lt _ (by decide)
  unfold mask
  rw [← BitVec.twoPow_eq, BitVec.getLsbD_twoPow]
  simp [hk]

theorem test_eq_getLsbD (bytes : Bitmap n) (k : Nat) (hk : k / 8 < n) :
    bytes.test k hk = (bytes[k / 8]).getLsbD (k % 8) :=
  and_mask _ _

/-- Two bit numbers name the same bit exactly when they agree on the byte and
on the position inside it. -/
private theorem bit_eq_iff (j k : Nat) : j = k ↔ j / 8 = k / 8 ∧ j % 8 = k % 8 := by
  omega

theorem test_set (bytes : Bitmap n) (j k : Nat) (hj : j / 8 < n) (hk : k / 8 < n) :
    (bytes.set j hj).test k hk = (decide (j = k) || bytes.test k hk) := by
  have hlt : k % 8 < 8 := Nat.mod_lt _ (by decide)
  rw [test_eq_getLsbD, test_eq_getLsbD, set]
  by_cases hbyte : j / 8 = k / 8
  · have hpos : (j = k) ↔ j % 8 = k % 8 := by rw [bit_eq_iff]; simp [hbyte]
    simp only [hbyte, Vector.getElem_set_self, BitVec.getLsbD_or, getLsbD_mask, hpos]
    exact Bool.or_comm _ _
  · have hne : j ≠ k := fun heq => hbyte (by rw [heq])
    rw [Vector.getElem_set_ne _ _ hbyte]
    simp [hne]

theorem test_clear (bytes : Bitmap n) (j k : Nat) (hj : j / 8 < n) (hk : k / 8 < n) :
    (bytes.clear j hj).test k hk = (!decide (j = k) && bytes.test k hk) := by
  have hlt : k % 8 < 8 := Nat.mod_lt _ (by decide)
  rw [test_eq_getLsbD, test_eq_getLsbD, clear]
  by_cases hbyte : j / 8 = k / 8
  · have hpos : (j = k) ↔ j % 8 = k % 8 := by rw [bit_eq_iff]; simp [hbyte]
    simp only [hbyte, Vector.getElem_set_self, BitVec.getLsbD_and, BitVec.getLsbD_not,
      getLsbD_mask, hpos, hlt, decide_true, Bool.true_and]
    exact Bool.and_comm _ _
  · have hne : j ≠ k := fun heq => hbyte (by rw [heq])
    rw [Vector.getElem_set_ne _ _ hbyte]
    simp [hne]

@[simp] theorem test_replicate_ones (k : Nat) (hk : k / 8 < n) :
    test (Vector.replicate n 0xFF#8) k hk = true := by
  have hlt : k % 8 < 8 := Nat.mod_lt _ (by decide)
  rw [test_eq_getLsbD, Vector.getElem_replicate]
  have hones : (0xFF#8 : U8) = BitVec.allOnes 8 := by decide
  rw [hones, BitVec.getLsbD_allOnes]
  simp [hlt]

@[simp] theorem test_replicate_zeros (k : Nat) (hk : k / 8 < n) :
    test (Vector.replicate n 0x00#8) k hk = false := by
  rw [test_eq_getLsbD, Vector.getElem_replicate]
  simp

/-- A bitmap is determined by its bits. -/
theorem ext_test {left right : Bitmap n}
    (h : ∀ k (hk : k / 8 < n), left.test k hk = right.test k hk) : left = right := by
  apply Vector.ext
  intro byte hbyte
  apply BitVec.eq_of_getLsbD_eq
  intro bit hbit
  have hdiv : (8 * byte + bit) / 8 = byte := by omega
  have hmod : (8 * byte + bit) % 8 = bit := by omega
  have hat := h (8 * byte + bit) (by omega)
  rw [test_eq_getLsbD, test_eq_getLsbD] at hat
  simpa only [hdiv, hmod] using hat

end Bitmap

end UnboundOS
