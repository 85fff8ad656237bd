import UnboundOS.Memory.PageTable
import UnboundOS.X86.Memory

/-!
The four-level page walk of the processor, on the bytes of physical memory, and
how `translate` compares with it. The walk is written with the bit fields of
the architecture. The two agree except in two places. For a 1 GiB page
`translate` keeps bits 51:38 of the entry where the processor keeps 51:30. And
the processor walks through a table at physical address 0 like through any
other, where `translate` stops at the null reference.
-/

namespace UnboundOS.Memory

open PageTable
open X86 (canonical canonical_iff)

namespace HardwareWalk

/-- Nine index bits, the lowest of them at `low`. -/
def walkIndex (address : U64) (low : Nat) : Fin 512 :=
  ⟨(address.extractLsb' low 9).toNat, (address.extractLsb' low 9).isLt⟩

/-- The eight bytes of one entry of a table in memory. -/
def entryAt (memory : X86.Memory) (table : U64) (index : Fin 512) : U64 :=
  memory.read64 (table + BitVec.ofNat 64 (8 * index.val))

/-- Bits 51:12 of an entry. -/
def tableBase (entry : U64) : U64 :=
  (entry.extractLsb' 12 40 ++ 0#12).setWidth 64

/-- Bits 51:`low` of an entry, followed by the low bits of the address. -/
def pageAddress (entry address : U64) (low : Nat) : U64 :=
  (entry.extractLsb' low (52 - low) ++ address.extractLsb' 0 low).setWidth 64

/-- The physical address of a linear address, if every entry on the way is
present. -/
def walk (memory : X86.Memory) (cr3 address : U64) : Option U64 :=
  if !canonical address then none
  else
    let pml4e := entryAt memory cr3 (walkIndex address 39)
    if !pml4e.getLsbD 0 then none
    else
      let pdpte := entryAt memory (tableBase pml4e) (walkIndex address 30)
      if !pdpte.getLsbD 0 then none
      else if pdpte.getLsbD 7 then some (pageAddress pdpte address 30)
      else
        let pde := entryAt memory (tableBase pdpte) (walkIndex address 21)
        if !pde.getLsbD 0 then none
        else if pde.getLsbD 7 then some (pageAddress pde address 21)
        else
          let pte := entryAt memory (tableBase pde) (walkIndex address 12)
          if !pte.getLsbD 0 then none
          else some (pageAddress pte address 12)

/-- The walk ends at a 1 GiB page with one of bits 37:30 set in its entry. -/
def TruncatedGigabyte (memory : X86.Memory) (cr3 address : U64) : Prop :=
  let pml4e := entryAt memory cr3 (walkIndex address 39)
  let pdpte := entryAt memory (tableBase pml4e) (walkIndex address 30)
  canonical address = true ∧ pml4e.getLsbD 0 = true ∧ pdpte.getLsbD 0 = true ∧
    pdpte.getLsbD 7 = true ∧ pdpte.extractLsb' 30 8 ≠ 0#8

/-- One of the tables the walk reads below the PML4 lies at address 0. -/
def NullTable (memory : X86.Memory) (cr3 address : U64) : Prop :=
  let pml4e := entryAt memory cr3 (walkIndex address 39)
  let pdpte := entryAt memory (tableBase pml4e) (walkIndex address 30)
  let pde := entryAt memory (tableBase pdpte) (walkIndex address 21)
  canonical address = true ∧ pml4e.getLsbD 0 = true ∧
    (tableBase pml4e = 0#64 ∨ pdpte.getLsbD 0 = true ∧ pdpte.getLsbD 7 = false ∧
      (tableBase pdpte = 0#64 ∨ pde.getLsbD 0 = true ∧ pde.getLsbD 7 = false ∧
        tableBase pde = 0#64))

/-- A mask of bits 51:`low` keeps that field. -/
theorem toNat_and_field (entry mask : U64) {low : Nat} (hlow : low ≤ 52)
    (hmask : ∀ bit < 64, mask.getLsbD bit = decide (low ≤ bit ∧ bit < 52)) :
    (entry &&& mask).toNat = entry.toNat / 2 ^ low % 2 ^ (52 - low) * 2 ^ low := by
  refine Nat.eq_of_testBit_eq fun bit => ?_
  rw [BitVec.toNat_and, Nat.testBit_and, Nat.testBit_mul_two_pow, Nat.testBit_mod_two_pow,
    Nat.testBit_div_two_pow]
  by_cases hbit : bit < 64
  · have hbits : mask.toNat.testBit bit = decide (low ≤ bit ∧ bit < 52) := hmask bit hbit
    rw [hbits]
    by_cases hfield : low ≤ bit
    · have hiff : (bit - low < 52 - low) ↔ bit < 52 := by omega
      simp [hfield, hiff, Bool.and_comm]
    · simp [hfield]
  · have hhigh : entry.toNat.testBit bit = false :=
      Nat.testBit_lt_two_pow
        (lt_of_lt_of_le entry.isLt (Nat.pow_le_pow_right (by omega) (by omega)))
    have hout : ¬ bit - low < 52 - low := by omega
    simp [hhigh, hout]

/-- A mask of the low bits keeps the offset in the page. -/
theorem toNat_and_offset (address mask : U64) {low : Nat} (hmask : mask.toNat = 2 ^ low - 1) :
    (address &&& mask).toNat = address.toNat % 2 ^ low := by
  rw [BitVec.toNat_and, hmask, Nat.and_two_pow_sub_one_eq_mod]

theorem toNat_pageAddress (entry address : U64) {low : Nat} (hlow : low ≤ 52) :
    (pageAddress entry address low).toNat =
      entry.toNat / 2 ^ low % 2 ^ (52 - low) * 2 ^ low + address.toNat % 2 ^ low := by
  have hoffset : address.toNat % 2 ^ low < 2 ^ low := Nat.mod_lt _ (Nat.two_pow_pos low)
  have hfield : entry.toNat / 2 ^ low % 2 ^ (52 - low) < 2 ^ (52 - low) :=
    Nat.mod_lt _ (Nat.two_pow_pos _)
  have hsum : entry.toNat / 2 ^ low % 2 ^ (52 - low) * 2 ^ low + address.toNat % 2 ^ low <
      2 ^ 52 := by
    have hpow : 2 ^ (52 - low) * 2 ^ low = 2 ^ 52 := by
      rw [← Nat.pow_add, Nat.sub_add_cancel hlow]
    have hle : (entry.toNat / 2 ^ low % 2 ^ (52 - low) + 1) * 2 ^ low ≤
        2 ^ (52 - low) * 2 ^ low := Nat.mul_le_mul_right _ hfield
    rw [hpow, Nat.add_mul, Nat.one_mul] at hle
    omega
  rw [pageAddress, BitVec.toNat_setWidth, BitVec.toNat_append, BitVec.extractLsb'_toNat,
    BitVec.extractLsb'_toNat, Nat.shiftRight_eq_div_pow, Nat.shiftRight_zero,
    ← Nat.shiftLeft_add_eq_or_of_lt hoffset, Nat.shiftLeft_eq]
  exact Nat.mod_eq_of_lt (by omega)

theorem toNat_tableBase (entry : U64) :
    (tableBase entry).toNat = entry.toNat / 2 ^ 12 % 2 ^ 40 * 2 ^ 12 := by
  have hbase : tableBase entry = pageAddress entry 0#64 12 := by
    rw [tableBase, pageAddress]
    rfl
  have hzero : (0#64).toNat % 2 ^ 12 = 0 := by decide
  rw [hbase, toNat_pageAddress _ _ (by omega), hzero, Nat.add_zero]

theorem tableBase_eq_entryAddress (entry : U64) : tableBase entry = entryAddress entry := by
  apply BitVec.eq_of_toNat_eq
  rw [toNat_tableBase, entryAddress,
    toNat_and_field entry addressMask (by omega) fun bit hbit => getLsbD_addressMask hbit]

theorem walkIndex_eq_tableIndex (address : U64) (low : Nat) :
    walkIndex address low = tableIndex address low := by
  apply Fin.ext
  change (address.extractLsb' low 9).toNat = ((address >>> low) &&& 0x1FF#64).toNat
  rw [BitVec.extractLsb'_toNat, toNat_and_offset _ _ (by decide : (0x1FF#64).toNat = 2 ^ 9 - 1),
    BitVec.toNat_ushiftRight]

theorem canonical_eq_isCanonical (address : U64) : canonical address = isCanonical address :=
  Bool.eq_iff_iff.mpr ((canonical_iff address).trans (isCanonical_iff address).symm)

/-- Base and offset never overlap, so the checked addition succeeds. -/
theorem checkedAdd_page (entry address baseMask offsetMask : U64) {low : Nat} (hlow : low ≤ 52)
    (hbase : ∀ bit < 64, baseMask.getLsbD bit = decide (low ≤ bit ∧ bit < 52))
    (hoffset : offsetMask.toNat = 2 ^ low - 1) :
    checkedAdd (entry &&& baseMask) (address &&& offsetMask) =
      some (pageAddress entry address low) := by
  have hpage := toNat_pageAddress entry address hlow
  have hbound := (pageAddress entry address low).isLt
  rw [← toNat_and_field entry baseMask hlow hbase, ← toNat_and_offset address offsetMask hoffset]
    at hpage
  rw [checkedAdd_eq_some (by omega)]
  congr 1
  apply BitVec.eq_of_toNat_eq
  rw [BitVec.toNat_add, hpage]
  exact Nat.mod_eq_of_lt (by omega)

/-- The base mask of the 1 GiB branch starts at bit 38: the result is right if
the bits it drops are zero. -/
theorem checkedAdd_gigabyte (entry address : U64) :
    ∃ result, checkedAdd (entry &&& 0x000FFFC000000000#64) (address &&& 0x3FFFFFFF#64) =
        some result ∧
      (result = pageAddress entry address 30 ↔ entry.extractLsb' 30 8 = 0#8) := by
  have hbase := toNat_and_field entry 0x000FFFC000000000#64 (by omega : 38 ≤ 52) (by decide)
  have hoffset := toNat_and_offset address 0x3FFFFFFF#64 (by decide : _ = 2 ^ 30 - 1)
  have hpage := toNat_pageAddress entry address (by omega : 30 ≤ 52)
  have hdropped : entry.extractLsb' 30 8 = 0#8 ↔ entry.toNat / 2 ^ 30 % 2 ^ 8 = 0 := by
    rw [← BitVec.toNat_inj, BitVec.extractLsb'_toNat, Nat.shiftRight_eq_div_pow]
    rfl
  have hsum : (entry &&& 0x000FFFC000000000#64).toNat + (address &&& 0x3FFFFFFF#64).toNat <
      2 ^ 64 := by
    rw [hbase, hoffset]
    omega
  refine ⟨_, checkedAdd_eq_some hsum, ?_⟩
  rw [hdropped, ← BitVec.toNat_inj, BitVec.toNat_add, Nat.mod_eq_of_lt hsum, hbase, hoffset, hpage]
  omega

theorem deref_entryAddress (entry : U64) :
    deref (entryAddress entry) = if entryAddress entry = 0#64 then none
      else some (entryAddress entry) := by
  simp only [deref, dereferenceable_entryAddress, ne_eq, ite_not]

/-- `translate` finds what the walk finds, and nothing where the walk faults,
exactly if the walk reads no table at address 0 and does not end at a 1 GiB page
whose entry has one of bits 37:30 set. -/
theorem translate_eq_walk_iff (memory : X86.Memory) (pml4 address : U64) :
    translate (entryAt memory) pml4 address = some (walk memory pml4 address) ↔
      ¬ TruncatedGigabyte memory pml4 address ∧ ¬ NullTable memory pml4 address := by
  have hsmall (entry : U64) := checkedAdd_page entry address addressMask 0xFFF#64
    (by omega : 12 ≤ 52) (fun bit hbit => getLsbD_addressMask hbit) (by decide)
  have hlarge (entry : U64) := checkedAdd_page entry address 0x000FFFFFFFE00000#64 0x1FFFFF#64
    (by omega : 21 ≤ 52) (by decide) (by decide)
  simp only [PageTable.translate, walk, TruncatedGigabyte, NullTable, indexes,
    canonical_eq_isCanonical, walkIndex_eq_tableIndex, tableBase_eq_entryAddress, not_present_iff,
    ne_eq, not_huge_iff, NotHuge, Bool.not_eq_eq_eq_not, Bool.not_true, Bool.not_eq_false,
    deref_entryAddress, Option.bind_eq_bind]
  cases isCanonical address with
  | false => simp
  | true =>
      generalize entryAt memory pml4 (tableIndex address 39) = pml4e
      cases pml4e.getLsbD 0 with
      | false => simp
      | true =>
          by_cases hpdpt : entryAddress pml4e = 0#64
          · simp [hpdpt]
          simp only [if_neg hpdpt, Option.bind_some]
          generalize entryAt memory (entryAddress pml4e) (tableIndex address 30) = pdpte
          cases pdpte.getLsbD 0 with
          | false => simp [hpdpt]
          | true =>
              cases pdpte.getLsbD 7 with
              | true =>
                  obtain ⟨result, hsum, hright⟩ := checkedAdd_gigabyte pdpte address
                  simp [hpdpt, hsum, hright]
              | false =>
                  by_cases hpd : entryAddress pdpte = 0#64
                  · simp [hpd]
                  simp only [if_neg hpd, Option.bind_some]
                  generalize entryAt memory (entryAddress pdpte) (tableIndex address 21) = pde
                  cases pde.getLsbD 0 with
                  | false => simp [hpdpt, hpd]
                  | true =>
                      cases pde.getLsbD 7 with
                      | true => simp [hpdpt, hpd, hlarge]
                      | false =>
                          by_cases hpt : entryAddress pde = 0#64
                          · simp [hpt]
                          simp only [if_neg hpt, Option.bind_some]
                          generalize entryAt memory (entryAddress pde) (tableIndex address 12) = pte
                          cases pte.getLsbD 0 with
                          | false => simp [hpdpt, hpd, hpt]
                          | true =>
                              have hsum : checkedAdd (entryAddress pte) (address &&& 0xFFF#64) =
                                  some (pageAddress pte address 12) := hsmall pte
                              simp [hpdpt, hpd, hpt, hsum]

/-- A PML4 at `0x1000`, a PDPT at `0x2000` and in it a page of 1 GiB at 1 GiB. -/
def secondGigabyte : X86.Memory :=
  X86.Memory.write64 (X86.Memory.write64 (fun _ => 0#8) 0x1000#64 0x2003#64) 0x2000#64
    0x40000083#64

/-- The processor maps address zero to 1 GiB, `translate` to zero. -/
theorem translate_loses_second_gigabyte :
    walk secondGigabyte 0x1000#64 0#64 = some 0x40000000#64 ∧
      translate (entryAt secondGigabyte) 0x1000#64 0#64 = some (some 0#64) := by
  decide

end HardwareWalk

end UnboundOS.Memory
