import UnboundOS.Base.Fallible
import UnboundOS.Base.RadixForest
import UnboundOS.Memory.FrameAllocator

/-!
`memory/page_table.rs`. Physical memory is seen as page tables: a table for
every physical address, 512 entries each. The kernel maps physical memory at
`IDENTITY_MAP_BASE = 0`, so `phys_to_virt` is the identity and a table is named
by its physical address. Turning such an address into a reference is checked in
the development build: a null or misaligned pointer stops the kernel. At the
multiples of the page size that are left tables do not overlap.
-/

namespace UnboundOS.Memory

def pageSize : U64 := 4096#64

namespace PageTable

def presentFlag : U64 := 1#64 <<< 0
def writableFlag : U64 := 1#64 <<< 1
def userFlag : U64 := 1#64 <<< 2
def hugePageFlag : U64 := 1#64 <<< 7
def addressMask : U64 := 0x000FFFFFFFFFF000#64

end PageTable

/-- The entries of one table. -/
abbrev PageTable := Fin 512 → U64

/-- What the paging code works on: the frame allocator and physical memory. -/
structure PhysicalMemory where
  allocator : FrameAllocator
  tables : U64 → PageTable

namespace PageTable

/-- Nine bits of a virtual address. -/
def tableIndex (virtualAddress : U64) (shift : Nat) : Fin 512 :=
  ⟨((virtualAddress >>> shift) &&& 0x1FF#64).toNat, by
    rw [BitVec.toNat_and]
    exact lt_of_le_of_lt Nat.and_le_right (by decide)⟩

/-- PML4, PDPT, PD and PT index. -/
def indexes (virtualAddress : U64) : Fin 512 × Fin 512 × Fin 512 × Fin 512 :=
  (tableIndex virtualAddress 39, tableIndex virtualAddress 30, tableIndex virtualAddress 21,
    tableIndex virtualAddress 12)

def isCanonical (virtualAddress : U64) : Bool :=
  let upper := virtualAddress >>> 48
  let sign := (virtualAddress >>> 47) &&& 1#64
  if sign = 0#64 then upper = 0#64 else upper = 0xFFFF#64

def entryAddress (entry : U64) : U64 :=
  entry &&& addressMask

def makeEntry (address : U64) (writable user : Bool) : U64 :=
  let entry := address &&& addressMask
  let entry := entry ||| presentFlag
  let entry := if writable then entry ||| writableFlag else entry
  if user then entry ||| userFlag else entry

/-- How `get_or_create_table` widens the permissions of an entry it passes. -/
def widen (entry : U64) (writable user : Bool) : U64 :=
  let entry := if user then entry ||| userFlag else entry
  if writable then entry ||| writableFlag else entry

abbrev Paging := Fallible PhysicalMemory

def readEntry (table : U64) (index : Fin 512) : Paging U64 :=
  Fallible.read fun memory => memory.tables table index

def writeEntry (table : U64) (index : Fin 512) (entry : U64) : Paging Unit :=
  Fallible.write fun memory =>
    {memory with tables := RadixForest.write memory.tables table index entry}

/-- The pointers to a table that may be dereferenced. -/
def Dereferenceable (address : U64) : Prop :=
  address ≠ 0#64 ∧ address % pageSize = 0#64

instance (address : U64) : Decidable (Dereferenceable address) :=
  inferInstanceAs (Decidable (_ ∧ _))

/-- `&*(phys_to_virt(address) as *const PageTable)`. -/
def deref (address : U64) : Checked U64 :=
  if Dereferenceable address then some address else none

/-- The same for a table that is going to be written. -/
def tableAt (address : U64) : Paging U64 :=
  Fallible.checked (deref address)

/-- `PageTable::zero` on the table at an address. -/
def zero (table : U64) : Paging Unit :=
  Fallible.write fun memory => {memory with tables := RadixForest.fill memory.tables table 0#64}

/-- `allocate_frame().ok_or("out of physical memory")?`. -/
def allocateTableFrame : Paging U64 := do
  let frame ← Fallible.update fun memory => do
    let (result, allocator) ← memory.allocator.allocateFrame
    some (result, {memory with allocator})
  match frame with
  | some address => return address
  | none => throw "out of physical memory"

def getOrCreateTable (parent : U64) (index : Fin 512) (writable user : Bool) : Paging U64 := do
  let entry ← readEntry parent index
  if entry &&& presentFlag ≠ 0#64 then do
    writeEntry parent index (widen entry writable user)
    return entryAddress entry
  else do
    let frame ← allocateTableFrame
    let table ← tableAt frame
    zero table
    writeEntry parent index (makeEntry frame writable user)
    return frame

def map (pml4 virtualAddress physicalAddress : U64) (writable user : Bool) : Paging Unit :=
  if !isCanonical virtualAddress then throw "virtual address is not canonical"
  else if virtualAddress % pageSize ≠ 0#64 then throw "virtual address is not page aligned"
  else if physicalAddress % pageSize ≠ 0#64 then throw "physical address is not page aligned"
  else if addressMask < physicalAddress then
    throw "physical address exceeds supported page-table range"
  else do
    let (pml4Index, pdptIndex, pdIndex, ptIndex) := indexes virtualAddress
    let pdptAddress ← getOrCreateTable pml4 pml4Index writable user
    let pdpt ← tableAt pdptAddress
    let pdAddress ← getOrCreateTable pdpt pdptIndex writable user
    let pd ← tableAt pdAddress
    let ptAddress ← getOrCreateTable pd pdIndex writable user
    let pt ← tableAt ptAddress
    let entry ← readEntry pt ptIndex
    if entry &&& presentFlag ≠ 0#64 then throw "virtual page is already mapped"
    else writeEntry pt ptIndex (makeEntry physicalAddress writable user)

/-- Reads only; the addition of the page offset is a checked one. -/
def translate (tables : U64 → PageTable) (pml4 virtualAddress : U64) : Checked (Option U64) :=
  if !isCanonical virtualAddress then some none
  else
    let (pml4Index, pdptIndex, pdIndex, ptIndex) := indexes virtualAddress
    let pml4Entry := tables pml4 pml4Index
    if pml4Entry &&& presentFlag = 0#64 then some none
    else do
      let pdpt ← deref (entryAddress pml4Entry)
      let pdptEntry := tables pdpt pdptIndex
      if pdptEntry &&& presentFlag = 0#64 then some none
      else if pdptEntry &&& hugePageFlag ≠ 0#64 then
        (checkedAdd (pdptEntry &&& 0x000FFFC000000000#64)
          (virtualAddress &&& 0x3FFFFFFF#64)).map some
      else do
        let pd ← deref (entryAddress pdptEntry)
        let pdEntry := tables pd pdIndex
        if pdEntry &&& presentFlag = 0#64 then some none
        else if pdEntry &&& hugePageFlag ≠ 0#64 then
          (checkedAdd (pdEntry &&& 0x000FFFFFFFE00000#64)
            (virtualAddress &&& 0x1FFFFF#64)).map some
        else do
          let pt ← deref (entryAddress pdEntry)
          let ptEntry := tables pt ptIndex
          if ptEntry &&& presentFlag = 0#64 then some none
          else (checkedAdd (entryAddress ptEntry) (virtualAddress &&& 0xFFF#64)).map some

def unmap (pml4 virtualAddress : U64) : Paging U64 :=
  if !isCanonical virtualAddress then throw "virtual address is not canonical"
  else if virtualAddress % pageSize ≠ 0#64 then throw "virtual address is not page aligned"
  else do
    let (pml4Index, pdptIndex, pdIndex, ptIndex) := indexes virtualAddress
    let pml4Entry ← readEntry pml4 pml4Index
    if pml4Entry &&& presentFlag = 0#64 then throw "PML4 entry is not present"
    else do
      let pdpt ← tableAt (entryAddress pml4Entry)
      let pdptEntry ← readEntry pdpt pdptIndex
      if pdptEntry &&& presentFlag = 0#64 then throw "PDPT entry is not present"
      else if pdptEntry &&& hugePageFlag ≠ 0#64 then
        throw "cannot unmap a huge page with 4 KiB unmap"
      else do
        let pd ← tableAt (entryAddress pdptEntry)
        let pdEntry ← readEntry pd pdIndex
        if pdEntry &&& presentFlag = 0#64 then throw "PD entry is not present"
        else if pdEntry &&& hugePageFlag ≠ 0#64 then
          throw "cannot unmap a huge page with 4 KiB unmap"
        else do
          let pt ← tableAt (entryAddress pdEntry)
          let entry ← readEntry pt ptIndex
          if entry &&& presentFlag = 0#64 then throw "virtual page is not mapped"
          else do
            writeEntry pt ptIndex 0#64
            return entryAddress entry

/-- Where an entry leads: nowhere unless it is present. -/
def entryTarget (entry : U64) : Option U64 :=
  if entry &&& presentFlag = 0#64 then none else some (entryAddress entry)

/-- The entry allows at least these permissions. -/
def Grants (entry : U64) (writable user : Bool) : Prop :=
  (writable = true → entry.getLsbD 1 = true) ∧ (user = true → entry.getLsbD 2 = true)

/-- The entry allows no more than `bound` does. -/
def Within (entry bound : U64) : Prop :=
  Grants bound (entry.getLsbD 1) (entry.getLsbD 2)

def NotHuge (entry : U64) : Prop :=
  entry.getLsbD 7 = false

theorem and_shift_eq_zero (entry : U64) {bit : Nat} (hbit : bit < 64) :
    entry &&& (1#64 <<< bit) = 0#64 ↔ entry.getLsbD bit = false := by
  rw [← BitVec.twoPow_eq, BitVec.and_twoPow]
  cases entry.getLsbD bit with
  | false => simp
  | true =>
      have hpos : 0 < 2 ^ bit := Nat.two_pow_pos bit
      have hlt : 2 ^ bit < 2 ^ 64 := Nat.pow_lt_pow_right (by omega) hbit
      simp only [if_true, Bool.true_eq_false, iff_false, ← BitVec.toNat_inj, BitVec.toNat_twoPow,
        Nat.mod_eq_of_lt hlt, BitVec.toNat_ofNat, Nat.zero_mod]
      omega

theorem not_present_iff (entry : U64) : entry &&& presentFlag = 0#64 ↔ entry.getLsbD 0 = false :=
  and_shift_eq_zero entry (by omega)

theorem not_huge_iff (entry : U64) : entry &&& hugePageFlag = 0#64 ↔ NotHuge entry :=
  and_shift_eq_zero entry (by omega)

theorem getLsbD_widen (entry : U64) (writable user : Bool) (bit : Nat) :
    (widen entry writable user).getLsbD bit =
      (entry.getLsbD bit || (writable && decide (bit = 1)) || (user && decide (bit = 2))) := by
  have hwritable : writableFlag.getLsbD bit = decide (bit = 1) := by
    rw [writableFlag, ← BitVec.twoPow_eq, BitVec.getLsbD_twoPow]
    by_cases hbit : bit = 1 <;> simp [hbit, eq_comm]
  have huser : userFlag.getLsbD bit = decide (bit = 2) := by
    rw [userFlag, ← BitVec.twoPow_eq, BitVec.getLsbD_twoPow]
    by_cases hbit : bit = 2 <;> simp [hbit, eq_comm]
  cases writable <;> cases user <;>
    simp [widen, hwritable, huser, Bool.or_comm, Bool.or_left_comm]

theorem makeEntry_eq_widen (address : U64) (writable user : Bool) :
    makeEntry address writable user =
      widen ((address &&& addressMask) ||| presentFlag) writable user := by
  cases writable <;> cases user <;>
    simp only [makeEntry, widen, if_true, if_false, Bool.false_eq_true]
  ac_rfl

theorem entryAddress_or (entry flag : U64) (hflag : flag &&& addressMask = 0#64) :
    entryAddress (entry ||| flag) = entryAddress entry := by
  rw [entryAddress, BitVec.and_or_distrib_right, hflag, BitVec.or_zero, entryAddress]

theorem entryAddress_widen (entry : U64) (writable user : Bool) :
    entryAddress (widen entry writable user) = entryAddress entry := by
  cases writable <;> cases user <;>
    simp [widen, entryAddress_or, show writableFlag &&& addressMask = 0#64 by decide,
      show userFlag &&& addressMask = 0#64 by decide]

/-- Physical addresses that fit into an entry: page aligned and within the
address field. -/
def Addressable (address : U64) : Prop :=
  address % pageSize = 0#64 ∧ ¬ addressMask < address

theorem getLsbD_addressMask {bit : Nat} (hbit : bit < 64) :
    addressMask.getLsbD bit = decide (12 ≤ bit ∧ bit < 52) := by
  revert bit
  decide

theorem Addressable.and_mask {address : U64} (haddress : Addressable address) :
    address &&& addressMask = address := by
  obtain ⟨haligned, hbound⟩ := haddress
  have hmod : address.toNat % 2 ^ 12 = 0 := by
    have hnat := congrArg BitVec.toNat haligned
    simpa [pageSize] using hnat
  have hlt : address.toNat < 2 ^ 52 := by
    have hle : address.toNat ≤ addressMask.toNat := not_lt.mp hbound
    have hmask : addressMask.toNat = 2 ^ 52 - 4096 := by decide
    omega
  refine BitVec.eq_of_getLsbD_eq fun bit hbit => ?_
  rw [BitVec.getLsbD_and, getLsbD_addressMask hbit]
  by_cases hlow : bit < 12
  · have hzero := Nat.testBit_mod_two_pow address.toNat 12 bit
    rw [hmod, Nat.zero_testBit] at hzero
    have hclear : address.getLsbD bit = false := by simpa [hlow, BitVec.getLsbD] using hzero.symm
    rw [hclear, Bool.false_and]
  · by_cases hhigh : bit < 52
    · simp [hhigh, not_lt.mp hlow]
    · have hclear : address.getLsbD bit = false :=
        Nat.testBit_lt_two_pow
          (lt_of_lt_of_le hlt (Nat.pow_le_pow_right (by omega) (not_lt.mp hhigh)))
      rw [hclear, Bool.false_and]

theorem deref_of {address : U64} (haddress : Dereferenceable address) :
    deref address = some address :=
  if_pos haddress

theorem entryAddress_aligned (entry : U64) : entryAddress entry % pageSize = 0#64 := by
  refine BitVec.eq_of_toNat_eq ?_
  have hlow : (entryAddress entry).toNat % 2 ^ 12 = 0 := by
    rw [← Nat.and_two_pow_sub_one_eq_mod, entryAddress, BitVec.toNat_and, Nat.and_assoc,
      show addressMask.toNat &&& (2 ^ 12 - 1) = 0 by decide, Nat.and_zero]
  rw [BitVec.toNat_umod]
  exact hlow

/-- An entry can only lead to a null pointer, never to a misaligned one. -/
theorem dereferenceable_entryAddress (entry : U64) :
    Dereferenceable (entryAddress entry) ↔ entryAddress entry ≠ 0#64 :=
  and_iff_left (entryAddress_aligned entry)

theorem entryAddress_makeEntry {address : U64} (haddress : Addressable address)
    (writable user : Bool) : entryAddress (makeEntry address writable user) = address := by
  rw [makeEntry_eq_widen, entryAddress_widen, entryAddress_or _ _ (by decide), entryAddress,
    haddress.and_mask, haddress.and_mask]

theorem getLsbD_makeEntry (address : U64) (writable user : Bool) {bit : Nat} (hbit : bit < 12) :
    (makeEntry address writable user).getLsbD bit =
      (decide (bit = 0) || (writable && decide (bit = 1)) || (user && decide (bit = 2))) := by
  have hpresent : presentFlag.getLsbD bit = decide (bit = 0) := by
    rw [presentFlag, ← BitVec.twoPow_eq, BitVec.getLsbD_twoPow]
    by_cases hzero : bit = 0 <;> simp [hzero, eq_comm]
  have hlow : ¬ 12 ≤ bit := by omega
  rw [makeEntry_eq_widen, getLsbD_widen, BitVec.getLsbD_or, BitVec.getLsbD_and,
    getLsbD_addressMask (by omega), hpresent]
  simp [hlow]

theorem entryTarget_eq_none_iff (entry : U64) :
    entryTarget entry = none ↔ entry &&& presentFlag = 0#64 := by
  rw [entryTarget]
  split <;> simp [*]

theorem entryTarget_of_present {entry : U64} (hpresent : ¬ entry &&& presentFlag = 0#64) :
    entryTarget entry = some (entryAddress entry) :=
  if_neg hpresent

theorem entryAddress_of_target {entry target : U64} (htarget : entryTarget entry = some target) :
    entryAddress entry = target := by
  have hpresent : ¬ entry &&& presentFlag = 0#64 := by
    rw [← entryTarget_eq_none_iff, htarget]
    exact Option.some_ne_none target
  rw [entryTarget_of_present hpresent] at htarget
  exact Option.some.inj htarget

theorem entryTarget_makeEntry {address : U64} (haddress : Addressable address)
    (writable user : Bool) : entryTarget (makeEntry address writable user) = some address := by
  rw [entryTarget, if_neg, entryAddress_makeEntry haddress]
  rw [not_present_iff, getLsbD_makeEntry _ _ _ (by omega)]
  simp

theorem entryTarget_widen (entry : U64) (writable user : Bool) :
    entryTarget (widen entry writable user) = entryTarget entry := by
  simp only [entryTarget, not_present_iff, getLsbD_widen, entryAddress_widen]
  simp

theorem entryTarget_zero : entryTarget 0#64 = none := by decide

theorem NotHuge.widen {entry : U64} (hentry : NotHuge entry) (writable user : Bool) :
    NotHuge (widen entry writable user) := by
  rw [NotHuge] at hentry ⊢
  rw [getLsbD_widen, hentry]
  simp

theorem notHuge_makeEntry (address : U64) (writable user : Bool) :
    NotHuge (makeEntry address writable user) := by
  rw [NotHuge, getLsbD_makeEntry _ _ _ (by omega)]
  simp

theorem grants_widen (entry : U64) (writable user : Bool) :
    Grants (widen entry writable user) writable user := by
  constructor <;> intro hflag <;> rw [getLsbD_widen, hflag] <;> simp

theorem Grants.widen {entry : U64} {writable user : Bool} (hgrants : Grants entry writable user)
    (writable' user' : Bool) : Grants (widen entry writable' user') writable user := by
  constructor <;> intro hflag <;> rw [getLsbD_widen]
  · rw [hgrants.1 hflag]
    simp
  · rw [hgrants.2 hflag]
    simp

theorem Within.widen_below {entry bound : U64} (hwithin : Within entry bound)
    {writable user : Bool} (hgrants : Grants bound writable user) :
    Within (widen entry writable user) bound := by
  constructor <;> intro hflag <;> rw [getLsbD_widen] at hflag <;> simp at hflag
  · exact hflag.elim hwithin.1 hgrants.1
  · exact hflag.elim hwithin.2 hgrants.2

theorem within_makeEntry {bound : U64} (address : U64) {writable user : Bool}
    (hgrants : Grants bound writable user) : Within (makeEntry address writable user) bound := by
  constructor <;> intro hflag <;> rw [getLsbD_makeEntry _ _ _ (by omega)] at hflag <;>
    simp at hflag
  · exact hgrants.1 hflag
  · exact hgrants.2 hflag

theorem grants_makeEntry (address : U64) (writable user : Bool) :
    Grants (makeEntry address writable user) writable user := by
  rw [makeEntry_eq_widen]
  exact grants_widen _ writable user

theorem tableIndex_val (virtualAddress : U64) (shift : Nat) :
    (tableIndex virtualAddress shift).val = virtualAddress.toNat / 2 ^ shift % 512 := by
  change ((virtualAddress >>> shift) &&& 0x1FF#64).toNat = _
  rw [BitVec.toNat_and, BitVec.toNat_ushiftRight, Nat.shiftRight_eq_div_pow]
  exact Nat.and_two_pow_sub_one_eq_mod _ 9

/-- Bits 48 to 63 repeat bit 47. -/
theorem isCanonical_iff (virtualAddress : U64) :
    isCanonical virtualAddress = true ↔
      virtualAddress.toNat < 2 ^ 47 ∨ 2 ^ 64 - 2 ^ 47 ≤ virtualAddress.toNat := by
  have hbound := virtualAddress.isLt
  have hsign : (virtualAddress >>> 47 &&& 1#64 = 0#64) ↔ virtualAddress.toNat / 2 ^ 47 % 2 = 0 := by
    rw [← BitVec.toNat_inj, BitVec.toNat_and, BitVec.toNat_ushiftRight,
      Nat.shiftRight_eq_div_pow]
    exact iff_of_eq (congrArg (· = 0) (Nat.and_one_is_mod _))
  have hupper (value : U64) : virtualAddress >>> 48 = value ↔
      virtualAddress.toNat / 2 ^ 48 = value.toNat := by
    rw [← BitVec.toNat_inj, BitVec.toNat_ushiftRight, Nat.shiftRight_eq_div_pow]
  simp only [isCanonical, hsign, hupper]
  split
  · simp only [decide_eq_true_eq, BitVec.toNat_ofNat]
    omega
  · simp only [decide_eq_true_eq, BitVec.toNat_ofNat]
    omega

/-- The page that contains an address. -/
def pageOf (virtualAddress : U64) : U64 :=
  virtualAddress - virtualAddress % pageSize

theorem pageOf_toNat (virtualAddress : U64) :
    (pageOf virtualAddress).toNat = virtualAddress.toNat / 4096 * 4096 := by
  have hsize : pageSize.toNat = 4096 := rfl
  have hle : virtualAddress % pageSize ≤ virtualAddress := by
    change (virtualAddress % pageSize).toNat ≤ virtualAddress.toNat
    rw [BitVec.toNat_umod]
    exact Nat.mod_le _ _
  rw [pageOf, BitVec.toNat_sub_of_le hle, BitVec.toNat_umod, hsize]
  omega

theorem pageOf_aligned (virtualAddress : U64) : pageOf virtualAddress % pageSize = 0#64 := by
  have hsize : pageSize.toNat = 4096 := rfl
  rw [← BitVec.toNat_inj, BitVec.toNat_umod, pageOf_toNat, hsize, Nat.mul_mod_left]
  rfl

theorem pageOf_canonical {virtualAddress : U64} (hcanonical : isCanonical virtualAddress = true) :
    isCanonical (pageOf virtualAddress) = true := by
  rw [isCanonical_iff] at hcanonical ⊢
  rw [pageOf_toNat]
  omega

theorem canonical_of_pageOf {virtualAddress : U64}
    (hpage : isCanonical (pageOf virtualAddress) = true) : isCanonical virtualAddress = true := by
  rw [isCanonical_iff] at hpage ⊢
  rw [pageOf_toNat] at hpage
  omega

theorem pageOf_add_offset (virtualAddress : U64) :
    pageOf virtualAddress + virtualAddress % pageSize = virtualAddress :=
  BitVec.sub_add_cancel _ _

theorem indexes_pageOf (virtualAddress : U64) :
    indexes (pageOf virtualAddress) = indexes virtualAddress := by
  have hindex (shift : Nat) (hshift : 12 ≤ shift) :
      tableIndex (pageOf virtualAddress) shift = tableIndex virtualAddress shift := by
    obtain ⟨rest, rfl⟩ := Nat.exists_eq_add_of_le hshift
    rw [Fin.ext_iff, tableIndex_val, tableIndex_val, pageOf_toNat, Nat.pow_add,
      ← Nat.div_div_eq_div_mul, ← Nat.div_div_eq_div_mul, Nat.mul_div_cancel _ (by omega)]
  rw [indexes, indexes, hindex 39 (by omega), hindex 30 (by omega), hindex 21 (by omega),
    hindex 12 (by omega)]

/-- The four indices identify a canonical page. -/
theorem indexes_injective {left right : U64} (hleft : isCanonical left = true)
    (hright : isCanonical right = true) (hleftAligned : left % pageSize = 0#64)
    (hrightAligned : right % pageSize = 0#64) (hsame : indexes left = indexes right) :
    left = right := by
  rw [isCanonical_iff] at hleft hright
  have haligned (address : U64) (haddress : address % pageSize = 0#64) :
      address.toNat % 4096 = 0 := congrArg BitVec.toNat haddress
  have hlow := haligned left hleftAligned
  have hlow' := haligned right hrightAligned
  simp only [indexes, Prod.mk.injEq, Fin.ext_iff, tableIndex_val] at hsame
  obtain ⟨hpml4, hpdpt, hpd, hpt⟩ := hsame
  have hbound := left.isLt
  have hbound' := right.isLt
  rw [← BitVec.toNat_inj]
  omega

end PageTable

end UnboundOS.Memory
