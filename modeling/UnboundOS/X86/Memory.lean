import UnboundOS.Base.Checked

/-!
Byte-addressed memory with little-endian 64-bit words, and the words a stack
holds. Addresses wrap around at `2 ^ 64` as they do on the machine, so nothing
here assumes that a stack stays away from the end of the address space.
-/

namespace UnboundOS.X86

/-- Clearing the four low bits rounds down to a multiple of 16. -/
theorem and_neg_sixteen_toNat (address : U64) :
    (address &&& (-16#64)).toNat = address.toNat / 16 * 16 := by
  exact and_high_toNat address (-16#64) 4 (by decide)

/-- Bits 63:47 of a linear address are all equal. -/
def canonical (address : U64) : Bool :=
  (address.setWidth 48).signExtend 64 == address

theorem canonical_iff (address : U64) : canonical address = true ↔
    address.toNat < 2 ^ 47 ∨ 2 ^ 64 - 2 ^ 47 ≤ address.toNat := by
  have hbound := address.isLt
  rw [canonical, beq_iff_eq, ← BitVec.toNat_inj, BitVec.toNat_signExtend,
    BitVec.msb_eq_decide, BitVec.toNat_setWidth, BitVec.toNat_setWidth]
  simp only [decide_eq_true_eq]
  split <;> omega

abbrev Memory := U64 → U8

namespace Memory

def read64 (memory : Memory) (address : U64) : U64 :=
  memory (address + 7#64) ++ memory (address + 6#64) ++ memory (address + 5#64) ++
    memory (address + 4#64) ++ memory (address + 3#64) ++ memory (address + 2#64) ++
    memory (address + 1#64) ++ memory address

def write64 (memory : Memory) (address value : U64) : Memory :=
  fun other =>
    if (other - address).toNat < 8 then value.extractLsb' (8 * (other - address).toNat) 8
    else memory other

def read16 (memory : Memory) (address : U64) : U16 :=
  memory (address + 1#64) ++ memory address

def read32 (memory : Memory) (address : U64) : U32 :=
  memory (address + 3#64) ++ memory (address + 2#64) ++ memory (address + 1#64) ++ memory address

/-- A store of the `width` low bytes of a value. -/
def store (width : Nat) (memory : Memory) (address value : U64) : Memory :=
  fun other =>
    if (other - address).toNat < width then value.extractLsb' (8 * (other - address).toNat) 8
    else memory other

/-- A run of bytes from an address upwards. -/
def writeBytes (memory : Memory) (address : U64) (bytes : List U8) : Memory :=
  fun other => bytes[(other - address).toNat]?.getD (memory other)

theorem offset_sub (address : U64) {offset : Nat} (hoffset : offset < 2 ^ 64) :
    (address + BitVec.ofNat 64 offset - address).toNat = offset := by
  rw [BitVec.add_comm, BitVec.add_sub_cancel, BitVec.toNat_ofNat, Nat.mod_eq_of_lt hoffset]

theorem store_inside (memory : Memory) (address value : U64) {width offset : Nat}
    (hoffset : offset < width) (hwidth : width ≤ 2 ^ 64) :
    store width memory address value (address + BitVec.ofNat 64 offset) =
      value.extractLsb' (8 * offset) 8 := by
  rw [store, offset_sub address (by omega), if_pos hoffset]

theorem writeBytes_inside (memory : Memory) (address : U64) {bytes : List U8} {offset : Nat}
    (hoffset : offset < 2 ^ 64) {byte : U8} (hbyte : bytes[offset]? = some byte) :
    writeBytes memory address bytes (address + BitVec.ofNat 64 offset) = byte := by
  rw [writeBytes, offset_sub address hoffset, hbyte]
  rfl

theorem write64_inside (memory : Memory) (address value : U64) {offset : Nat}
    (hoffset : offset < 8) :
    write64 memory address value (address + BitVec.ofNat 64 offset) =
      value.extractLsb' (8 * offset) 8 :=
  store_inside memory address value hoffset (by omega)

theorem write64_outside {memory : Memory} {address other : U64} (value : U64)
    (hother : 8 ≤ (other - address).toNat) :
    write64 memory address value other = memory other := by
  rw [write64, if_neg (by omega)]

theorem read64_congr {left right : Memory} {address : U64}
    (hsame : ∀ offset < 8, left (address + BitVec.ofNat 64 offset) =
      right (address + BitVec.ofNat 64 offset)) :
    left.read64 address = right.read64 address := by
  have hzero := hsame 0 (by omega)
  rw [BitVec.add_zero] at hzero
  rw [read64, read64, hsame 7 (by omega), hsame 6 (by omega), hsame 5 (by omega),
    hsame 4 (by omega), hsame 3 (by omega), hsame 2 (by omega), hsame 1 (by omega), hzero]

theorem read32_congr {left right : Memory} {address : U64}
    (hsame : ∀ offset < 4, left (address + BitVec.ofNat 64 offset) =
      right (address + BitVec.ofNat 64 offset)) :
    left.read32 address = right.read32 address := by
  have hzero := hsame 0 (by omega)
  rw [BitVec.add_zero] at hzero
  rw [read32, read32, hsame 3 (by omega), hsame 2 (by omega), hsame 1 (by omega), hzero]

/-- A word is made of its eight bytes. -/
theorem read64_of_bytes {memory : Memory} {address value : U64}
    (hbytes : ∀ offset < 8, memory (address + BitVec.ofNat 64 offset) =
      value.extractLsb' (8 * offset) 8) : memory.read64 address = value := by
  have hzero := hbytes 0 (by omega)
  rw [BitVec.add_zero] at hzero
  rw [read64, hbytes 7 (by omega), hbytes 6 (by omega), hbytes 5 (by omega), hbytes 4 (by omega),
    hbytes 3 (by omega), hbytes 2 (by omega), hbytes 1 (by omega), hzero]
  refine BitVec.eq_of_getLsbD_eq fun bit hbit => ?_
  simp only [BitVec.getLsbD_append, BitVec.getLsbD_extractLsb']
  grind

/-- The same for four bytes of a wider value. -/
theorem read32_of_bytes {memory : Memory} {address value : U64}
    (hbytes : ∀ offset < 4, memory (address + BitVec.ofNat 64 offset) =
      value.extractLsb' (8 * offset) 8) : memory.read32 address = value.setWidth 32 := by
  have hzero := hbytes 0 (by omega)
  rw [BitVec.add_zero] at hzero
  rw [read32, hbytes 3 (by omega), hbytes 2 (by omega), hbytes 1 (by omega), hzero]
  refine BitVec.eq_of_getLsbD_eq fun bit hbit => ?_
  simp only [BitVec.getLsbD_append, BitVec.getLsbD_extractLsb', BitVec.getLsbD_setWidth]
  grind

theorem read16_of_bytes {memory : Memory} {address value : U64}
    (hbytes : ∀ offset < 2, memory (address + BitVec.ofNat 64 offset) =
      value.extractLsb' (8 * offset) 8) : memory.read16 address = value.setWidth 16 := by
  have hzero := hbytes 0 (by omega)
  rw [BitVec.add_zero] at hzero
  rw [read16, hbytes 1 (by omega), hzero]
  refine BitVec.eq_of_getLsbD_eq fun bit hbit => ?_
  simp only [BitVec.getLsbD_append, BitVec.getLsbD_extractLsb', BitVec.getLsbD_setWidth]
  grind

theorem read64_write64 (memory : Memory) (address value : U64) :
    (memory.write64 address value).read64 address = value := by
  apply read64_of_bytes
  intro offset hoffset
  exact write64_inside memory address value hoffset

/-- Consecutive words from an address upwards. -/
def Holds (memory : Memory) (address : U64) : List U64 → Prop
  | [] => True
  | word :: rest => memory.read64 address = word ∧ Holds memory (address + 8#64) rest

theorem Holds.congr {left right : Memory} {address : U64} {words : List U64}
    (hleft : left.Holds address words)
    (hsame : ∀ offset < 8 * words.length, right (address + BitVec.ofNat 64 offset) =
      left (address + BitVec.ofNat 64 offset)) : right.Holds address words := by
  induction words generalizing address with
  | nil => trivial
  | cons word rest ih =>
      simp only [List.length_cons] at hsame
      constructor
      · rw [← hleft.1]
        exact read64_congr fun offset hoffset => hsame offset (by omega)
      · refine ih hleft.2 fun offset hoffset => ?_
        have hshift : address + 8#64 + BitVec.ofNat 64 offset =
            address + BitVec.ofNat 64 (8 + offset) := by
          rw [BitVec.add_assoc, ← BitVec.ofNat_add]
        rw [hshift]
        exact hsame (8 + offset) (by omega)

/-- What lies `offset` bytes above an address is not hit by a push at it. -/
theorem write64_below (memory : Memory) (address value : U64) {offset : Nat}
    (hoffset : offset + 8 < 2 ^ 64) :
    memory.write64 (address - 8#64) value (address + BitVec.ofNat 64 offset) =
      memory (address + BitVec.ofNat 64 offset) := by
  refine write64_outside value ?_
  have hdiff (base shift : U64) : base + shift - (base - 8#64) = shift + 8#64 := by bv_omega
  rw [hdiff, BitVec.toNat_add, BitVec.toNat_ofNat, BitVec.toNat_ofNat]
  omega

/-- A push leaves the words above it alone as long as the stack does not wrap
onto itself. -/
theorem Holds.push {memory : Memory} {address : U64} {words : List U64}
    (hwords : memory.Holds address words) (hroom : 8 * (words.length + 1) ≤ 2 ^ 64)
    (value : U64) :
    (memory.write64 (address - 8#64) value).Holds (address - 8#64) (value :: words) := by
  refine ⟨read64_write64 _ _ _, ?_⟩
  rw [BitVec.sub_add_cancel]
  exact hwords.congr fun offset hoffset => write64_below memory address value (by omega)

theorem Holds.getElem {memory : Memory} {address : U64} {words : List U64}
    (hwords : memory.Holds address words) {index : Nat} {word : U64}
    (hword : words[index]? = some word) :
    memory.read64 (address + BitVec.ofNat 64 (8 * index)) = word := by
  induction words generalizing address index with
  | nil => cases hword
  | cons first rest ih =>
      cases index with
      | zero =>
          cases hword
          rw [Nat.mul_zero, BitVec.add_zero]
          exact hwords.1
      | succ index =>
          have hrest := ih hwords.2 hword
          rwa [BitVec.add_assoc, ← BitVec.ofNat_add, Nat.add_comm 8, ← Nat.mul_succ] at hrest

/-- The bytes from an address upwards. -/
def span (base : U64) (size : Nat) : Set U64 :=
  {address | (address - base).toNat < size}

/-- Memory changes only within a region. -/
def SameOutside (region : Set U64) (before after : Memory) : Prop :=
  ∀ address ∉ region, after address = before address

theorem mem_span {base address : U64} {size : Nat} :
    address ∈ span base size ↔ (address - base).toNat < size :=
  Iff.rfl

theorem offset_mem_span {base : U64} {offset size : Nat} (hoffset : offset < size) :
    base + BitVec.ofNat 64 offset ∈ span base size := by
  rw [mem_span, BitVec.add_comm, BitVec.add_sub_cancel, BitVec.toNat_ofNat]
  exact lt_of_le_of_lt (Nat.mod_le _ _) hoffset

/-- A span inside a larger one that starts `offset` bytes before it. -/
theorem span_subset {inner outer : U64} {offset size total : Nat}
    (hinner : inner = outer + BitVec.ofNat 64 offset) (hroom : offset + size ≤ total) :
    span inner size ⊆ span outer total := by
  intro address haddress
  rw [mem_span] at haddress ⊢
  have hdiff : address - outer = address - inner + BitVec.ofNat 64 offset := by
    rw [hinner]
    bv_omega
  rw [hdiff, BitVec.toNat_add, BitVec.toNat_ofNat]
  refine lt_of_le_of_lt (Nat.mod_le _ _) ?_
  have hle : offset % 2 ^ 64 ≤ offset := Nat.mod_le _ _
  omega

/-- The same for two spans given by how far below `top` they start. -/
theorem below_subset {top : U64} {inner outer size total : Nat} (hdepth : inner ≤ outer)
    (hroom : outer - inner + size ≤ total) :
    span (top - BitVec.ofNat 64 inner) size ⊆ span (top - BitVec.ofNat 64 outer) total := by
  refine span_subset ?_ hroom
  have hsplit : BitVec.ofNat 64 outer =
      BitVec.ofNat 64 inner + BitVec.ofNat 64 (outer - inner) := by
    rw [← BitVec.ofNat_add, Nat.add_sub_cancel' hdepth]
  rw [hsplit]
  bv_omega

/-- Two spans at offsets from one base, one behind the other. -/
theorem span_disjoint (base : U64) (low high : Nat) {size total : Nat} (hbehind : low + size ≤ high)
    (hroom : high + total ≤ 2 ^ 64) :
    Disjoint (span (base + BitVec.ofNat 64 low) size)
      (span (base + BitVec.ofNat 64 high) total) := by
  rw [Set.disjoint_left]
  intro address hlow hhigh
  rw [mem_span] at hlow hhigh
  bv_omega

theorem pairwise_disjoint_pair {regions : Bool → Set U64}
    (hdisjoint : Disjoint (regions false) (regions true)) :
    Pairwise fun first second => Disjoint (regions first) (regions second) := by
  intro first second hne
  cases first <;> cases second
  · exact absurd rfl hne
  · exact hdisjoint
  · exact hdisjoint.symm
  · exact absurd rfl hne

theorem span_mono {base : U64} {size total : Nat} (hsize : size ≤ total) :
    span base size ⊆ span base total :=
  span_subset (BitVec.add_zero base).symm (by omega)

section SameOutside

variable {region other : Set U64} {before middle after : Memory}

theorem SameOutside.refl (region : Set U64) (memory : Memory) : SameOutside region memory memory :=
  fun _ _ => rfl

theorem SameOutside.mono (hsame : SameOutside region before after) (hsubset : region ⊆ other) :
    SameOutside other before after :=
  fun address haddress => hsame address (fun hmem => haddress (hsubset hmem))

theorem SameOutside.trans (hfirst : SameOutside region before middle)
    (hsecond : SameOutside region middle after) : SameOutside region before after :=
  fun address haddress => (hsecond address haddress).trans (hfirst address haddress)

theorem store_sameOutside (width : Nat) (memory : Memory) (address value : U64) :
    SameOutside (span address width) memory (store width memory address value) :=
  fun _ hother => if_neg hother

theorem writeBytes_sameOutside (memory : Memory) (address : U64) (bytes : List U8) :
    SameOutside (span address bytes.length) memory (writeBytes memory address bytes) := by
  intro other hother
  rw [mem_span, not_lt] at hother
  rw [writeBytes, List.getElem?_eq_none hother]
  rfl

theorem write64_sameOutside (memory : Memory) (address value : U64) :
    SameOutside (span address 8) memory (memory.write64 address value) :=
  store_sameOutside 8 memory address value

/-- What a store makes of a byte depends on memory only outside the store. -/
theorem write64_congr {left right : Memory} {address other : U64} (value : U64)
    (hsame : other ∉ span address 8 → left other = right other) :
    left.write64 address value other = right.write64 address value other := by
  by_cases hinside : (other - address).toNat < 8
  · rw [write64, write64, if_pos hinside, if_pos hinside]
  · rw [write64, write64, if_neg hinside, if_neg hinside]
    exact hsame hinside

/-- Words outside the changed region stay. -/
theorem Holds.outside {address : U64} {words : List U64} (hwords : before.Holds address words)
    (hsame : SameOutside region before after)
    (hdisjoint : Disjoint (span address (8 * words.length)) region) :
    after.Holds address words := by
  apply hwords.congr
  intro offset hoffset
  exact hsame _ (Set.disjoint_left.mp hdisjoint (offset_mem_span hoffset))

end SameOutside

/-- Two words that do not overlap. -/
def Apart (left right : U64) : Prop :=
  8 ≤ (left - right).toNat ∧ 8 ≤ (right - left).toNat

instance (left right : U64) : Decidable (Apart left right) :=
  inferInstanceAs (Decidable (_ ∧ _))

theorem read64_write64_apart {memory : Memory} {address other : U64} (value : U64)
    (hapart : Apart address other) :
    (memory.write64 address value).read64 other = memory.read64 other := by
  apply read64_congr
  intro offset hoffset
  apply write64_outside
  obtain ⟨habove, hbelow⟩ := hapart
  bv_omega

/-- Words stored one after the other at offsets from a base. -/
def storeAll (memory : Memory) (base : U64) (entries : List (U64 × U64)) : Memory :=
  entries.foldl (fun memory entry => memory.write64 (base + entry.1) entry.2) memory

@[simp] theorem storeAll_cons (memory : Memory) (base : U64) (entry : U64 × U64)
    (rest : List (U64 × U64)) :
    memory.storeAll base (entry :: rest) =
      (memory.write64 (base + entry.1) entry.2).storeAll base rest := rfl

theorem storeAll_other {memory : Memory} {base offset : U64} {entries : List (U64 × U64)}
    (hapart : ∀ entry ∈ entries, Apart entry.1 offset) :
    (memory.storeAll base entries).read64 (base + offset) = memory.read64 (base + offset) := by
  induction entries generalizing memory with
  | nil => rfl
  | cons entry rest ih =>
      obtain ⟨hentry, hrest⟩ := List.forall_mem_cons.mp hapart
      have hmoved : Apart (base + entry.1) (base + offset) := by
        have hdiff (left right : U64) : base + left - (base + right) = left - right := by bv_omega
        rwa [Apart, hdiff, hdiff]
      rw [storeAll_cons, ih hrest, read64_write64_apart _ hmoved]

/-- Each stored word is read back if no two of them overlap. -/
theorem read64_storeAll {memory : Memory} {base : U64} {entries : List (U64 × U64)}
    (hapart : entries.Pairwise fun left right => Apart left.1 right.1) {entry : U64 × U64}
    (hentry : entry ∈ entries) :
    (memory.storeAll base entries).read64 (base + entry.1) = entry.2 := by
  induction entries generalizing memory with
  | nil => cases hentry
  | cons first rest ih =>
      obtain ⟨hfirst, hrest⟩ := List.pairwise_cons.mp hapart
      rcases List.mem_cons.mp hentry with rfl | hmem
      · rw [storeAll_cons, storeAll_other, read64_write64]
        intro other hother
        exact (hfirst other hother).symm
      · exact ih hrest hmem

theorem storeAll_sameOutside {base : U64} {size : Nat} (memory : Memory)
    {entries : List (U64 × U64)} (hroom : ∀ entry ∈ entries, entry.1.toNat + 8 ≤ size) :
    SameOutside (span base size) memory (memory.storeAll base entries) := by
  induction entries generalizing memory with
  | nil => exact SameOutside.refl _ _
  | cons entry rest ih =>
      obtain ⟨hentry, hrest⟩ := List.forall_mem_cons.mp hroom
      have hfirst := write64_sameOutside memory (base + entry.1) entry.2
      have hinside : span (base + entry.1) 8 ⊆ span base size :=
        span_subset (by rw [BitVec.ofNat_toNat, BitVec.setWidth_eq]) hentry
      exact (hfirst.mono hinside).trans (ih _ hrest)

/-- Words stored one after the other from an address upwards. -/
def writeWords (memory : Memory) (address : U64) : List U64 → Memory
  | [] => memory
  | word :: rest => writeWords (memory.write64 address word) (address + 8#64) rest

theorem writeWords_sameOutside (memory : Memory) (address : U64) (words : List U64) :
    SameOutside (span address (8 * words.length)) memory (memory.writeWords address words) := by
  induction words generalizing memory address with
  | nil => exact SameOutside.refl _ _
  | cons word rest ih =>
      rw [List.length_cons]
      apply SameOutside.trans
      · exact (write64_sameOutside memory address word).mono (span_mono (by omega))
      · exact (ih _ _).mono (span_subset (show _ = _ + BitVec.ofNat 64 8 from rfl) (by omega))

theorem writeWords_holds (memory : Memory) (address : U64) {words : List U64}
    (hroom : 8 * words.length ≤ 2 ^ 64) :
    (memory.writeWords address words).Holds address words := by
  induction words generalizing memory address with
  | nil => trivial
  | cons word rest ih =>
      rw [List.length_cons] at hroom
      refine ⟨?_, ih _ _ (by omega)⟩
      have hlater := writeWords_sameOutside (memory.write64 address word) (address + 8#64) rest
      apply Eq.trans _ (read64_write64 memory address word)
      apply read64_congr
      intro offset hoffset
      apply hlater
      rw [mem_span]
      have hdiff : address + BitVec.ofNat 64 offset - (address + 8#64) =
          BitVec.ofNat 64 offset - 8#64 := by bv_omega
      rw [hdiff]
      bv_omega

theorem Holds.append {memory : Memory} {address : U64} {words rest : List U64}
    (hwords : memory.Holds address words)
    (hrest : memory.Holds (address + BitVec.ofNat 64 (8 * words.length)) rest) :
    memory.Holds address (words ++ rest) := by
  induction words generalizing address with
  | nil => rwa [List.length_nil, Nat.mul_zero, BitVec.add_zero] at hrest
  | cons word more ih =>
      refine ⟨hwords.1, ih hwords.2 ?_⟩
      rwa [BitVec.add_assoc, ← BitVec.ofNat_add, Nat.add_comm 8, ← Nat.mul_succ]

/-- A store at an offset from a base. -/
structure FieldStore where
  offset : Nat
  width : Nat
  value : U64

/-- Stores of any widths, one after the other. -/
def storeFields (memory : Memory) (base : U64) (fields : List FieldStore) : Memory :=
  fields.foldl
    (fun memory field => store field.width memory (base + BitVec.ofNat 64 field.offset) field.value)
    memory

/-- What a sequence of stores leaves at an offset: a byte of the last store that
covers it. -/
def fieldByte (fields : List FieldStore) (offset : Nat) (byte : U8) : U8 :=
  fields.foldl
    (fun byte field =>
      if field.offset ≤ offset ∧ offset < field.offset + field.width then
        field.value.extractLsb' (8 * (offset - field.offset)) 8
      else byte)
    byte

theorem store_at_offset (memory : Memory) (base : U64) (field : FieldStore) {offset size : Nat}
    (hfield : field.offset + field.width ≤ size) (hsize : size ≤ 2 ^ 63) (hoffset : offset < size) :
    store field.width memory (base + BitVec.ofNat 64 field.offset) field.value
        (base + BitVec.ofNat 64 offset) =
      if field.offset ≤ offset ∧ offset < field.offset + field.width then
        field.value.extractLsb' (8 * (offset - field.offset)) 8
      else memory (base + BitVec.ofNat 64 offset) := by
  have hdiff : base + BitVec.ofNat 64 offset - (base + BitVec.ofNat 64 field.offset) =
      BitVec.ofNat 64 offset - BitVec.ofNat 64 field.offset := by bv_omega
  rw [store, hdiff, BitVec.toNat_sub, BitVec.toNat_ofNat, BitVec.toNat_ofNat]
  by_cases hcovered : field.offset ≤ offset ∧ offset < field.offset + field.width
  · have hindex : (2 ^ 64 - field.offset % 2 ^ 64 + offset % 2 ^ 64) % 2 ^ 64 =
        offset - field.offset := by omega
    rw [hindex, if_pos (by omega), if_pos hcovered]
  · rw [if_neg (by omega), if_neg hcovered]

theorem storeFields_byte (memory : Memory) (base : U64) {fields : List FieldStore}
    {offset size : Nat} (hfields : ∀ field ∈ fields, field.offset + field.width ≤ size)
    (hsize : size ≤ 2 ^ 63) (hoffset : offset < size) :
    storeFields memory base fields (base + BitVec.ofNat 64 offset) =
      fieldByte fields offset (memory (base + BitVec.ofNat 64 offset)) := by
  induction fields generalizing memory with
  | nil => rfl
  | cons field rest ih =>
      obtain ⟨hfield, hrest⟩ := List.forall_mem_cons.mp hfields
      have hfirst := store_at_offset memory base field hfield hsize hoffset
      have hlater := ih (store field.width memory (base + BitVec.ofNat 64 field.offset) field.value)
        hrest
      rw [hfirst] at hlater
      exact hlater

theorem storeFields_sameOutside (memory : Memory) (base : U64) {fields : List FieldStore}
    {size : Nat} (hfields : ∀ field ∈ fields, field.offset + field.width ≤ size) :
    SameOutside (span base size) memory (storeFields memory base fields) := by
  induction fields generalizing memory with
  | nil => exact SameOutside.refl _ _
  | cons field rest ih =>
      obtain ⟨hfield, hrest⟩ := List.forall_mem_cons.mp hfields
      have hfirst := store_sameOutside field.width memory (base + BitVec.ofNat 64 field.offset)
        field.value
      exact (hfirst.mono (span_subset rfl hfield)).trans (ih _ hrest)

end Memory

end UnboundOS.X86
