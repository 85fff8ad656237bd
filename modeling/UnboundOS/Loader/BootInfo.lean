import UnboundOS.Loader.Stage2

/-!
The hand-off from Stage 2 to the kernel: the `BootInfo` that Stage 2 stores at
`0x70000` with the memory map it points to, the `repr(C)` layouts the kernel
reads both through (`boot_info.rs`), and the checks of `_start`.
-/

namespace UnboundOS.Loader

open X86 X86.Memory

structure BootInfo where
  magic : U64
  version : U32
  size : U32
  bootDrive : U8
  reserved : Fin 7 → U8
  kernelPhysStart : U64
  kernelPhysEnd : U64
  memoryMapAddr : U64
  memoryMapCount : U32
  memoryMapEntrySize : U32
  reserved2 : U64
deriving DecidableEq

structure MemoryMapEntry where
  baseAddr : U64
  length : U64
  entryType : U32
  attributes : U32
deriving DecidableEq

def bootInfoMagic : U64 := 0x554E424F554E4442#64
def bootInfoVersion : U32 := 2#32
def memoryMapEntrySize : U32 := 24#32
def bootInfoSize : U32 := 64#32
def bootInfoAddress : U64 := 0x70000#64

/-- A `BootInfo` in memory. -/
def readBootInfo (memory : Memory) (address : U64) : BootInfo where
  magic := memory.read64 address
  version := memory.read32 (address + 0x08#64)
  size := memory.read32 (address + 0x0C#64)
  bootDrive := memory (address + 0x10#64)
  reserved := fun index => memory (address + 0x11#64 + BitVec.ofNat 64 index)
  kernelPhysStart := memory.read64 (address + 0x18#64)
  kernelPhysEnd := memory.read64 (address + 0x20#64)
  memoryMapAddr := memory.read64 (address + 0x28#64)
  memoryMapCount := memory.read32 (address + 0x30#64)
  memoryMapEntrySize := memory.read32 (address + 0x34#64)
  reserved2 := memory.read64 (address + 0x38#64)

/-- A `MemoryMapEntry` in memory. -/
def readEntry (memory : Memory) (address : U64) : MemoryMapEntry where
  baseAddr := memory.read64 address
  length := memory.read64 (address + 0x08#64)
  entryType := memory.read32 (address + 0x10#64)
  attributes := memory.read32 (address + 0x14#64)

/-- The entries a `BootInfo` points to. -/
def readEntries (memory : Memory) (info : BootInfo) : List MemoryMapEntry :=
  (List.range info.memoryMapCount.toNat).map fun index =>
    readEntry memory (info.memoryMapAddr + BitVec.ofNat 64 (24 * index))

/-- `elf_segments_done` up to the ready message: the stores in their order. The
reserved bytes are zeroed together with the boot drive, which is stored next. -/
def buildBootInfo (bootDrive : U8) (memoryMapCount : U16) (r10 r11 : U64) (memory : Memory) :
    Memory :=
  let rdi := bootInfoAddress
  let memory := store 8 memory (rdi + 0x00#64) 0x554E424F554E4442#64
  let memory := store 4 memory (rdi + 0x08#64) 2#64
  let memory := store 4 memory (rdi + 0x0C#64) 64#64
  let memory := store 8 memory (rdi + 0x10#64) 0#64
  let memory := store 1 memory (rdi + 0x10#64) (bootDrive.setWidth 64)
  let memory := store 8 memory (rdi + 0x18#64) r10
  let memory := store 8 memory (rdi + 0x20#64) r11
  let memory := store 8 memory (rdi + 0x28#64) 0x60000#64
  let memory := store 4 memory (rdi + 0x30#64) (memoryMapCount.setWidth 64)
  let memory := store 4 memory (rdi + 0x34#64) 24#64
  store 8 memory (rdi + 0x38#64) 0#64

/-- Why `_start` halts. -/
inductive Rejection where
  | null
  | badMagic
  | badVersion
  | badMemoryMapAddress
  | badMemoryMapCount
  | badMemoryMapEntrySize
  | badSize
  | badKernelRange
deriving DecidableEq

def Rejection.message : Rejection → String
  | .null => "BOOTINFO NULL\r\n"
  | .badMagic => "BAD MAGIC\r\n"
  | .badVersion => "BAD VERSION\r\n"
  | .badMemoryMapAddress => "BAD MEMORY MAP ADDRESS\r\n"
  | .badMemoryMapCount => "BAD MEMORY MAP COUNT\r\n"
  | .badMemoryMapEntrySize => "BAD MEMORY MAP ENTRY SIZE\r\n"
  | .badSize => "BAD SIZE\r\n"
  | .badKernelRange => "BAD KERNEL RANGE\r\n"

/-- The validation in `_start`, in its order. -/
def validateBootInfo (pointer : U64) (info : BootInfo) : Except Rejection Unit :=
  if pointer = 0#64 then .error .null
  else if info.magic ≠ bootInfoMagic then .error .badMagic
  else if info.version ≠ bootInfoVersion then .error .badVersion
  else if info.memoryMapAddr = 0#64 then .error .badMemoryMapAddress
  else if info.memoryMapCount = 0#32 then .error .badMemoryMapCount
  else if info.memoryMapEntrySize ≠ memoryMapEntrySize then .error .badMemoryMapEntrySize
  else if info.size < bootInfoSize then .error .badSize
  else if info.kernelPhysEnd ≤ info.kernelPhysStart then .error .badKernelRange
  else .ok ()

/-- A kernel range that is empty is rejected whatever else the `BootInfo` says. -/
theorem validateBootInfo_range {pointer : U64} {info : BootInfo}
    (hrange : info.kernelPhysEnd ≤ info.kernelPhysStart) :
    validateBootInfo pointer info ≠ .ok () := by
  rw [validateBootInfo]
  split_ifs <;> simp

/-- The `BootInfo` with the given variable fields. -/
def handOffInfo (bootDrive : U8) (memoryMapCount : U16) (r10 r11 : U64) : BootInfo where
  magic := bootInfoMagic
  version := 2#32
  size := 64#32
  bootDrive := bootDrive
  reserved := fun _ => 0#8
  kernelPhysStart := r10
  kernelPhysEnd := r11
  memoryMapAddr := 0x60000#64
  memoryMapCount := memoryMapCount.setWidth 32
  memoryMapEntrySize := 24#32
  reserved2 := 0#64

/-- The stores of `elf_segments_done`, by offset and width. -/
def bootInfoFields (bootDrive : U8) (memoryMapCount : U16) (r10 r11 : U64) : List FieldStore :=
  [⟨0x00, 8, 0x554E424F554E4442#64⟩, ⟨0x08, 4, 2#64⟩, ⟨0x0C, 4, 64#64⟩, ⟨0x10, 8, 0#64⟩,
    ⟨0x10, 1, bootDrive.setWidth 64⟩, ⟨0x18, 8, r10⟩, ⟨0x20, 8, r11⟩, ⟨0x28, 8, 0x60000#64⟩,
    ⟨0x30, 4, memoryMapCount.setWidth 64⟩, ⟨0x34, 4, 24#64⟩, ⟨0x38, 8, 0#64⟩]

theorem buildBootInfo_eq (bootDrive : U8) (memoryMapCount : U16) (r10 r11 : U64)
    (memory : Memory) :
    buildBootInfo bootDrive memoryMapCount r10 r11 memory =
      memory.storeFields bootInfoAddress (bootInfoFields bootDrive memoryMapCount r10 r11) :=
  rfl

theorem bootInfoFields_size (bootDrive : U8) (memoryMapCount : U16) (r10 r11 : U64) :
    ∀ field ∈ bootInfoFields bootDrive memoryMapCount r10 r11, field.offset + field.width ≤ 64 := by
  simp [bootInfoFields]

theorem buildBootInfo_memory (bootDrive : U8) (memoryMapCount : U16) (r10 r11 : U64)
    (memory : Memory) :
    SameOutside (span bootInfoAddress 64) memory
      (buildBootInfo bootDrive memoryMapCount r10 r11 memory) :=
  storeFields_sameOutside memory bootInfoAddress (bootInfoFields_size _ _ _ _)

/-- What Stage 2 builds is what the kernel reads. -/
theorem readBootInfo_buildBootInfo (bootDrive : U8) (memoryMapCount : U16) (r10 r11 : U64)
    (memory : Memory) :
    readBootInfo (buildBootInfo bootDrive memoryMapCount r10 r11 memory) bootInfoAddress =
      handOffInfo bootDrive memoryMapCount r10 r11 := by
  have hbyte (offset : Nat) (hoffset : offset < 64) :=
    storeFields_byte memory bootInfoAddress (bootInfoFields_size bootDrive memoryMapCount r10 r11)
      (by decide) hoffset
  rw [← buildBootInfo_eq] at hbyte
  generalize buildBootInfo bootDrive memoryMapCount r10 r11 memory = built at hbyte
  have hword (start : Nat) (value : U64) (hstart : start + 8 ≤ 64)
      (hbytes : ∀ offset < 8, ∀ byte, fieldByte (bootInfoFields bootDrive memoryMapCount r10 r11)
        (start + offset) byte = value.extractLsb' (8 * offset) 8) :
      built.read64 (bootInfoAddress + BitVec.ofNat 64 start) = value := by
    apply read64_of_bytes
    intro offset hoffset
    rw [BitVec.add_assoc, ← BitVec.ofNat_add, hbyte _ (by omega), hbytes offset hoffset]
  have hdword (start : Nat) (value : U64) (hstart : start + 4 ≤ 64)
      (hbytes : ∀ offset < 4, ∀ byte, fieldByte (bootInfoFields bootDrive memoryMapCount r10 r11)
        (start + offset) byte = value.extractLsb' (8 * offset) 8) :
      built.read32 (bootInfoAddress + BitVec.ofNat 64 start) = value.setWidth 32 := by
    apply read32_of_bytes
    intro offset hoffset
    rw [BitVec.add_assoc, ← BitVec.ofNat_add, hbyte _ (by omega), hbytes offset hoffset]
  have hmagic := hword 0x00 0x554E424F554E4442#64 (by decide)
    (by intro offset hoffset byte; interval_cases offset <;> rfl)
  have hversion := hdword 0x08 2#64 (by decide)
    (by intro offset hoffset byte; interval_cases offset <;> rfl)
  have hsize := hdword 0x0C 64#64 (by decide)
    (by intro offset hoffset byte; interval_cases offset <;> rfl)
  have hstart := hword 0x18 r10 (by decide)
    (by intro offset hoffset byte; interval_cases offset <;> rfl)
  have hend := hword 0x20 r11 (by decide)
    (by intro offset hoffset byte; interval_cases offset <;> rfl)
  have hmap := hword 0x28 0x60000#64 (by decide)
    (by intro offset hoffset byte; interval_cases offset <;> rfl)
  have hcount := hdword 0x30 (memoryMapCount.setWidth 64) (by decide)
    (by intro offset hoffset byte; interval_cases offset <;> rfl)
  have hentrySize := hdword 0x34 24#64 (by decide)
    (by intro offset hoffset byte; interval_cases offset <;> rfl)
  have hreserved2 := hword 0x38 0#64 (by decide)
    (by intro offset hoffset byte; interval_cases offset <;> rfl)
  have hdrive : built (bootInfoAddress + 0x10#64) = bootDrive := by
    rw [hbyte 0x10 (by decide)]
    change (bootDrive.setWidth 64).extractLsb' 0 8 = bootDrive
    refine BitVec.eq_of_getLsbD_eq fun bit hbit => ?_
    simp [hbit, show bit < 64 by omega]
  have hreserved (index : Fin 7) :
      built (bootInfoAddress + 0x11#64 + BitVec.ofNat 64 index) = 0#8 := by
    rw [BitVec.add_assoc, ← BitVec.ofNat_add, hbyte _ (by omega)]
    fin_cases index <;> rfl
  rw [BitVec.add_zero] at hmagic
  rw [BitVec.setWidth_setWidth_of_le _ (by decide)] at hcount
  rw [readBootInfo, hmagic, hversion, hsize, hdrive, hstart, hend, hmap, hcount, hentrySize,
    hreserved2]
  simp only [hreserved]
  rfl

/-- The bytes of a value, low ones first. -/
def littleEndian (width : Nat) (value : U64) : List U8 :=
  (List.range width).map fun index => value.extractLsb' (8 * index) 8

/-- The twenty bytes of an entry without attributes. -/
def entryHead (entry : MemoryMapEntry) : List U8 :=
  littleEndian 8 entry.baseAddr ++ (littleEndian 8 entry.length ++
    littleEndian 4 (entry.entryType.setWidth 64))

/-- An entry as the firmware lays it out. -/
def entryBytes (entry : MemoryMapEntry) : List U8 :=
  entryHead entry ++ littleEndian 4 (entry.attributes.setWidth 64)

/-- The firmware's reply for an entry, with or without its attributes. -/
structure Fills (reply : Reply) (entry : MemoryMapEntry) (attributes : Bool) : Prop where
  carry : reply.carry = false
  eax : reply.eax = smap
  ecx : reply.ecx = if attributes then 24#32 else 20#32
  bytes : reply.bytes = (entryBytes entry).take (if attributes then 24 else 20)

/-- The entry the kernel is to see: without attributes they are valid. -/
def handedOver (entry : MemoryMapEntry) (attributes : Bool) : MemoryMapEntry :=
  if attributes then entry else {entry with attributes := 1#32}

section Entries

variable {reply : Reply} {entry : MemoryMapEntry} {attributes : Bool}

theorem Fills.accepted (hfills : Fills reply entry attributes) : reply.Accepted := by
  refine ⟨hfills.carry, hfills.eax, ?_⟩
  rw [hfills.ecx]
  cases attributes <;> decide

theorem littleEndian_getElem {width index : Nat} (hindex : index < width) (value : U64) :
    (littleEndian width value)[index]? = some (value.extractLsb' (8 * index) 8) := by
  rw [littleEndian, List.getElem?_map, List.getElem?_range hindex]
  rfl

@[simp] theorem littleEndian_length (width : Nat) (value : U64) :
    (littleEndian width value).length = width := by
  rw [littleEndian, List.length_map, List.length_range]

@[simp] theorem entryHead_length (entry : MemoryMapEntry) : (entryHead entry).length = 20 := by
  simp [entryHead]

@[simp] theorem entryBytes_length (entry : MemoryMapEntry) : (entryBytes entry).length = 24 := by
  simp [entryBytes]

/-- The bytes an entry of the table ends up with. -/
theorem Fills.entryByte (hfills : Fills reply entry attributes) {offset : Nat}
    (hoffset : offset < 24) :
    (entryBytes (handedOver entry attributes))[offset]? = some (Loader.entryByte reply offset) := by
  rw [Loader.entryByte, hfills.bytes, handedOver]
  cases attributes with
  | true =>
      rw [if_pos rfl, if_pos rfl, List.getElem?_take_of_lt hoffset,
        List.getElem?_eq_getElem (by rwa [entryBytes_length])]
      rfl
  | false =>
      rw [if_neg Bool.false_ne_true, if_neg Bool.false_ne_true, entryBytes]
      change (entryHead entry ++ _)[offset]? = _
      by_cases hstored : offset < 20
      · have hhead : offset < (entryHead entry).length := by rwa [entryHead_length]
        rw [List.getElem?_take_of_lt hstored, entryBytes, List.getElem?_append_left hhead,
          List.getElem?_append_left hhead, List.getElem?_eq_getElem hhead]
        rfl
      · rw [List.getElem?_take_eq_none (by omega), List.getElem?_append_right (by simp; omega),
          entryHead_length, littleEndian_getElem (by omega)]
        rfl

variable {memory : Memory} {address : U64}

/-- An entry whose bytes are in memory is read back. -/
theorem readEntry_of_bytes
    (hbytes : ∀ offset < 24, (entryBytes entry)[offset]? =
      some (memory (address + BitVec.ofNat 64 offset))) : readEntry memory address = entry := by
  have hfield (start width : Nat) (value : U64) (hroom : start + width ≤ 24)
      (hvalue : ∀ offset < width, (entryBytes entry)[start + offset]? =
        some (value.extractLsb' (8 * offset) 8)) :
      ∀ offset < width, memory (address + BitVec.ofNat 64 start + BitVec.ofNat 64 offset) =
        value.extractLsb' (8 * offset) 8 := by
    intro offset hoffset
    have hbyte := hbytes (start + offset) (by omega)
    rw [hvalue offset hoffset] at hbyte
    rw [BitVec.add_assoc, ← BitVec.ofNat_add]
    exact (Option.some.inj hbyte).symm
  have hbase := read64_of_bytes (hfield 0 8 entry.baseAddr (by decide) (by
    intro offset hoffset
    rw [Nat.zero_add, entryBytes, List.getElem?_append_left (by simp; omega), entryHead,
      List.getElem?_append_left (by simp; omega), littleEndian_getElem hoffset]))
  have hlength := read64_of_bytes (hfield 8 8 entry.length (by decide) (by
    intro offset hoffset
    rw [entryBytes, List.getElem?_append_left (by simp; omega), entryHead,
      List.getElem?_append_right (by simp), littleEndian_length, Nat.add_sub_cancel_left,
      List.getElem?_append_left (by simp; omega), littleEndian_getElem hoffset]))
  have htype := read32_of_bytes (hfield 16 4 (entry.entryType.setWidth 64) (by decide) (by
    intro offset hoffset
    have hindex : 16 + offset - 8 = 8 + offset := by omega
    rw [entryBytes, List.getElem?_append_left (by simp; omega), entryHead,
      List.getElem?_append_right (by simp; omega), littleEndian_length, hindex,
      List.getElem?_append_right (by simp), littleEndian_length, Nat.add_sub_cancel_left,
      littleEndian_getElem hoffset]))
  have hattributes := read32_of_bytes (hfield 20 4 (entry.attributes.setWidth 64) (by decide) (by
    intro offset hoffset
    rw [entryBytes, List.getElem?_append_right (by simp), entryHead_length,
      Nat.add_sub_cancel_left, littleEndian_getElem hoffset]))
  rw [BitVec.add_zero] at hbase
  rw [BitVec.setWidth_setWidth_of_le _ (by decide), BitVec.setWidth_eq] at htype hattributes
  rw [readEntry, hbase, hlength, htype, hattributes]

end Entries

/-- Stage 2 from `elf_segments_done` to the jump into the kernel. -/
def handOff (bootDrive : U8) (memoryMapCount : U16) (r10 r11 : U64) (readyMessage : Printed U64)
    (memory : Memory) : Memory :=
  (serialWriteString64 readyMessage
    ⟨buildBootInfo bootDrive memoryMapCount r10 r11 memory, []⟩).memory

/-- The firmware delivers a list of entries, each with or without attributes. -/
structure Delivers (bios : Nat → Reply) (entries : List (MemoryMapEntry × Bool)) : Prop where
  fills : ∀ index entry, entries[index]? = some entry → Fills (bios index) entry.1 entry.2
  more : ∀ index, index + 1 < entries.length → (bios index).ebx ≠ 0#32
  last : 0 < entries.length →
    entries.length = 128 ∨ (bios (entries.length - 1)).ebx = 0#32

section HandOff

variable {bios : Nat → Reply} {entries : List (MemoryMapEntry × Bool)} {before after : Memory}
  (bootDrive : U8) (memoryMapCount : U16) (r10 r11 : U64) (readyMessage : Printed U64)

theorem readBootInfo_congr {address : U64}
    (hsame : ∀ offset < 64, after (address + BitVec.ofNat 64 offset) =
      before (address + BitVec.ofNat 64 offset)) :
    readBootInfo after address = readBootInfo before address := by
  have hshift (start offset : Nat) (hroom : start + offset < 64) :
      after (address + BitVec.ofNat 64 start + BitVec.ofNat 64 offset) =
        before (address + BitVec.ofNat 64 start + BitVec.ofNat 64 offset) := by
    rw [BitVec.add_assoc, ← BitVec.ofNat_add]
    exact hsame _ hroom
  have hword (start : Nat) (hstart : start + 8 ≤ 64) :
      after.read64 (address + BitVec.ofNat 64 start) =
        before.read64 (address + BitVec.ofNat 64 start) :=
    read64_congr fun offset hoffset => hshift start offset (by omega)
  have hdword (start : Nat) (hstart : start + 4 ≤ 64) :
      after.read32 (address + BitVec.ofNat 64 start) =
        before.read32 (address + BitVec.ofNat 64 start) :=
    read32_congr fun offset hoffset => hshift start offset (by omega)
  have hmagic := hword 0 (by decide)
  rw [BitVec.add_zero] at hmagic
  have hreserved (index : Fin 7) : after (address + 0x11#64 + BitVec.ofNat 64 index) =
      before (address + 0x11#64 + BitVec.ofNat 64 index) := hshift 0x11 index (by omega)
  rw [readBootInfo, hmagic, hdword 0x08 (by decide), hdword 0x0C (by decide),
    hsame 0x10 (by decide), hword 0x18 (by decide), hword 0x20 (by decide), hword 0x28 (by decide),
    hdword 0x30 (by decide), hdword 0x34 (by decide), hword 0x38 (by decide)]
  simp only [hreserved]
  rfl

/-- The hand-off writes the `BootInfo` and the stack. -/
theorem handOff_memory (memory : Memory) :
    SameOutside (span 0x8FFE0#64 32) (buildBootInfo bootDrive memoryMapCount r10 r11 memory)
      (handOff bootDrive memoryMapCount r10 r11 readyMessage memory) :=
  Ram.serialWriteString64_memory readyMessage _

theorem readBootInfo_handOff (memory : Memory) :
    readBootInfo (handOff bootDrive memoryMapCount r10 r11 readyMessage memory) bootInfoAddress =
      handOffInfo bootDrive memoryMapCount r10 r11 := by
  rw [← readBootInfo_buildBootInfo bootDrive memoryMapCount r10 r11 memory]
  apply readBootInfo_congr
  intro offset hoffset
  apply handOff_memory
  rw [mem_span, bootInfoAddress]
  bv_omega

/-- The hand-off leaves the table alone. -/
theorem handOff_table (memory : Memory) {index offset : Nat} (hindex : index < 128)
    (hoffset : offset < 24) :
    handOff bootDrive memoryMapCount r10 r11 readyMessage memory
        (tableEntry index + BitVec.ofNat 64 offset) =
      memory (tableEntry index + BitVec.ofNat 64 offset) := by
  have hstep : 24 * index ≤ 3048 := by omega
  rw [handOff_memory, buildBootInfo_memory]
  · rw [mem_span, bootInfoAddress, tableEntry]
    generalize 24 * index = step at *
    bv_omega
  · rw [mem_span, tableEntry]
    generalize 24 * index = step at *
    bv_omega

/-- The kernel accepts the hand-off if there are entries and the range is not
empty. -/
theorem validate_handOffInfo :
    validateBootInfo bootInfoAddress (handOffInfo bootDrive memoryMapCount r10 r11) = .ok () ↔
      memoryMapCount ≠ 0#16 ∧ r10 < r11 := by
  have hcount : memoryMapCount.setWidth 32 = 0#32 ↔ memoryMapCount = 0#16 := by bv_omega
  have haddress : bootInfoAddress ≠ 0#64 := by decide
  have hmap : (0x60000#64 : U64) ≠ 0#64 := by decide
  have hsize : ¬ 64#32 < bootInfoSize := by decide
  simp only [validateBootInfo, handOffInfo, bootInfoVersion, memoryMapEntrySize, haddress, hmap,
    hsize, hcount, ne_eq, not_true_eq_false, if_false]
  rw [← BitVec.not_le]
  by_cases hzero : memoryMapCount = 0#16
  · simp [hzero]
  · by_cases hrange : r11 ≤ r10
    · simp [hzero, hrange]
    · simp [hzero, hrange]

theorem Delivers.accepted (hdelivers : Delivers bios entries) :
    ∀ index < entries.length, (bios index).Accepted := by
  intro index hindex
  exact (hdelivers.fills index _ (List.getElem?_eq_getElem hindex)).accepted

/-- The kernel reads the entries that were delivered. -/
theorem readEntries_handOff (hcount : entries.length ≤ 128) (hdelivers : Delivers bios entries)
    (ram : Ram) {loaded : Memory}
    (hkept : ∀ address ∈ span 0x60000#64 (24 * entries.length),
      loaded address = (e820After bios ram entries.length).ram.memory address) :
    readEntries (handOff bootDrive (BitVec.ofNat 16 entries.length) r10 r11 readyMessage loaded)
        (handOffInfo bootDrive (BitVec.ofNat 16 entries.length) r10 r11) =
      entries.map (fun entry => handedOver entry.1 entry.2) := by
  have hlength : ((BitVec.ofNat 16 entries.length).setWidth 32).toNat = entries.length := by
    rw [BitVec.toNat_setWidth, BitVec.toNat_ofNat]
    omega
  rw [readEntries, handOffInfo, hlength]
  apply List.ext_getElem?
  intro index
  by_cases hindex : index < entries.length
  · obtain ⟨entry, hentry⟩ : ∃ entry, entries[index]? = some entry :=
      ⟨_, List.getElem?_eq_getElem hindex⟩
    rw [List.getElem?_map, List.getElem?_range hindex, List.getElem?_map, hentry]
    simp only [Option.map_some]
    congr 1
    apply readEntry_of_bytes
    intro offset hoffset
    have hinside : tableEntry index + BitVec.ofNat 64 offset ∈
        span 0x60000#64 (24 * entries.length) := by
      rw [tableEntry, BitVec.add_assoc, ← BitVec.ofNat_add]
      exact offset_mem_span (by omega)
    rw [(hdelivers.fills index entry hentry).entryByte hoffset]
    change _ = some (handOff _ _ _ _ _ _ (tableEntry index + BitVec.ofNat 64 offset))
    rw [handOff_table bootDrive _ r10 r11 readyMessage loaded (by omega) hoffset,
      hkept _ hinside, e820After_entry hcount hdelivers.accepted hindex hoffset]
  · rw [List.getElem?_eq_none (by simpa using hindex),
      List.getElem?_eq_none (by simpa using hindex)]

end HandOff

/-- For every list of entries the firmware may deliver, every boot drive and
every kernel range, the kernel reads what Stage 2 was given, and accepts it if
and only if there is an entry and the range is not empty. `loaded` is memory at
`elf_segments_done`, in which the table is as `detect_memory_map` left it. -/
theorem boot_info_round_trip (bootDrive : U8) (kernelPhysStart kernelPhysEnd : U64)
    (entries : List (MemoryMapEntry × Bool)) (hcount : entries.length ≤ 128) (bios : Nat → Reply)
    (hdelivers : Delivers bios entries) (ram : Ram) (loaded : Memory)
    (hkept : ∀ address ∈ span 0x60000#64 (24 * entries.length),
      loaded address = (e820After bios ram entries.length).ram.memory address)
    (readyMessage : Printed U64) :
    let memory := handOff bootDrive (BitVec.ofNat 16 entries.length) kernelPhysStart kernelPhysEnd
      readyMessage loaded
    let info := readBootInfo memory bootInfoAddress
    (0 < entries.length → (detectMemoryMap bios ram).carry = false ∧
        (detectMemoryMap bios ram).count = BitVec.ofNat 16 entries.length ∧
        (detectMemoryMap bios ram).ram = (e820After bios ram entries.length).ram) ∧
      info = handOffInfo bootDrive (BitVec.ofNat 16 entries.length) kernelPhysStart kernelPhysEnd ∧
      readEntries memory info = entries.map (fun entry => handedOver entry.1 entry.2) ∧
      (validateBootInfo bootInfoAddress info = .ok () ↔
        0 < entries.length ∧ kernelPhysStart < kernelPhysEnd) := by
  intro memory info
  have hinfo : info = handOffInfo bootDrive (BitVec.ofNat 16 entries.length) kernelPhysStart
      kernelPhysEnd := readBootInfo_handOff _ _ _ _ _ _
  refine ⟨?_, hinfo, ?_, ?_⟩
  · intro hpositive
    rw [detectMemoryMap_of_accepted ram hpositive hcount hdelivers.accepted hdelivers.more
      (hdelivers.last hpositive)]
    exact ⟨rfl, (e820After_at bios ram hcount).si, rfl⟩
  · rw [hinfo]
    exact readEntries_handOff _ _ _ _ hcount hdelivers ram hkept
  · rw [hinfo, validate_handOffInfo]
    have hzero : BitVec.ofNat 16 entries.length ≠ 0#16 ↔ 0 < entries.length := by
      rw [ne_eq, ← BitVec.toNat_inj, BitVec.toNat_ofNat, BitVec.toNat_ofNat]
      omega
    rw [hzero]

/-- The firmware's reply for an entry. -/
def filledReply (entry : MemoryMapEntry) (attributes : Bool) (ebx : U32) : Reply where
  carry := false
  eax := smap
  ebx := ebx
  ecx := if attributes then 24#32 else 20#32
  bytes := (entryBytes entry).take (if attributes then 24 else 20)
  fits := by cases attributes <;> simp
  stored := by cases attributes <;> simp

/-- Conventional memory and what lies above one megabyte. -/
def twoEntries : List (MemoryMapEntry × Bool) :=
  [(⟨0#64, 0x9FC00#64, 1#32, 0#32⟩, false), (⟨0x100000#64, 0x7F00000#64, 1#32, 1#32⟩, true)]

def twoReplies : Nat → Reply
  | 0 => filledReply ⟨0#64, 0x9FC00#64, 1#32, 0#32⟩ false 1#32
  | _ => filledReply ⟨0x100000#64, 0x7F00000#64, 1#32, 1#32⟩ true 0#32

theorem twoReplies_deliver : Delivers twoReplies twoEntries where
  fills := by
    intro index entry hentry
    match index, hentry with
    | 0, rfl => exact ⟨rfl, rfl, rfl, rfl⟩
    | 1, rfl => exact ⟨rfl, rfl, rfl, rfl⟩
  more := by
    intro index hindex
    obtain rfl : index = 0 := by
      change index + 1 < 2 at hindex
      omega
    decide
  last := fun _ => .inr rfl

/-- Two entries, one of them without attributes, arrive and are accepted. -/
theorem two_entries_handed_over :
    let loaded := (e820After twoReplies ⟨fun _ => 0#8, []⟩ 2).ram.memory
    let memory := handOff 0x80#8 2#16 0x100000#64 0x180000#64 ⟨0#64, []⟩ loaded
    let info := readBootInfo memory bootInfoAddress
    readEntries memory info =
        [⟨0#64, 0x9FC00#64, 1#32, 1#32⟩, ⟨0x100000#64, 0x7F00000#64, 1#32, 1#32⟩] ∧
      validateBootInfo bootInfoAddress info = .ok () := by
  obtain ⟨_, _, hentries, haccepted⟩ := boot_info_round_trip 0x80#8 0x100000#64 0x180000#64
    twoEntries (by decide) twoReplies twoReplies_deliver ⟨fun _ => 0#8, []⟩
    (e820After twoReplies ⟨fun _ => 0#8, []⟩ 2).ram.memory (fun _ _ => rfl) ⟨0#64, []⟩
  exact ⟨hentries, haccepted.mpr ⟨by decide, by decide⟩⟩

end UnboundOS.Loader
