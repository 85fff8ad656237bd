import UnboundOS.Loader.Elf

/-!
The loop over the program headers: what one pass adds to memory and to the
range registers, and what is there at `elf_segments_done`. The file bytes that
arrive are those of the image with the return address of `memory_copy` pushed
into it, and the headers behind a segment are read with that of `memory_zero`
in them, so the loader is right for images that do not mind. Whether a header
is read as the file has it can be told from the image alone.
-/

namespace UnboundOS.Loader

open X86 X86.Machine X86.Memory

section Image

variable (memory : Memory)

def elfEntry : U64 :=
  memory.read64 (kernelBuffer + 0x18#64)

def elfPhentsize : U64 :=
  (memory.read16 (kernelBuffer + 0x36#64)).setWidth 64

def elfPhnum : Nat :=
  (memory.read16 (kernelBuffer + 0x38#64)).toNat

def headerAddress (index : Nat) : U64 :=
  kernelBuffer + memory.read64 (kernelBuffer + 0x20#64) +
    BitVec.ofNat 64 index * elfPhentsize memory

def segment (index : Nat) : ProgramHeader :=
  readProgramHeader memory (headerAddress memory index)

/-- The program headers with `p_type` `PT_LOAD`. -/
def loadable : Set Nat :=
  {index | index < elfPhnum memory ∧ (segment memory index).type = 1#32}

end Image

/-- What is asked of a segment: it fits into itself, its file bytes are in the
buffer, and it goes to mapped memory that Stage 2 does not need. -/
structure Loadable (header : ProgramHeader) : Prop where
  size : header.filesz.toNat ≤ header.memsz.toNat
  bounded : header.paddr.toNat + header.memsz.toNat < 2 ^ 64
  file : header.offset.toNat + header.filesz.toNat ≤ kernelBufferSize
  mapped : header.paddr.toNat + header.memsz.toNat ≤ 0x200000
  buffer : Disjoint header.destination (span kernelBuffer kernelBufferSize)
  stage2 : Disjoint header.destination (span 0x8000#64 0x4000)
  stack : Disjoint header.destination stackSlot

/-- An image in the kernel buffer that can be loaded. -/
structure ElfImage (memory : Memory) : Prop where
  identified : elfHeaderOk memory = true
  headers : ∀ index < elfPhnum memory,
    span (headerAddress memory index) 56 ⊆ span kernelBuffer kernelBufferSize
  segments : ∀ index ∈ loadable memory, Loadable (segment memory index)
  apart : ∀ left ∈ loadable memory, ∀ right ∈ loadable memory, left ≠ right →
    Disjoint (segment memory left).destination (segment memory right).destination

/-- No file byte of a segment changes when the return address of `memory_copy`
is pushed. -/
def FileBytesKept (memory : Memory) (copyReturn : U64) : Prop :=
  ∀ index ∈ loadable memory, ∀ address ∈ (segment memory index).source,
    memory.write64 0x8FFF8#64 copyReturn address = memory address

/-- The loaded kernel. Without a segment, the kernel refuses the range. -/
structure ElfLoaded (memory : Memory) (done : Machine) : Prop where
  file : ∀ index ∈ loadable memory, ∀ offset < (segment memory index).filesz.toNat,
    done.memory ((segment memory index).paddr + BitVec.ofNat 64 offset) =
      memory (kernelBuffer + (segment memory index).offset + BitVec.ofNat 64 offset)
  zero : ∀ index ∈ loadable memory, ∀ offset, (segment memory index).filesz.toNat ≤ offset →
    offset < (segment memory index).memsz.toNat →
    done.memory ((segment memory index).paddr + BitVec.ofNat 64 offset) = 0#8
  others : SameOutside (stackSlot ∪ ⋃ index ∈ loadable memory, (segment memory index).destination)
    memory done.memory
  kernelPhysStart : (loadable memory).Nonempty →
    IsLeast ((fun index => (segment memory index).paddr) '' loadable memory) (done.regs .r10)
  kernelPhysEnd : (loadable memory).Nonempty →
    IsGreatest ((fun index => (segment memory index).paddr + (segment memory index).memsz) ''
      loadable memory) (done.regs .r11)
  entry : done.regs .r12 = elfEntry memory
  rejected : loadable memory = ∅ → ∀ bootDrive memoryMapCount readyMessage,
    let info := readBootInfo (handOff bootDrive memoryMapCount (done.regs .r10) (done.regs .r11)
      readyMessage done.memory) bootInfoAddress
    info.kernelPhysEnd ≤ info.kernelPhysStart ∧ validateBootInfo bootInfoAddress info ≠ .ok ()

/-- The segments among the first headers. -/
def loadableBefore (memory : Memory) (count : Nat) : Set Nat :=
  {index | index < count ∧ index ∈ loadable memory}

/-- As far as the loader depends on it, the header is the one in the file. -/
structure ReadAsFiled (memory : Memory) (index : Nat) (header : ProgramHeader) : Prop where
  type_iff : header.type = 1#32 ↔ (segment memory index).type = 1#32
  same : (segment memory index).type = 1#32 → header.SameSegment (segment memory index)

theorem ReadAsFiled.refl (memory : Memory) (index : Nat) :
    ReadAsFiled memory index (segment memory index) :=
  ⟨Iff.rfl, fun _ => .refl _⟩

/-- The header does not mind the return addresses that are in the stack slot
when it is read. -/
structure HeaderKept (memory : Memory) (copyReturn zeroReturn : U64) (index : Nat) : Prop where
  /-- In its pass, if that is behind a segment. -/
  behind : (loadableBefore memory index).Nonempty → ReadAsFiled memory index
    (readProgramHeader (memory.write64 0x8FFF8#64 zeroReturn) (headerAddress memory index))
  /-- Between the two calls of its pass. -/
  between : index ∈ loadable memory →
    bssSize (memory.write64 0x8FFF8#64 copyReturn) (headerAddress memory index) =
      (segment memory index).memsz - (segment memory index).filesz

def HeadersKept (memory : Memory) (copyReturn zeroReturn : U64) : Prop :=
  ∀ index < elfPhnum memory, HeaderKept memory copyReturn zeroReturn index

/-- The pass over a header, begun in `state`, takes from memory what the file
has there. -/
structure HeaderRead (memory : Memory) (copyReturn : U64) (index : Nat) (state : Machine) :
    Prop where
  first : ReadAsFiled memory index (readProgramHeader state.memory (state.regs .rbx))
  second : index ∈ loadable memory → ∀ copied,
    callRoutine copyReturn memoryCopy (prepareCopy (state.setReg .rax 1#64)) = some copied →
    bssSize copied.memory (copied.regs .rbx) =
      (segment memory index).memsz - (segment memory index).filesz

/-- So does every pass of the loop. -/
def HeadersRead (copyReturn zeroReturn : U64) (self : Machine) : Prop :=
  ∀ index < elfPhnum self.memory, ∀ state,
    elfProgramLoop copyReturn zeroReturn index (readElfHeader self) = some state →
    HeaderRead self.memory copyReturn index state

/-- The loop before pass `count`. -/
structure LoadedTo (memory : Memory) (copyReturn zeroReturn : U64) (count : Nat)
    (state : Machine) : Prop where
  rbx : state.regs .rbx = headerAddress memory count
  r8 : state.regs .r8 = BitVec.ofNat 64 count
  r12 : state.regs .r12 = elfEntry memory
  r14 : state.regs .r14 = elfPhentsize memory
  r15 : state.regs .r15 = BitVec.ofNat 64 (elfPhnum memory)
  rsp : state.regs .rsp = 0x90000#64
  file : ∀ index ∈ loadableBefore memory count, ∀ offset < (segment memory index).filesz.toNat,
    state.memory ((segment memory index).paddr + BitVec.ofNat 64 offset) =
      memory.write64 0x8FFF8#64 copyReturn
        (kernelBuffer + (segment memory index).offset + BitVec.ofNat 64 offset)
  zero : ∀ index ∈ loadableBefore memory count, ∀ offset,
    (segment memory index).filesz.toNat ≤ offset → offset < (segment memory index).memsz.toNat →
    state.memory ((segment memory index).paddr + BitVec.ofNat 64 offset) = 0#8
  others : SameOutside
    (stackSlot ∪ ⋃ index ∈ loadableBefore memory count, (segment memory index).destination)
    memory state.memory
  unpushed : loadableBefore memory count = ∅ → state.memory = memory
  pushed : (loadableBefore memory count).Nonempty → ∀ address ∈ stackSlot,
    state.memory address = memory.write64 0x8FFF8#64 zeroReturn address
  lowest : Best (· ≤ ·) ((fun index => (segment memory index).paddr) '' loadableBefore memory count)
    0xFFFFFFFFFFFFFFFF#64 (state.regs .r10)
  highest : Best (· ≥ ·)
    ((fun index => (segment memory index).paddr + (segment memory index).memsz) ''
      loadableBefore memory count) 0#64 (state.regs .r11)

theorem Loadable.source_subset {header : ProgramHeader} (hheader : Loadable header) :
    header.source ⊆ span kernelBuffer kernelBufferSize := by
  have hstart : kernelBuffer + header.offset =
      kernelBuffer + BitVec.ofNat 64 header.offset.toNat := by
    rw [BitVec.ofNat_toNat, BitVec.setWidth_eq]
  exact span_subset hstart hheader.file

section Before

variable {memory : Memory} {count : Nat}

theorem loadableBefore_zero (memory : Memory) : loadableBefore memory 0 = ∅ := by
  ext index
  simp [loadableBefore]

theorem loadableBefore_all (memory : Memory) :
    loadableBefore memory (elfPhnum memory) = loadable memory := by
  ext index
  exact ⟨fun hindex => hindex.2, fun hindex => ⟨hindex.1, hindex⟩⟩

theorem loadableBefore_load (hcount : count ∈ loadable memory) :
    loadableBefore memory (count + 1) = insert count (loadableBefore memory count) := by
  ext index
  constructor
  · rintro ⟨hindex, hload⟩
    rcases Nat.lt_succ_iff_lt_or_eq.mp hindex with hbefore | rfl
    · exact .inr ⟨hbefore, hload⟩
    · exact .inl rfl
  · rintro (rfl | ⟨hbefore, hload⟩)
    · exact ⟨Nat.lt_succ_self _, hcount⟩
    · exact ⟨Nat.lt_succ_of_lt hbefore, hload⟩

theorem loadableBefore_skip (hcount : count ∉ loadable memory) :
    loadableBefore memory (count + 1) = loadableBefore memory count := by
  ext index
  constructor
  · rintro ⟨hindex, hload⟩
    rcases Nat.lt_succ_iff_lt_or_eq.mp hindex with hbefore | rfl
    · exact ⟨hbefore, hload⟩
    · exact absurd hload hcount
  · rintro ⟨hbefore, hload⟩
    exact ⟨Nat.lt_succ_of_lt hbefore, hload⟩

theorem headerAddress_succ (memory : Memory) (count : Nat) :
    headerAddress memory count + elfPhentsize memory = headerAddress memory (count + 1) := by
  rw [headerAddress, headerAddress, BitVec.ofNat_add, BitVec.add_mul, BitVec.one_mul,
    BitVec.add_assoc]

end Before

/-- The comparison at `.range_start_done`. -/
theorem lowest_see {seen : Set U64} {value : U64}
    (hvalue : Best (· ≤ ·) seen 0xFFFFFFFFFFFFFFFF#64 value) (next : U64) :
    Best (· ≤ ·) (insert next seen) 0xFFFFFFFFFFFFFFFF#64
      (if value ≤ next then value else next) := by
  apply hvalue.see
  · intro left right hnot
    exact BitVec.le_of_lt (BitVec.not_le.mp hnot)
  · intro left middle right
    exact BitVec.le_trans
  · intro other hother
    bv_omega

/-- The comparison at `.range_end_done`. -/
theorem highest_see {seen : Set U64} {value : U64} (hvalue : Best (· ≥ ·) seen 0#64 value)
    (next : U64) :
    Best (· ≥ ·) (insert next seen) 0#64 (if next ≤ value then value else next) := by
  apply hvalue.see
  · intro left right hnot
    exact BitVec.le_of_lt (BitVec.not_le.mp hnot)
  · intro left middle right hleft hright
    exact BitVec.le_trans hright hleft
  · intro other hother
    bv_omega

section Loop

variable {memory : Memory} {copyReturn zeroReturn : U64} {count : Nat} {self : Machine}

/-- What the loop reads and does not write: the image, but for the stack slot. -/
theorem LoadedTo.buffer (hself : LoadedTo memory copyReturn zeroReturn count self)
    (himage : ElfImage memory) {address : U64}
    (haddress : address ∈ span kernelBuffer kernelBufferSize) (hslot : address ∉ stackSlot) :
    self.memory address = memory address := by
  apply hself.others
  rintro (hmem | hmem)
  · exact hslot hmem
  · obtain ⟨index, hindex, hdestination⟩ := Set.mem_iUnion₂.mp hmem
    exact Set.disjoint_left.mp (himage.segments index hindex.2).buffer hdestination haddress

/-- Behind a segment, the image has the return address of `memory_zero` in it. -/
theorem LoadedTo.behind (hself : LoadedTo memory copyReturn zeroReturn count self)
    (himage : ElfImage memory) (hsome : (loadableBefore memory count).Nonempty) {address : U64}
    (haddress : address ∈ span kernelBuffer kernelBufferSize) :
    self.memory address = memory.write64 0x8FFF8#64 zeroReturn address := by
  by_cases hslot : address ∈ stackSlot
  · exact hself.pushed hsome address hslot
  · rw [hself.buffer himage haddress hslot]
    exact (write64_sameOutside _ _ _ _ hslot).symm

/-- The bytes a call of `memory_copy` finds: those of the image with the return
address in its slot. -/
theorem LoadedTo.copying (hself : LoadedTo memory copyReturn zeroReturn count self)
    (himage : ElfImage memory) {address : U64}
    (haddress : address ∈ span kernelBuffer kernelBufferSize) :
    self.memory.write64 0x8FFF8#64 copyReturn address =
      memory.write64 0x8FFF8#64 copyReturn address :=
  write64_congr copyReturn fun hslot => hself.buffer himage haddress hslot

theorem LoadedTo.readAsFiled_iff (hself : LoadedTo memory copyReturn zeroReturn count self)
    (himage : ElfImage memory) (hcount : count < elfPhnum memory) :
    ReadAsFiled memory count (readProgramHeader self.memory (self.regs .rbx)) ↔
      ((loadableBefore memory count).Nonempty → ReadAsFiled memory count
        (readProgramHeader (memory.write64 0x8FFF8#64 zeroReturn)
          (headerAddress memory count))) := by
  rw [hself.rbx]
  rcases (loadableBefore memory count).eq_empty_or_nonempty with hnone | hsome
  · rw [hself.unpushed hnone]
    exact iff_of_true (.refl memory count) fun hsome => absurd hnone hsome.ne_empty
  · have hseen : readProgramHeader self.memory (headerAddress memory count) =
        readProgramHeader (memory.write64 0x8FFF8#64 zeroReturn) (headerAddress memory count) :=
      readProgramHeader_congr fun address haddress =>
        hself.behind himage hsome (himage.headers count hcount haddress)
    rw [hseen]
    exact ⟨fun hread _ => hread, fun hkept => hkept hsome⟩

theorem LoadedTo.bssSize_eq (hself : LoadedTo memory copyReturn zeroReturn count self)
    (himage : ElfImage memory) (hcount : count < elfPhnum memory) :
    bssSize (self.memory.write64 0x8FFF8#64 copyReturn) (self.regs .rbx) =
      bssSize (memory.write64 0x8FFF8#64 copyReturn) (headerAddress memory count) := by
  rw [hself.rbx]
  exact bssSize_congr fun address haddress =>
    hself.copying himage (himage.headers count hcount haddress)

theorem ElfImage.placed (himage : ElfImage memory) (hcount : count ∈ loadable memory)
    {header : ProgramHeader} (hsame : header.SameSegment (segment memory count)) :
    Placed header (headerAddress memory count) := by
  have hsegment := himage.segments count hcount
  refine ⟨?_, ?_, ?_, ?_⟩
  · rw [hsame.filesz, hsame.memsz]
    exact hsegment.size
  · rw [hsame.destination]
    exact hsegment.stack.symm
  · rw [hsame.destination]
    exact hsegment.buffer.symm.mono_left (himage.headers count hcount.1)
  · rw [hsame.source, hsame.destination]
    exact hsegment.buffer.symm.mono_left hsegment.source_subset

/-- A pass over a segment, when `p_type` has been read. -/
theorem LoadedTo.ready (hself : LoadedTo memory copyReturn zeroReturn count self)
    (himage : ElfImage memory) (hcount : count ∈ loadable memory)
    (hsame : (readProgramHeader self.memory (self.regs .rbx)).SameSegment (segment memory count))
    (value : U64) :
    (self.setReg .rax value).regs .rsp = 0x90000#64 ∧
      Placed (readProgramHeader (self.setReg .rax value).memory
        ((self.setReg .rax value).regs .rbx)) ((self.setReg .rax value).regs .rbx) := by
  refine ⟨hself.rsp, ?_⟩
  have hplaced := himage.placed hcount hsame
  rwa [← hself.rbx] at hplaced

/-- What a pass finds between its two calls. -/
theorem LoadedTo.copied (hself : LoadedTo memory copyReturn zeroReturn count self)
    (himage : ElfImage memory) (hcount : count ∈ loadable memory)
    (hsame : (readProgramHeader self.memory (self.regs .rbx)).SameSegment (segment memory count))
    (value : U64) :
    ∃ copied,
      callRoutine copyReturn memoryCopy (prepareCopy (self.setReg .rax value)) = some copied ∧
      bssSize copied.memory (copied.regs .rbx) =
        bssSize (memory.write64 0x8FFF8#64 copyReturn) (headerAddress memory count) := by
  obtain ⟨hrsp, hplaced⟩ := hself.ready himage hcount hsame value
  obtain ⟨copied, hcopied, _, hmemory, _, _, _, hregs⟩ :=
    copySegment_spec copyReturn hrsp rfl hplaced
  refine ⟨copied, hcopied, ?_⟩
  rw [hregs .rbx (by decide), bssSize_copied copyReturn hplaced hmemory]
  exact hself.bssSize_eq himage hcount.1

/-- Whether a pass reads its header as the file has it is decided by the image. -/
theorem LoadedTo.headerRead_iff (hself : LoadedTo memory copyReturn zeroReturn count self)
    (himage : ElfImage memory) (hcount : count < elfPhnum memory) :
    HeaderRead memory copyReturn count self ↔
      HeaderKept memory copyReturn zeroReturn count := by
  constructor
  · rintro ⟨hfirst, hsecond⟩
    refine ⟨(hself.readAsFiled_iff himage hcount).mp hfirst, fun hload => ?_⟩
    obtain ⟨copied, hcopied, hbss⟩ := hself.copied himage hload (hfirst.same hload.2) 1#64
    exact hbss.symm.trans (hsecond hload copied hcopied)
  · rintro ⟨hbehind, hbetween⟩
    have hfirst := (hself.readAsFiled_iff himage hcount).mpr hbehind
    refine ⟨hfirst, fun hload other hother => ?_⟩
    obtain ⟨copied, hcopied, hbss⟩ := hself.copied himage hload (hfirst.same hload.2) 1#64
    cases hother.symm.trans hcopied
    exact hbss.trans (hbetween hload)

/-- A pass over a header of another type. -/
theorem LoadedTo.skip (hself : LoadedTo memory copyReturn zeroReturn count self)
    (hcount : count ∉ loadable memory) (value : U64) :
    LoadedTo memory copyReturn zeroReturn (count + 1)
      (nextProgramHeader (self.setReg .rax value)) := by
  have hsame := loadableBefore_skip hcount
  refine ⟨?_, ?_, hself.r12, hself.r14, hself.r15, hself.rsp, ?_, ?_, ?_, ?_, ?_, ?_, ?_⟩
  · rw [← headerAddress_succ, ← hself.rbx, ← hself.r14]
    rfl
  · rw [BitVec.ofNat_add, ← hself.r8]
    rfl
  · rw [hsame]
    exact hself.file
  · rw [hsame]
    exact hself.zero
  · rw [hsame]
    exact hself.others
  · rw [hsame]
    exact hself.unpushed
  · rw [hsame]
    exact hself.pushed
  · rw [hsame]
    exact hself.lowest
  · rw [hsame]
    exact hself.highest

/-- Loading one segment leaves the bytes of the others. -/
theorem ElfImage.keeps (himage : ElfImage memory) (hcount : count ∈ loadable memory)
    {before after : Memory}
    (hsame : SameOutside (stackSlot ∪ (segment memory count).destination) before after)
    {index offset : Nat} (hindex : index ∈ loadableBefore memory count)
    (hoffset : offset < (segment memory index).memsz.toNat) :
    after ((segment memory index).paddr + BitVec.ofNat 64 offset) =
      before ((segment memory index).paddr + BitVec.ofNat 64 offset) := by
  have hinside : (segment memory index).paddr + BitVec.ofNat 64 offset ∈
      (segment memory index).destination := offset_mem_span hoffset
  apply hsame
  rintro (hslot | hother)
  · exact Set.disjoint_left.mp (himage.segments index hindex.2).stack hinside hslot
  · have hapart := himage.apart index hindex.2 count hcount (Nat.ne_of_lt hindex.1)
    exact Set.disjoint_left.mp hapart hinside hother

/-- A pass over a segment. -/
theorem LoadedTo.load (hself : LoadedTo memory copyReturn zeroReturn count self)
    (himage : ElfImage memory) (hcount : count ∈ loadable memory)
    (hsame : (readProgramHeader self.memory (self.regs .rbx)).SameSegment (segment memory count))
    (hbetween : bssSize (memory.write64 0x8FFF8#64 copyReturn) (headerAddress memory count) =
      (segment memory count).memsz - (segment memory count).filesz) (value : U64) :
    ∃ loaded, loadSegment copyReturn zeroReturn (self.setReg .rax value) = some loaded ∧
      LoadedTo memory copyReturn zeroReturn (count + 1) (nextProgramHeader loaded) := by
  obtain ⟨hrsp, hplaced⟩ := hself.ready himage hcount hsame value
  have hsegment := himage.segments count hcount
  rw [← hself.bssSize_eq himage hcount.1, ← hsame.memsz, ← hsame.filesz] at hbetween
  obtain ⟨loaded, hloaded, hfile, hzero, hwritten, hr10, hr11, hregs⟩ :=
    loadSegment_spec copyReturn zeroReturn hrsp rfl hplaced hbetween
  have hheader : readProgramHeader (self.setReg .rax value).memory
      ((self.setReg .rax value).regs .rbx) =
        readProgramHeader self.memory (self.regs .rbx) := rfl
  rw [hheader] at hfile hzero hwritten hr10 hr11
  rw [hsame.paddr, hsame.filesz] at hfile
  rw [hsame.paddr, hsame.filesz, hsame.memsz] at hzero
  rw [hsame.destination] at hwritten
  rw [hsame.paddr] at hr10
  rw [hsame.paddr, hsame.memsz] at hr11
  have hothers : SameOutside (stackSlot ∪ (segment memory count).destination) self.memory
      loaded.memory :=
    ((write64_sameOutside _ _ _).mono Set.subset_union_left).trans
      (hwritten.mono Set.subset_union_right)
  have hinsert := loadableBefore_load hcount
  refine ⟨loaded, hloaded, ?_, ?_, ?_, ?_, ?_, ?_, ?_, ?_, ?_, ?_, ?_, ?_, ?_⟩
  · change loaded.regs .rbx + loaded.regs .r14 = _
    rw [hregs .rbx (by decide), hregs .r14 (by decide), ← headerAddress_succ, ← hself.rbx,
      ← hself.r14]
    rfl
  · change loaded.regs .r8 + 1#64 = _
    rw [hregs .r8 (by decide), BitVec.ofNat_add, ← hself.r8]
    rfl
  · exact (hregs .r12 (by decide)).trans hself.r12
  · exact (hregs .r14 (by decide)).trans hself.r14
  · exact (hregs .r15 (by decide)).trans hself.r15
  · exact (hregs .rsp (by decide)).trans hself.rsp
  · rw [hinsert]
    rintro index (rfl | hindex) offset hoffset
    · have hsource : kernelBuffer + (segment memory index).offset + BitVec.ofNat 64 offset ∈
          span kernelBuffer kernelBufferSize := hsegment.source_subset (offset_mem_span hoffset)
      have hbytes : (segment memory index).filesz ≠ 0#64 := by
        intro hempty
        rw [hempty] at hoffset
        exact Nat.not_lt_zero _ hoffset
      rw [← hself.copying himage hsource, ← hsame.offset hbytes]
      exact hfile offset hoffset
    · have hsize := (himage.segments index hindex.2).size
      exact (himage.keeps hcount hothers hindex (by omega)).trans
        (hself.file index hindex offset hoffset)
  · rw [hinsert]
    rintro index (rfl | hindex) offset hfilesz hoffset
    · exact hzero offset hfilesz hoffset
    · exact (himage.keeps hcount hothers hindex hoffset).trans
        (hself.zero index hindex offset hfilesz hoffset)
  · rw [hinsert, Set.biUnion_insert]
    apply SameOutside.trans
    · exact hself.others.mono (Set.union_subset_union_right _ Set.subset_union_right)
    · exact hothers.mono (Set.union_subset_union_right _ Set.subset_union_left)
  · rw [hinsert]
    exact fun hnone => absurd hnone (Set.insert_nonempty _ _).ne_empty
  · intro _ address hslot
    have hmiss := Set.disjoint_right.mp hsegment.stack hslot
    exact (hwritten address hmiss).trans (write64_congr _ fun hnot => absurd hslot hnot)
  · rw [hinsert, Set.image_insert_eq]
    change Best _ _ _ (loaded.regs .r10)
    rw [hr10]
    exact lowest_see hself.lowest _
  · rw [hinsert, Set.image_insert_eq]
    change Best _ _ _ (loaded.regs .r11)
    rw [hr11]
    exact highest_see hself.highest _

/-- One pass. -/
theorem LoadedTo.pass (hself : LoadedTo memory copyReturn zeroReturn count self)
    (himage : ElfImage memory) (hcount : count < elfPhnum memory)
    (hkept : HeaderKept memory copyReturn zeroReturn count) :
    ∃ next, programHeader copyReturn zeroReturn self = some next ∧
      LoadedTo memory copyReturn zeroReturn (count + 1) next := by
  have hread := (hself.readAsFiled_iff himage hcount).mpr hkept.behind
  by_cases hload : (segment memory count).type = 1#32
  · have htype : self.memory.read32 (self.regs .rbx) = 1#32 := hread.type_iff.mpr hload
    obtain ⟨loaded, hloaded, hnext⟩ := hself.load himage ⟨hcount, hload⟩ (hread.same hload)
      (hkept.between ⟨hcount, hload⟩) ((1#32).setWidth 64)
    refine ⟨nextProgramHeader loaded, ?_, hnext⟩
    rw [programHeader, htype, if_pos rfl, hloaded]
    rfl
  · have htype : self.memory.read32 (self.regs .rbx) ≠ 1#32 := fun htype =>
      hload (hread.type_iff.mp htype)
    exact ⟨_, if_neg htype, hself.skip (fun hmem => hload hmem.2) _⟩

/-- A loop that has not ended goes on with one more pass. -/
theorem elfProgramLoop_succ {fuel : Nat} {state : Machine}
    (hreached : elfProgramLoop copyReturn zeroReturn fuel self = some state)
    (hmore : ¬ state.regs .r15 ≤ state.regs .r8) :
    elfProgramLoop copyReturn zeroReturn (fuel + 1) self =
      programHeader copyReturn zeroReturn state := by
  induction fuel generalizing self with
  | zero =>
      cases hreached
      rw [elfProgramLoop, if_neg hmore]
      exact Option.bind_fun_some _
  | succ fuel ih =>
      rw [elfProgramLoop] at hreached
      split at hreached
      · rename_i hended
        cases hreached
        exact absurd hended hmore
      · rename_i hgoes
        obtain ⟨next, hnext, hrest⟩ := Option.bind_eq_some_iff.mp hreached
        rw [elfProgramLoop, if_neg hgoes, hnext]
        exact ih hrest

theorem readElfHeader_loadedTo (copyReturn zeroReturn : U64)
    (hrsp : self.regs .rsp = 0x90000#64) :
    LoadedTo self.memory copyReturn zeroReturn 0 (readElfHeader self) := by
  have hnone := loadableBefore_zero self.memory
  refine ⟨?_, rfl, rfl, rfl, ?_, hrsp, ?_, ?_, ?_, fun _ => rfl, ?_, ?_, ?_⟩
  · rw [headerAddress, BitVec.zero_mul, BitVec.add_zero]
    rfl
  · change (self.memory.read16 (kernelBuffer + 0x38#64)).setWidth 64 = _
    rw [elfPhnum, BitVec.ofNat_toNat]
  · rw [hnone]
    exact fun index hindex => absurd hindex (Set.notMem_empty _)
  · rw [hnone]
    exact fun index hindex => absurd hindex (Set.notMem_empty _)
  · exact SameOutside.refl _ _
  · rw [hnone]
    exact fun hsome => absurd rfl hsome.ne_empty
  · rw [hnone, Set.image_empty]
    exact Best.start
  · rw [hnone, Set.image_empty]
    exact Best.start

/-- The loop gets to a header if none before it minds the return addresses. -/
theorem loop_reaches (hrsp : self.regs .rsp = 0x90000#64) (himage : ElfImage self.memory)
    (hcount : count ≤ elfPhnum self.memory)
    (hkept : ∀ index < count, HeaderKept self.memory copyReturn zeroReturn index) :
    ∃ state, elfProgramLoop copyReturn zeroReturn count (readElfHeader self) = some state ∧
      LoadedTo self.memory copyReturn zeroReturn count state := by
  induction count with
  | zero => exact ⟨_, rfl, readElfHeader_loadedTo copyReturn zeroReturn hrsp⟩
  | succ count ih =>
      obtain ⟨state, hreached, hstate⟩ := ih (by omega) fun index hindex => hkept index (by omega)
      obtain ⟨next, hnext, hpassed⟩ :=
        hstate.pass himage (by omega) (hkept count (Nat.lt_succ_self count))
      have hmore : ¬ state.regs .r15 ≤ state.regs .r8 := by
        have hphnum : elfPhnum self.memory < 2 ^ 16 := BitVec.isLt _
        rw [hstate.r15, hstate.r8]
        bv_omega
      exact ⟨next, (elfProgramLoop_succ hreached hmore).trans hnext, hpassed⟩

theorem headersRead_iff (hrsp : self.regs .rsp = 0x90000#64) (himage : ElfImage self.memory) :
    HeadersRead copyReturn zeroReturn self ↔ HeadersKept self.memory copyReturn zeroReturn := by
  constructor
  · intro hread index
    -- a header can be compared with the run only once the run has got to it
    induction index using Nat.strong_induction_on with
    | _ index ih =>
        intro hindex
        obtain ⟨state, hreached, hstate⟩ := loop_reaches hrsp himage hindex.le
          fun other hother => ih other hother (hother.trans hindex)
        exact (hstate.headerRead_iff himage hindex).mp (hread index hindex state hreached)
  · intro hkept index hindex state hreached
    obtain ⟨other, hother, hstate⟩ := loop_reaches hrsp himage hindex.le
      fun before hbefore => hkept before (hbefore.trans hindex)
    cases hreached.symm.trans hother
    exact (hstate.headerRead_iff himage hindex).mpr (hkept index hindex)

/-- The loader gets to `elf_segments_done`. -/
theorem loadElf_done (hrsp : self.regs .rsp = 0x90000#64) (himage : ElfImage self.memory)
    (hkept : HeadersKept self.memory copyReturn zeroReturn) :
    ∃ done, loadElf copyReturn zeroReturn self = .segmentsDone done ∧
      LoadedTo self.memory copyReturn zeroReturn (elfPhnum self.memory) done := by
  have hfuel : ((readElfHeader self).regs .r15).toNat = elfPhnum self.memory := by
    have hphnum : elfPhnum self.memory < 2 ^ 16 := BitVec.isLt _
    rw [(readElfHeader_loadedTo copyReturn zeroReturn hrsp).r15, BitVec.toNat_ofNat]
    omega
  obtain ⟨done, hdone, hall⟩ := loop_reaches hrsp himage le_rfl hkept
  refine ⟨done, ?_, hall⟩
  rw [loadElf, himage.identified]
  simp only [hfuel, hdone]
  rfl

/-- All but the file bytes are as they should be. -/
theorem LoadedTo.loaded (hself : LoadedTo memory copyReturn zeroReturn (elfPhnum memory) self)
    (hfile : FileBytesKept memory copyReturn) : ElfLoaded memory self := by
  obtain ⟨_, _, hentry, _, _, _, hbytes, hzero, hothers, _, _, hlowest, hhighest⟩ := hself
  rw [loadableBefore_all] at hbytes hzero hothers hlowest hhighest
  refine ⟨?_, hzero, hothers, ?_, ?_, hentry, ?_⟩
  · intro index hindex offset hoffset
    rw [hbytes index hindex offset hoffset]
    exact hfile index hindex _ (offset_mem_span hoffset)
  · intro hsome
    refine ⟨?_, hlowest.best⟩
    exact hlowest.attained.resolve_right fun hnone => (hsome.image _).ne_empty hnone.1
  · intro hsome
    refine ⟨?_, hhighest.best⟩
    exact hhighest.attained.resolve_right fun hnone => (hsome.image _).ne_empty hnone.1
  · intro hnone bootDrive memoryMapCount readyMessage info
    rw [hnone, Set.image_empty] at hlowest hhighest
    have hr10 := (hlowest.attained.resolve_left (Set.notMem_empty _)).2
    have hr11 := (hhighest.attained.resolve_left (Set.notMem_empty _)).2
    have hinfo : info = handOffInfo bootDrive memoryMapCount (self.regs .r10) (self.regs .r11) :=
      readBootInfo_handOff _ _ _ _ _ _
    have hrange : info.kernelPhysEnd ≤ info.kernelPhysStart := by
      rw [hinfo]
      change self.regs .r11 ≤ self.regs .r10
      rw [hr10, hr11]
      decide
    exact ⟨hrange, validateBootInfo_range hrange⟩

/-- What arrives of the file shows what the return address left of it. -/
theorem LoadedTo.fileBytesKept
    (hself : LoadedTo memory copyReturn zeroReturn (elfPhnum memory) self)
    (hloaded : ElfLoaded memory self) : FileBytesKept memory copyReturn := by
  intro index hindex address haddress
  obtain ⟨offset, hoffset, rfl⟩ : ∃ offset < (segment memory index).filesz.toNat,
      address = kernelBuffer + (segment memory index).offset + BitVec.ofNat 64 offset := by
    refine ⟨_, haddress, ?_⟩
    rw [BitVec.ofNat_toNat, BitVec.setWidth_eq, BitVec.add_comm, BitVec.sub_add_cancel]
  have hwritten := hself.file index (loadableBefore_all memory ▸ hindex) offset hoffset
  exact hwritten.symm.trans (hloaded.file index hindex offset hoffset)

end Loop

/-- The loader reads every header as the file has it and loads the file exactly
if neither the headers nor the file bytes mind the return addresses; and it is
the image alone that decides whether it reads the headers so. -/
theorem loadElf_correct_iff (copyReturn zeroReturn : U64) (self : Machine)
    (hrsp : self.regs .rsp = 0x90000#64) (himage : ElfImage self.memory) :
    ((HeadersRead copyReturn zeroReturn self ∧
        ∃ done, loadElf copyReturn zeroReturn self = .segmentsDone done ∧
          ElfLoaded self.memory done) ↔
      HeadersKept self.memory copyReturn zeroReturn ∧ FileBytesKept self.memory copyReturn) ∧
    (HeadersRead copyReturn zeroReturn self ↔
      HeadersKept self.memory copyReturn zeroReturn) := by
  have hheaders : HeadersRead copyReturn zeroReturn self ↔
      HeadersKept self.memory copyReturn zeroReturn := headersRead_iff hrsp himage
  refine ⟨?_, hheaders⟩
  rw [hheaders]
  refine and_congr_right fun hkept => ?_
  obtain ⟨done, hdone, hall⟩ := loadElf_done hrsp himage hkept
  constructor
  · rintro ⟨other, hother, hloaded⟩
    obtain rfl : done = other := ElfExit.segmentsDone.inj (hdone.symm.trans hother)
    exact hall.fileBytesKept hloaded
  · intro hfile
    exact ⟨done, hdone, hall.loaded hfile⟩

/-- The headers of a file with one segment: a byte from `offset` and one zero
byte behind it, to be loaded at 1 MiB. -/
def elfFile (offset : U64) : List U8 :=
  [0x7F#8, 0x45#8, 0x4C#8, 0x46#8, 2#8, 1#8] ++ List.replicate 18 0#8 ++
    littleEndian 8 0x100000#64 ++ littleEndian 8 0x40#64 ++ List.replicate 14 0#8 ++
    littleEndian 2 56#64 ++ littleEndian 2 1#64 ++ List.replicate 6 0#8 ++
    littleEndian 8 1#64 ++ littleEndian 8 offset ++ List.replicate 8 0#8 ++
    littleEndian 8 0x100000#64 ++ littleEndian 8 1#64 ++ littleEndian 8 2#64

/-- Such a file in the kernel buffer. Under the loader's stack it has what the
messages before the header checks leave there. -/
def oneSegment (offset : U64) : Memory :=
  (writeBytes (fun _ => 0#8) kernelBuffer (elfFile offset)).write64 0x8FFF8#64 0x81E7#64

/-- Stage 2 at the header checks. -/
def atHeaderChecks (memory : Memory) : Machine where
  regs := fun reg => if reg = .rsp then 0x90000#64 else 0#64
  memory := memory
  rip := 0#64
  rflags := 0x2#64
  cs := 0x18#16
  ss := 0x10#16
  calls := []

theorem oneSegment_fields {offset : U64} (hoffset : offset = 0x1000#64 ∨ offset = 0x6FFF8#64) :
    elfHeaderOk (oneSegment offset) = true ∧ elfPhnum (oneSegment offset) = 1 ∧
      headerAddress (oneSegment offset) 0 = 0x20040#64 ∧
      readProgramHeader (oneSegment offset) 0x20040#64 =
        ⟨1#32, offset, 0x100000#64, 1#64, 2#64⟩ := by
  rcases hoffset with rfl | rfl
  · exact ⟨by decide +kernel, by decide +kernel, by decide +kernel, by decide +kernel⟩
  · exact ⟨by decide +kernel, by decide +kernel, by decide +kernel, by decide +kernel⟩

/-- Both images are among those the loader is for. -/
theorem oneSegment_image {offset : U64} (hoffset : offset = 0x1000#64 ∨ offset = 0x6FFF8#64) :
    ElfImage (oneSegment offset) ∧ HeadersKept (oneSegment offset) 0x826F#64 0x8281#64 ∧
      loadable (oneSegment offset) = {0} ∧
      segment (oneSegment offset) 0 = ⟨1#32, offset, 0x100000#64, 1#64, 2#64⟩ := by
  obtain ⟨hidentified, hphnum, haddress, hheader⟩ := oneSegment_fields hoffset
  have hbound : offset.toNat < 0x70000 := by
    rcases hoffset with rfl | rfl <;> decide
  have hsegment : segment (oneSegment offset) 0 =
      ⟨1#32, offset, 0x100000#64, 1#64, 2#64⟩ := by
    rw [segment, haddress, hheader]
  have hfirst {index : Nat} (hindex : index < elfPhnum (oneSegment offset)) : index = 0 := by omega
  have hloadable : loadable (oneSegment offset) = {0} := by
    ext index
    constructor
    · exact fun hload => hfirst hload.1
    · rintro rfl
      exact ⟨by omega, congrArg ProgramHeader.type hsegment⟩
  have hmiss (start : U64) (size : Nat) (hstart : start.toNat + size ≤ 0x100000) :
      Disjoint (span 0x100000#64 2) (span start size) := by
    apply Set.disjoint_left.mpr
    intro address hinside hother
    rw [mem_span] at hinside hother
    bv_omega
  refine ⟨⟨hidentified, ?_, ?_, ?_⟩, ?_, hloadable, hsegment⟩
  · intro index hindex
    rw [hfirst hindex, haddress]
    exact span_subset (show _ = _ + BitVec.ofNat 64 0x40 from rfl) (by decide)
  · rw [hloadable]
    rintro index rfl
    rw [hsegment]
    have hend : (0x100000#64).toNat + (2#64).toNat ≤ 0x200000 := by decide
    refine ⟨Nat.le_succ 1, lt_of_le_of_lt hend (by decide), ?_, hend, ?_, ?_, ?_⟩
    · change offset.toNat + 1 ≤ 1024 * 512
      omega
    · exact hmiss _ _ (by decide)
    · exact hmiss _ _ (by decide)
    · exact hmiss _ _ (by decide)
  · rw [hloadable]
    rintro left rfl right rfl hne
    exact absurd rfl hne
  · intro index hindex
    rw [hfirst hindex]
    refine ⟨fun hsome => absurd (loadableBefore_zero _) hsome.ne_empty, fun _ => ?_⟩
    rw [haddress, hsegment]
    rcases hoffset with rfl | rfl
    · decide +kernel
    · decide +kernel

theorem loadElf_one_segment :
    (HeadersKept (oneSegment 0x1000#64) 0x826F#64 0x8281#64 ∧
        FileBytesKept (oneSegment 0x1000#64) 0x826F#64) ∧
      HeadersRead 0x826F#64 0x8281#64 (atHeaderChecks (oneSegment 0x1000#64)) ∧
      ∃ done, loadElf 0x826F#64 0x8281#64 (atHeaderChecks (oneSegment 0x1000#64)) =
        .segmentsDone done ∧ ElfLoaded (oneSegment 0x1000#64) done := by
  obtain ⟨himage, hheaders, hloadable, hsegment⟩ :=
    oneSegment_image (.inl (Eq.refl 0x1000#64))
  have hkept : FileBytesKept (oneSegment 0x1000#64) 0x826F#64 := by
    rw [FileBytesKept, hloadable]
    rintro index rfl address haddress
    change address ∈ (segment (oneSegment 0x1000#64) 0).source at haddress
    rw [hsegment, ProgramHeader.source, mem_span, kernelBuffer] at haddress
    apply write64_outside
    change (address - (0x20000#64 + 0x1000#64)).toNat < 1 at haddress
    bv_omega
  exact ⟨⟨hheaders, hkept⟩, (loadElf_correct_iff _ _ (atHeaderChecks (oneSegment 0x1000#64)) rfl
    himage).1.mpr ⟨hheaders, hkept⟩⟩

/-- A segment whose file byte is under the loader's stack: instead of it, the
kernel gets a byte of a return address. -/
theorem loadElf_loads_return_address :
    ElfImage (oneSegment 0x6FFF8#64) ∧ oneSegment 0x6FFF8#64 0x8FFF8#64 = 0xE7#8 ∧
      ∃ done, loadElf 0x826F#64 0x8281#64 (atHeaderChecks (oneSegment 0x6FFF8#64)) =
        .segmentsDone done ∧ done.memory 0x100000#64 = 0x6F#8 ∧
        ¬ ElfLoaded (oneSegment 0x6FFF8#64) done := by
  obtain ⟨himage, hheaders, hloadable, hsegment⟩ :=
    oneSegment_image (.inr (Eq.refl 0x6FFF8#64))
  have hbyte : oneSegment 0x6FFF8#64 0x8FFF8#64 = 0xE7#8 := by decide +kernel
  have hpushed : (oneSegment 0x6FFF8#64).write64 0x8FFF8#64 0x826F#64 0x8FFF8#64 = 0x6F#8 := by
    decide +kernel
  have hzero : 0 ∈ loadable (oneSegment 0x6FFF8#64) := by
    rw [hloadable]
    rfl
  have hstart : (atHeaderChecks (oneSegment 0x6FFF8#64)).regs .rsp = 0x90000#64 := rfl
  obtain ⟨done, hdone, hall⟩ :
      ∃ done, loadElf 0x826F#64 0x8281#64 (atHeaderChecks (oneSegment 0x6FFF8#64)) =
        .segmentsDone done ∧ LoadedTo (oneSegment 0x6FFF8#64) 0x826F#64 0x8281#64
          (elfPhnum (oneSegment 0x6FFF8#64)) done :=
    loadElf_done hstart himage hheaders
  have hfile := hall.file 0 (loadableBefore_all _ ▸ hzero) 0
  rw [hsegment] at hfile
  have hloaded : done.memory 0x100000#64 = 0x6F#8 := (hfile (by decide)).trans hpushed
  refine ⟨himage, hbyte, done, hdone, hloaded, ?_⟩
  intro hright
  have hwanted := hright.file 0 hzero 0
  rw [hsegment] at hwanted
  have hsame : 0x6F#8 = 0xE7#8 := hloaded.symm.trans ((hwanted (by decide)).trans hbyte)
  exact absurd hsame (by decide)

end UnboundOS.Loader
