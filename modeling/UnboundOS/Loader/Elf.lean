import UnboundOS.Base.Scan
import UnboundOS.Loader.BootInfo
import UnboundOS.X86.Machine

/-!
The ELF loader of Stage 2: the header checks, the loop over the program
headers, and the two byte loops it calls. The loader runs with its stack inside
the buffer that holds the image, so its calls overwrite eight bytes of the
image; what the loader does is stated with that in mind.
-/

namespace UnboundOS.Loader

open X86 X86.Machine X86.Memory

/-- A byte loop that ends with `dec rcx; jnz`. -/
def repeatRcx (body : Machine → Machine) : Nat → Machine → Machine
  | 0, self => self
  | fuel + 1, self =>
      let next := body self
      if next.regs .rcx = 0#64 then next else repeatRcx body fuel next

/-- The loop behind `test rcx, rcx; jz .done`. It runs RCX times. -/
def whileRcx (body : Machine → Machine) (self : Machine) : Machine :=
  if self.regs .rcx = 0#64 then self else repeatRcx body (self.regs .rcx).toNat self

/-- The body of `.copy_loop`. -/
def copyByte (self : Machine) : Machine :=
  let al := self.memory (self.regs .rsi)
  let self := self.setReg .rax (self.regs .rax &&& ~~~0xFF#64 ||| al.setWidth 64)
  let self := {self with memory := Function.update self.memory (self.regs .rdi) al}
  let self := self.setReg .rsi (self.regs .rsi + 1#64)
  let self := self.setReg .rdi (self.regs .rdi + 1#64)
  self.setReg .rcx (self.regs .rcx - 1#64)

/-- The body of `.zero_loop`. -/
def zeroByte (self : Machine) : Machine :=
  let self := {self with memory := Function.update self.memory (self.regs .rdi) 0#8}
  let self := self.setReg .rdi (self.regs .rdi + 1#64)
  self.setReg .rcx (self.regs .rcx - 1#64)

def memoryCopy : Machine → Machine := whileRcx copyByte

def memoryZero : Machine → Machine := whileRcx zeroByte

/-- A call up to the `ret` of the routine. `none`: the return address has been
overwritten, and the loader goes on somewhere else. -/
def callRoutine (returnAddress : U64) (routine : Machine → Machine) (self : Machine) :
    Option Machine :=
  let returned := routine (self.pushWord returnAddress)
  if returned.top = returnAddress then some returned.dropWord else none

/-- A field of the program header RBX points to. -/
def field (self : Machine) (offset : U64) : U64 :=
  self.memory.read64 (self.regs .rbx + offset)

/-- Up to `.range_start_done`: R10 keeps the lowest address. -/
def updateStart (self : Machine) : Machine :=
  if self.regs .r10 ≤ self.regs .rax then self else self.setReg .r10 (self.regs .rax)

/-- Up to `.range_end_done`: R11 keeps the highest end. -/
def updateEnd (self : Machine) : Machine :=
  if self.regs .rax ≤ self.regs .r11 then self else self.setReg .r11 (self.regs .rax)

/-- A loadable header up to the call of `memory_copy`. -/
def prepareCopy (self : Machine) : Machine :=
  let self := self.setReg .r9 (field self 0x08#64)
  let self := self.setReg .rsi (kernelBuffer + self.regs .r9)
  let self := self.setReg .rax (field self 0x18#64)
  let self := updateStart self
  let self := self.setReg .rax (field self 0x18#64)
  let self := self.setReg .rax (self.regs .rax + field self 0x28#64)
  let self := updateEnd self
  let self := self.setReg .rdi (field self 0x18#64)
  self.setReg .rcx (field self 0x20#64)

/-- Between the two calls. -/
def prepareZero (self : Machine) : Machine :=
  let self := self.setReg .rax (field self 0x28#64)
  let self := self.setReg .rax (self.regs .rax - field self 0x20#64)
  let self := self.setReg .rcx (self.regs .rax)
  self.setReg .rax 0#64

def loadSegment (copyReturn zeroReturn : U64) (self : Machine) : Option Machine :=
  (callRoutine copyReturn memoryCopy (prepareCopy self)).bind fun copied =>
    callRoutine zeroReturn memoryZero (prepareZero copied)

/-- `next_program_header`. -/
def nextProgramHeader (self : Machine) : Machine :=
  let self := self.setReg .rbx (self.regs .rbx + self.regs .r14)
  self.setReg .r8 (self.regs .r8 + 1#64)

/-- One pass of `elf_program_loop`. -/
def programHeader (copyReturn zeroReturn : U64) (self : Machine) : Option Machine :=
  let type := self.memory.read32 (self.regs .rbx)
  let self := self.setReg .rax (type.setWidth 64)
  if type = 1#32 then (loadSegment copyReturn zeroReturn self).map nextProgramHeader
  else some (nextProgramHeader self)

def elfProgramLoop (copyReturn zeroReturn : U64) : Nat → Machine → Option Machine
  | 0, self => some self
  | fuel + 1, self =>
      if self.regs .r15 ≤ self.regs .r8 then some self
      else
        (programHeader copyReturn zeroReturn self).bind (elfProgramLoop copyReturn zeroReturn fuel)

/-- The checks before the loop; a failed one ends in `elf_error`. -/
def elfHeaderOk (memory : Memory) : Bool :=
  memory.read32 kernelBuffer = 0x464C457F#32 && memory (kernelBuffer + 4#64) = 2#8 &&
    memory (kernelBuffer + 5#64) = 1#8

/-- From the checks to the loop. -/
def readElfHeader (self : Machine) : Machine :=
  let self := self.setReg .rsi kernelBuffer
  let self := self.setReg .r12 (self.memory.read64 (self.regs .rsi + 0x18#64))
  let self := self.setReg .r10 0xFFFFFFFFFFFFFFFF#64
  let self := self.setReg .r11 0#64
  let self := self.setReg .r13 (self.memory.read64 (self.regs .rsi + 0x20#64))
  let self := self.setReg .r14 ((self.memory.read16 (self.regs .rsi + 0x36#64)).setWidth 64)
  let self := self.setReg .r15 ((self.memory.read16 (self.regs .rsi + 0x38#64)).setWidth 64)
  let self := self.setReg .rbx (self.regs .rsi + self.regs .r13)
  self.setReg .r8 0#64

/-- How the loader ends. -/
inductive ElfExit where
  | elfError
  | strayed
  | segmentsDone (machine : Machine)

/-- From the header checks to `elf_segments_done`. The loop has as many passes
as there are headers. -/
def loadElf (copyReturn zeroReturn : U64) (self : Machine) : ElfExit :=
  if !elfHeaderOk self.memory then .elfError
  else
    let ready := readElfHeader self
    match elfProgramLoop copyReturn zeroReturn (ready.regs .r15).toNat ready with
    | none => .strayed
    | some done => .segmentsDone done

/-- A loop body that stores one byte at RDI. -/
structure ByteStep (body : Machine → Machine) (byte : Machine → U8) : Prop where
  memory : ∀ self, (body self).memory = Function.update self.memory (self.regs .rdi) (byte self)
  rdi : ∀ self, (body self).regs .rdi = self.regs .rdi + 1#64
  rcx : ∀ self, (body self).regs .rcx = self.regs .rcx - 1#64
  kept : ∀ self, ∀ reg ∉ [Reg.rax, .rsi, .rdi, .rcx], (body self).regs reg = self.regs reg

theorem copyByte_step : ByteStep copyByte (fun self => self.memory (self.regs .rsi)) := by
  refine ⟨fun _ => rfl, fun _ => rfl, fun _ => rfl, ?_⟩
  intro self reg hreg
  cases reg <;> first | rfl | exact absurd (by decide) hreg

theorem zeroByte_step : ByteStep zeroByte (fun _ => 0#8) := by
  refine ⟨fun _ => rfl, fun _ => rfl, fun _ => rfl, ?_⟩
  intro self reg hreg
  cases reg <;> first | rfl | exact absurd (by decide) hreg

section Bytes

variable {body : Machine → Machine} {byte : Machine → U8}

/-- The loop stops after RCX bytes. -/
theorem whileRcx_eq (hbody : ByteStep body byte) (self : Machine) :
    whileRcx body self = body^[(self.regs .rcx).toNat] self := by
  have hloop (count : Nat) (self : Machine) (hcount : (self.regs .rcx).toNat = count + 1) :
      repeatRcx body (count + 1) self = body^[count + 1] self := by
    induction count generalizing self with
    | zero =>
        have hlast : (body self).regs .rcx = 0#64 := by
          rw [hbody.rcx]
          bv_omega
        rw [repeatRcx]
        simp only [hlast, if_true]
        rfl
    | succ count ih =>
        have hmore : (body self).regs .rcx ≠ 0#64 := by
          rw [hbody.rcx]
          bv_omega
        have hrest : ((body self).regs .rcx).toNat = count + 1 := by
          rw [hbody.rcx]
          bv_omega
        rw [repeatRcx]
        simp only [hmore, if_false]
        exact ih _ hrest
  rw [whileRcx]
  by_cases hzero : self.regs .rcx = 0#64
  · rw [if_pos hzero, hzero]
    rfl
  · obtain ⟨count, hcount⟩ : ∃ count, (self.regs .rcx).toNat = count + 1 :=
      Nat.exists_eq_succ_of_ne_zero (by bv_omega)
    rw [if_neg hzero, hcount, hloop count self hcount]

/-- What a number of bytes changes. -/
theorem ByteStep.iterate (hbody : ByteStep body byte) (self : Machine) (count : Nat) :
    (body^[count] self).regs .rdi = self.regs .rdi + BitVec.ofNat 64 count ∧
      (∀ reg ∉ [Reg.rax, .rsi, .rdi, .rcx], (body^[count] self).regs reg = self.regs reg) ∧
      SameOutside (span (self.regs .rdi) count) self.memory (body^[count] self).memory := by
  induction count with
  | zero => exact ⟨(BitVec.add_zero _).symm, fun _ _ => rfl, SameOutside.refl _ _⟩
  | succ count ih =>
      obtain ⟨hrdi, hkept, hmemory⟩ := ih
      rw [Function.iterate_succ_apply']
      refine ⟨?_, ?_, ?_⟩
      · rw [hbody.rdi, hrdi, BitVec.ofNat_add, BitVec.add_assoc]
      · intro reg hreg
        rw [hbody.kept _ reg hreg, hkept reg hreg]
      · intro address haddress
        have hne : address ≠ (body^[count] self).regs .rdi := by
          rintro rfl
          rw [hrdi] at haddress
          exact haddress (offset_mem_span (Nat.lt_succ_self count))
        rw [hbody.memory, Function.update_of_ne hne]
        exact hmemory address (fun hmem => haddress (span_mono (Nat.le_succ count) hmem))

/-- Each byte is stored once. -/
theorem ByteStep.content (hbody : ByteStep body byte) (self : Machine) {index count : Nat}
    (hindex : index < count) (hcount : count ≤ 2 ^ 64) :
    (body^[count] self).memory (self.regs .rdi + BitVec.ofNat 64 index) =
      byte (body^[index] self) := by
  induction count with
  | zero => omega
  | succ count ih =>
      obtain ⟨hrdi, _, _⟩ := hbody.iterate self count
      rw [Function.iterate_succ_apply', hbody.memory, hrdi]
      rcases Nat.lt_succ_iff_lt_or_eq.mp hindex with hbefore | rfl
      · have hne : self.regs .rdi + BitVec.ofNat 64 index ≠
            self.regs .rdi + BitVec.ofNat 64 count := by bv_omega
        rw [Function.update_of_ne hne]
        exact ih hbefore (by omega)
      · rw [Function.update_self]

/-- A call of a byte loop changes the word under the stack and its bytes. -/
theorem callRoutine_frame (hbody : ByteStep body byte) {returnAddress : U64} {self next : Machine}
    (hcall : callRoutine returnAddress (whileRcx body) self = some next) :
    (∀ reg ∉ [Reg.rax, .rsi, .rdi, .rcx], next.regs reg = self.regs reg) ∧
      SameOutside (span (self.regs .rsp - 8#64) 8 ∪ span (self.regs .rdi) (self.regs .rcx).toNat)
        self.memory next.memory := by
  simp only [callRoutine] at hcall
  split at hcall
  · cases hcall
    obtain ⟨_, hkept, hmemory⟩ :=
      hbody.iterate (self.pushWord returnAddress) (self.regs .rcx).toNat
    rw [whileRcx_eq hbody, pushWord_other (by decide)]
    rw [pushWord_other (by decide)] at hmemory
    refine ⟨?_, ?_⟩
    · intro reg hreg
      by_cases hstack : reg = .rsp
      · subst hstack
        rw [dropWord, setReg_same, hkept .rsp hreg, pushWord_rsp, BitVec.sub_add_cancel]
      · rw [dropWord, setReg_other hstack, hkept reg hreg, pushWord_other hstack]
    · have hpushed := write64_sameOutside self.memory (self.regs .rsp - 8#64) returnAddress
      exact (hpushed.mono Set.subset_union_left).trans (hmemory.mono Set.subset_union_right)
  · cases hcall

/-- A call of a byte loop that misses its own return address. -/
theorem callRoutine_bytes (hbody : ByteStep body byte) (returnAddress : U64) (self : Machine)
    (hslot : Disjoint (span (self.regs .rsp - 8#64) 8)
      (span (self.regs .rdi) (self.regs .rcx).toNat)) :
    ∃ next, callRoutine returnAddress (whileRcx body) self = some next ∧
      next.regs .rdi = self.regs .rdi + self.regs .rcx ∧
      (∀ reg ∉ [Reg.rax, .rsi, .rdi, .rcx], next.regs reg = self.regs reg) ∧
      SameOutside (span (self.regs .rdi) (self.regs .rcx).toNat)
        (self.pushWord returnAddress).memory next.memory ∧
      ∀ index < (self.regs .rcx).toNat,
        next.memory (self.regs .rdi + BitVec.ofNat 64 index) =
          byte (body^[index] (self.pushWord returnAddress)) := by
  obtain ⟨pushed, hpushed⟩ : ∃ pushed, self.pushWord returnAddress = pushed := ⟨_, rfl⟩
  have hrsp : pushed.regs .rsp = self.regs .rsp - 8#64 := hpushed ▸ pushWord_rsp self returnAddress
  have hother {reg : Reg} (hreg : reg ≠ .rsp) : pushed.regs reg = self.regs reg :=
    hpushed ▸ pushWord_other hreg returnAddress
  obtain ⟨count, hcount⟩ : ∃ count, (self.regs .rcx).toNat = count := ⟨_, rfl⟩
  have hbound : count ≤ 2 ^ 64 := by omega
  have hrcx : self.regs .rcx = BitVec.ofNat 64 count := by
    rw [← hcount, BitVec.ofNat_toNat, BitVec.setWidth_eq]
  have hreturned : whileRcx body pushed = body^[count] pushed := by
    rw [whileRcx_eq hbody, hother (by decide), hcount]
  obtain ⟨hrdi, hkept, hmemory⟩ := hbody.iterate pushed count
  rw [hother (by decide)] at hrdi hmemory
  rw [hcount] at hslot ⊢
  have htop : (body^[count] pushed).top = returnAddress := by
    have hread : pushed.memory.read64 (pushed.regs .rsp) = returnAddress := by
      rw [hrsp, ← hpushed]
      exact read64_write64 _ _ _
    rw [top, hkept .rsp (by decide), ← hread]
    apply read64_congr
    intro offset hoffset
    apply hmemory
    rw [hrsp]
    exact Set.disjoint_left.mp hslot (offset_mem_span hoffset)
  refine ⟨(body^[count] pushed).dropWord, ?_, ?_, ?_, hpushed ▸ hmemory, ?_⟩
  · rw [callRoutine, hpushed, hreturned]
    exact if_pos htop
  · rw [dropWord, setReg_other (by decide), hrdi, hrcx]
  · intro reg hreg
    by_cases hstack : reg = .rsp
    · subst hstack
      rw [dropWord, setReg_same, hkept .rsp (by decide), hrsp, BitVec.sub_add_cancel]
    · rw [dropWord, setReg_other hstack, hkept reg hreg, hother hstack]
  · intro index hindex
    have hcontent := hbody.content pushed hindex hbound
    rw [hother (by decide)] at hcontent
    rw [hpushed]
    exact hcontent

end Bytes

theorem copyByte_source (self : Machine) (count : Nat) :
    (copyByte^[count] self).regs .rsi = self.regs .rsi + BitVec.ofNat 64 count := by
  induction count with
  | zero => exact (BitVec.add_zero _).symm
  | succ count ih =>
      have hstep (self : Machine) : (copyByte self).regs .rsi = self.regs .rsi + 1#64 := rfl
      rw [Function.iterate_succ_apply', hstep, ih, BitVec.ofNat_add, BitVec.add_assoc]

/-- A source byte that has not been written yet is copied as it was. -/
theorem copyByte_byte (self : Machine) (index : Nat)
    (hmiss : self.regs .rsi + BitVec.ofNat 64 index ∉ span (self.regs .rdi) index) :
    (copyByte^[index] self).memory ((copyByte^[index] self).regs .rsi) =
      self.memory (self.regs .rsi + BitVec.ofNat 64 index) := by
  obtain ⟨_, _, hmemory⟩ := copyByte_step.iterate self index
  rw [copyByte_source]
  exact hmemory _ hmiss

/-- What the loader reads of a program header. -/
structure ProgramHeader where
  type : U32
  offset : U64
  paddr : U64
  filesz : U64
  memsz : U64
deriving DecidableEq

def readProgramHeader (memory : Memory) (address : U64) : ProgramHeader where
  type := memory.read32 address
  offset := memory.read64 (address + 0x08#64)
  paddr := memory.read64 (address + 0x18#64)
  filesz := memory.read64 (address + 0x20#64)
  memsz := memory.read64 (address + 0x28#64)

namespace ProgramHeader

/-- Where a segment goes. -/
def destination (header : ProgramHeader) : Set U64 :=
  span header.paddr header.memsz.toNat

/-- Where its file bytes are. -/
def source (header : ProgramHeader) : Set U64 :=
  span (kernelBuffer + header.offset) header.filesz.toNat

/-- The two headers ask for the same segment. The offset of a segment without
file bytes does not matter. -/
structure SameSegment (header other : ProgramHeader) : Prop where
  paddr : header.paddr = other.paddr
  filesz : header.filesz = other.filesz
  memsz : header.memsz = other.memsz
  offset : other.filesz ≠ 0#64 → header.offset = other.offset

theorem SameSegment.refl (header : ProgramHeader) : header.SameSegment header :=
  ⟨rfl, rfl, rfl, fun _ => rfl⟩

theorem SameSegment.destination {header other : ProgramHeader}
    (hsame : header.SameSegment other) : header.destination = other.destination := by
  rw [ProgramHeader.destination, ProgramHeader.destination, hsame.paddr, hsame.memsz]

theorem SameSegment.source {header other : ProgramHeader} (hsame : header.SameSegment other) :
    header.source = other.source := by
  rw [ProgramHeader.source, ProgramHeader.source, hsame.filesz]
  by_cases hempty : other.filesz = 0#64
  · ext address
    rw [hempty, mem_span, mem_span]
    exact iff_of_false (Nat.not_lt_zero _) (Nat.not_lt_zero _)
  · rw [hsame.offset hempty]

end ProgramHeader

/-- The word below the top of the stack: the loader's calls push here. -/
def stackSlot : Set U64 :=
  span 0x8FFF8#64 8

/-- What the loader computes from the header between its two calls. -/
def bssSize (memory : Memory) (address : U64) : U64 :=
  memory.read64 (address + 0x28#64) - memory.read64 (address + 0x20#64)

section Congr

variable {before after : Memory} {address : U64}
  (hsame : ∀ other ∈ span address 56, after other = before other)
include hsame

theorem headerWord_congr (offset : Nat) (hoffset : offset + 8 ≤ 56) :
    after.read64 (address + BitVec.ofNat 64 offset) =
      before.read64 (address + BitVec.ofNat 64 offset) :=
  read64_congr fun _ hbyte => hsame _ (span_subset rfl hoffset (offset_mem_span hbyte))

theorem readProgramHeader_congr :
    readProgramHeader after address = readProgramHeader before address := by
  have htype : after.read32 address = before.read32 address :=
    read32_congr fun _ hbyte => hsame _ (span_mono (by decide) (offset_mem_span hbyte))
  rw [readProgramHeader, readProgramHeader, htype, headerWord_congr hsame 0x08 (by decide),
    headerWord_congr hsame 0x18 (by decide), headerWord_congr hsame 0x20 (by decide),
    headerWord_congr hsame 0x28 (by decide)]

theorem bssSize_congr : bssSize after address = bssSize before address := by
  rw [bssSize, bssSize, headerWord_congr hsame 0x20 (by decide),
    headerWord_congr hsame 0x28 (by decide)]

end Congr

@[simp] theorem updateStart_memory (self : Machine) : (updateStart self).memory = self.memory := by
  rw [updateStart]
  split <;> rfl

@[simp] theorem updateEnd_memory (self : Machine) : (updateEnd self).memory = self.memory := by
  rw [updateEnd]
  split <;> rfl

theorem updateStart_other (self : Machine) {reg : Reg} (hreg : reg ≠ .r10) :
    (updateStart self).regs reg = self.regs reg := by
  rw [updateStart]
  split
  · rfl
  · exact setReg_other hreg _

theorem updateEnd_other (self : Machine) {reg : Reg} (hreg : reg ≠ .r11) :
    (updateEnd self).regs reg = self.regs reg := by
  rw [updateEnd]
  split
  · rfl
  · exact setReg_other hreg _

theorem updateStart_r10 (self : Machine) : (updateStart self).regs .r10 =
    if self.regs .r10 ≤ self.regs .rax then self.regs .r10 else self.regs .rax := by
  rw [updateStart]
  split
  · rfl
  · exact setReg_same _ _ _

theorem updateEnd_r11 (self : Machine) : (updateEnd self).regs .r11 =
    if self.regs .rax ≤ self.regs .r11 then self.regs .r11 else self.regs .rax := by
  rw [updateEnd]
  split
  · rfl
  · exact setReg_same _ _ _

section Segment

variable (copyReturn zeroReturn : U64) {self : Machine} {header : ProgramHeader}

/-- The registers at the call of `memory_copy`. -/
theorem prepareCopy_spec (hheader : readProgramHeader self.memory (self.regs .rbx) = header) :
    ∃ ready, prepareCopy self = ready ∧ ready.memory = self.memory ∧
      ready.regs .rsi = kernelBuffer + header.offset ∧ ready.regs .rdi = header.paddr ∧
      ready.regs .rcx = header.filesz ∧
      ready.regs .r10 =
        (if self.regs .r10 ≤ header.paddr then self.regs .r10 else header.paddr) ∧
      ready.regs .r11 = (if header.paddr + header.memsz ≤ self.regs .r11 then self.regs .r11
        else header.paddr + header.memsz) ∧
      ∀ reg ∈ [Reg.rbx, .r8, .r12, .r14, .r15, .rsp], ready.regs reg = self.regs reg := by
  subst hheader
  have hr10 : (prepareCopy self).regs .r10 = if self.regs .r10 ≤ field self 0x18#64 then
      self.regs .r10 else field self 0x18#64 := by
    change (updateEnd _).regs .r10 = _
    rw [updateEnd_other _ (by decide)]
    exact updateStart_r10 _
  have hr11 : (prepareCopy self).regs .r11 =
      if field self 0x18#64 + field self 0x28#64 ≤ self.regs .r11 then self.regs .r11
      else field self 0x18#64 + field self 0x28#64 := by
    change (updateEnd _).regs .r11 = _
    rw [updateEnd_r11]
    simp only [field, setReg_same, setReg_memory, updateStart_memory, ne_eq, reduceCtorEq,
      not_false_eq_true, setReg_other, updateStart_other]
    rfl
  refine ⟨_, rfl, ?_, ?_, ?_, ?_, hr10, hr11, ?_⟩
  all_goals simp [prepareCopy, field, readProgramHeader, setReg_other, updateStart_other,
    updateEnd_other]

/-- The registers at the call of `memory_zero`. -/
theorem prepareZero_spec (self : Machine) :
    ∃ ready, prepareZero self = ready ∧ ready.memory = self.memory ∧
      ready.regs .rcx = bssSize self.memory (self.regs .rbx) ∧
      ∀ reg ∉ [Reg.rax, .rcx], ready.regs reg = self.regs reg := by
  refine ⟨_, rfl, rfl, rfl, ?_⟩
  intro reg hreg
  cases reg <;> first | rfl | exact absurd (by decide) hreg

/-- A segment whose destination misses the stack slot, its own header and its
own file bytes. -/
structure Placed (header : ProgramHeader) (address : U64) : Prop where
  size : header.filesz.toNat ≤ header.memsz.toNat
  slot : Disjoint stackSlot header.destination
  fields : Disjoint (span address 56) header.destination
  source : Disjoint header.source header.destination

theorem pushWord_slot {memory : Memory} (returnAddress : U64) {ready : Machine}
    (hrsp : ready.regs .rsp = 0x90000#64) (hmemory : ready.memory = memory) :
    (ready.pushWord returnAddress).memory = memory.write64 0x8FFF8#64 returnAddress := by
  change ready.memory.write64 (ready.regs .rsp - 8#64) returnAddress = _
  rw [hrsp, hmemory]
  rfl

/-- The first call: the file bytes, as they are with the return address in the
stack slot. -/
theorem copySegment_spec (hrsp : self.regs .rsp = 0x90000#64)
    (hheader : readProgramHeader self.memory (self.regs .rbx) = header)
    (hplaced : Placed header (self.regs .rbx)) :
    ∃ copied, callRoutine copyReturn memoryCopy (prepareCopy self) = some copied ∧
      copied.regs .rdi = header.paddr + header.filesz ∧
      SameOutside (span header.paddr header.filesz.toNat)
        (self.memory.write64 0x8FFF8#64 copyReturn) copied.memory ∧
      (∀ index < header.filesz.toNat, copied.memory (header.paddr + BitVec.ofNat 64 index) =
        self.memory.write64 0x8FFF8#64 copyReturn
          (kernelBuffer + header.offset + BitVec.ofNat 64 index)) ∧
      copied.regs .r10 =
        (if self.regs .r10 ≤ header.paddr then self.regs .r10 else header.paddr) ∧
      copied.regs .r11 = (if header.paddr + header.memsz ≤ self.regs .r11 then self.regs .r11
        else header.paddr + header.memsz) ∧
      ∀ reg ∈ [Reg.rbx, .r8, .r12, .r14, .r15, .rsp], copied.regs reg = self.regs reg := by
  obtain ⟨ready, hready, hmemory, hrsi, hrdi, hrcx, hr10, hr11, hregs⟩ := prepareCopy_spec hheader
  have hreadyRsp : ready.regs .rsp = 0x90000#64 := (hregs .rsp (by decide)).trans hrsp
  have hinside : span header.paddr header.filesz.toNat ⊆ header.destination :=
    span_mono hplaced.size
  obtain ⟨copied, hcopied, hcopiedRdi, hcopiedRegs, hcopiedMemory, hcopiedBytes⟩ :=
    callRoutine_bytes copyByte_step copyReturn ready (by
      rw [hreadyRsp, hrdi, hrcx]
      exact hplaced.slot.mono_right hinside)
  rw [hrdi, hrcx] at hcopiedRdi hcopiedMemory hcopiedBytes
  have hpushed := pushWord_slot copyReturn hreadyRsp hmemory
  rw [hready]
  refine ⟨copied, hcopied, hcopiedRdi, hpushed ▸ hcopiedMemory, ?_, ?_, ?_, ?_⟩
  · intro index hindex
    have hpushedRsi : (ready.pushWord copyReturn).regs .rsi = kernelBuffer + header.offset :=
      (pushWord_other (by decide) _).trans hrsi
    have hpushedRdi : (ready.pushWord copyReturn).regs .rdi = header.paddr :=
      (pushWord_other (by decide) _).trans hrdi
    have hbyte := copyByte_byte (ready.pushWord copyReturn) index (by
      rw [hpushedRsi, hpushedRdi]
      intro hmem
      have hdestination := hinside (span_mono hindex.le hmem)
      exact Set.disjoint_left.mp hplaced.source (offset_mem_span hindex) hdestination)
    rw [hpushedRsi, hpushed] at hbyte
    exact (hcopiedBytes index hindex).trans hbyte
  · exact (hcopiedRegs .r10 (by decide)).trans hr10
  · exact (hcopiedRegs .r11 (by decide)).trans hr11
  · intro reg hreg
    rw [hcopiedRegs reg (by revert reg; decide), hregs reg hreg]

/-- The bytes above the file belong to the segment. -/
theorem bss_subset (hsize : header.filesz.toNat ≤ header.memsz.toNat) :
    span (header.paddr + header.filesz) (header.memsz.toNat - header.filesz.toNat) ⊆
      header.destination := by
  have hstart : header.paddr + header.filesz =
      header.paddr + BitVec.ofNat 64 header.filesz.toNat := by
    rw [BitVec.ofNat_toNat, BitVec.setWidth_eq]
  exact span_subset hstart (by omega)

/-- The second call: the bytes above the file. -/
theorem zeroSegment_spec {copied : Machine} (hrsp : copied.regs .rsp = 0x90000#64)
    (hbss : bssSize copied.memory (copied.regs .rbx) = header.memsz - header.filesz)
    (hrdi : copied.regs .rdi = header.paddr + header.filesz)
    (hplaced : Placed header (copied.regs .rbx)) :
    ∃ next, callRoutine zeroReturn memoryZero (prepareZero copied) = some next ∧
      SameOutside
        (span (header.paddr + header.filesz) (header.memsz.toNat - header.filesz.toNat))
        (copied.memory.write64 0x8FFF8#64 zeroReturn) next.memory ∧
      (∀ index < header.memsz.toNat - header.filesz.toNat,
        next.memory (header.paddr + header.filesz + BitVec.ofNat 64 index) = 0#8) ∧
      ∀ reg ∉ [Reg.rax, .rsi, .rdi, .rcx], next.regs reg = copied.regs reg := by
  obtain ⟨ready, hready, hmemory, hrcx, hregs⟩ := prepareZero_spec copied
  rw [hbss] at hrcx
  have hreadyRsp : ready.regs .rsp = 0x90000#64 := (hregs .rsp (by decide)).trans hrsp
  have hreadyRdi : ready.regs .rdi = header.paddr + header.filesz :=
    (hregs .rdi (by decide)).trans hrdi
  have hsize := hplaced.size
  have hcount : (header.memsz - header.filesz).toNat =
      header.memsz.toNat - header.filesz.toNat := by
    bv_omega
  obtain ⟨next, hnext, _, hnextRegs, hnextMemory, hnextBytes⟩ :=
    callRoutine_bytes zeroByte_step zeroReturn ready (by
      rw [hreadyRsp, hreadyRdi, hrcx, hcount]
      exact hplaced.slot.mono_right (bss_subset hsize))
  rw [hreadyRdi, hrcx, hcount] at hnextMemory hnextBytes
  have hpushed := pushWord_slot zeroReturn hreadyRsp hmemory
  rw [hready]
  refine ⟨next, hnext, hpushed ▸ hnextMemory, hnextBytes, ?_⟩
  intro reg hreg
  rw [hnextRegs reg hreg]
  apply hregs
  intro hmem
  have hsubset : [Reg.rax, .rcx] ⊆ [Reg.rax, .rsi, .rdi, .rcx] := by decide
  exact hreg (hsubset hmem)

/-- The header as the loader finds it after the first call: the return address
is in the stack slot, the file bytes are elsewhere. -/
theorem bssSize_copied {copied : Machine} (hplaced : Placed header (self.regs .rbx))
    (hcopied : SameOutside (span header.paddr header.filesz.toNat)
      (self.memory.write64 0x8FFF8#64 copyReturn) copied.memory) :
    bssSize copied.memory (self.regs .rbx) =
      bssSize (self.memory.write64 0x8FFF8#64 copyReturn) (self.regs .rbx) := by
  apply bssSize_congr
  intro address haddress
  apply hcopied
  intro hmem
  exact Set.disjoint_left.mp hplaced.fields haddress (span_mono hplaced.size hmem)

/-- One segment: its bytes come from memory as it is after the call of
`memory_copy`, the rest is zero, and elsewhere only the return address of
`memory_zero` is new. -/
theorem loadSegment_spec (hrsp : self.regs .rsp = 0x90000#64)
    (hheader : readProgramHeader self.memory (self.regs .rbx) = header)
    (hplaced : Placed header (self.regs .rbx))
    (hbss : bssSize (self.memory.write64 0x8FFF8#64 copyReturn) (self.regs .rbx) =
      header.memsz - header.filesz) :
    ∃ next, loadSegment copyReturn zeroReturn self = some next ∧
      (∀ index < header.filesz.toNat, next.memory (header.paddr + BitVec.ofNat 64 index) =
        self.memory.write64 0x8FFF8#64 copyReturn
          (kernelBuffer + header.offset + BitVec.ofNat 64 index)) ∧
      (∀ index, header.filesz.toNat ≤ index → index < header.memsz.toNat →
        next.memory (header.paddr + BitVec.ofNat 64 index) = 0#8) ∧
      SameOutside header.destination (self.memory.write64 0x8FFF8#64 zeroReturn) next.memory ∧
      next.regs .r10 =
        (if self.regs .r10 ≤ header.paddr then self.regs .r10 else header.paddr) ∧
      next.regs .r11 = (if header.paddr + header.memsz ≤ self.regs .r11 then self.regs .r11
        else header.paddr + header.memsz) ∧
      ∀ reg ∈ [Reg.rbx, .r8, .r12, .r14, .r15, .rsp], next.regs reg = self.regs reg := by
  have hsize := hplaced.size
  obtain ⟨copied, hcopied, hrdi, hcopiedMemory, hfile, hr10, hr11, hregs⟩ :=
    copySegment_spec copyReturn hrsp hheader hplaced
  have hrbx := hregs .rbx (by decide)
  have hbssAgain : bssSize copied.memory (copied.regs .rbx) = header.memsz - header.filesz := by
    rw [hrbx, bssSize_copied copyReturn hplaced hcopiedMemory, hbss]
  obtain ⟨next, hnext, hnextMemory, hzero, hnextRegs⟩ :=
    zeroSegment_spec zeroReturn ((hregs .rsp (by decide)).trans hrsp) hbssAgain hrdi
      (hrbx ▸ hplaced)
  refine ⟨next, ?_, ?_, ?_, ?_, ?_, ?_, ?_⟩
  · rw [loadSegment, hcopied]
    exact hnext
  · intro index hindex
    have hbelow : header.paddr + BitVec.ofNat 64 index ∉
        span (header.paddr + header.filesz) (header.memsz.toNat - header.filesz.toNat) := by
      rw [mem_span]
      bv_omega
    have hslot : header.paddr + BitVec.ofNat 64 index ∉ stackSlot :=
      Set.disjoint_right.mp hplaced.slot (offset_mem_span (by omega))
    rw [hnextMemory _ hbelow, write64_sameOutside _ _ _ _ hslot, hfile index hindex]
  · intro index hfilesz hindex
    obtain ⟨offset, rfl⟩ := Nat.exists_eq_add_of_le hfilesz
    have hbyte := hzero offset (by omega)
    rwa [BitVec.ofNat_add, BitVec.ofNat_toNat, BitVec.setWidth_eq, ← BitVec.add_assoc]
  · intro address haddress
    rw [hnextMemory address fun hmem => haddress (bss_subset hsize hmem)]
    apply write64_congr
    intro hslot
    rw [hcopiedMemory address fun hmem => haddress (span_mono hsize hmem)]
    exact write64_sameOutside _ _ _ _ hslot
  · exact (hnextRegs .r10 (by decide)).trans hr10
  · exact (hnextRegs .r11 (by decide)).trans hr11
  · intro reg hreg
    rw [hnextRegs reg (by revert reg; decide), hregs reg hreg]

end Segment

end UnboundOS.Loader
