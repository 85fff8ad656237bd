import UnboundOS.Loader.Segments

/-!
Whether the kernel file is still in its buffer when Stage 2 reads it. The image
builder and `load_kernel` agree on 1024 sectors; the table of the memory map and
the stack were placed behind a buffer of 512. So the file survives exactly if it
ends below the table. What the segments of the file itself overwrite is not
held against Stage 2.
-/

namespace UnboundOS.Loader

open X86 X86.Machine X86.Memory

/-- The file is in the buffer. -/
def Intact (kernel : List U8) (memory : Memory) : Prop :=
  ∀ index < kernel.length, kernel[index]? = some (memory (kernelBuffer + BitVec.ofNat 64 index))

/-- Where the file is. -/
def fileSpan (kernel : List U8) : Set U64 :=
  span kernelBuffer kernel.length

/-- A pass that loads a segment, at its call of `memory_copy`. -/
def atCopy (self : Machine) : Machine :=
  prepareCopy (self.setReg .rax ((self.memory.read32 (self.regs .rbx)).setWidth 64))

/-- The bytes the next call of a byte loop stores. -/
def storedBytes (self : Machine) : Set U64 :=
  span (self.regs .rdi) (self.regs .rcx).toNat

/-- What a pass copies and zeroes is elsewhere. -/
structure PassMisses (copyReturn : U64) (region : Set U64) (state : Machine) : Prop where
  copied : Disjoint (storedBytes (atCopy state)) region
  zeroed : ∀ copied, callRoutine copyReturn memoryCopy (atCopy state) = some copied →
    Disjoint (storedBytes (prepareZero copied)) region

/-- The loop before pass `count`, with all segments so far elsewhere. -/
structure AtPass (copyReturn zeroReturn : U64) (region : Set U64) (start : Machine) (count : Nat)
    (state : Machine) : Prop where
  identified : elfHeaderOk start.memory = true
  bound : count ≤ ((readElfHeader start).regs .r15).toNat
  reached : elfProgramLoop copyReturn zeroReturn count (readElfHeader start) = some state
  missed : ∀ earlier < count, ∀ before,
    elfProgramLoop copyReturn zeroReturn earlier (readElfHeader start) = some before →
    before.memory.read32 (before.regs .rbx) = 1#32 → PassMisses copyReturn region before

/-- Nothing Stage 2 stores on its own account hits the file, and the file is
there at the header checks, before every pass and between its two calls. -/
structure Survives (copyReturn zeroReturn : U64) (kernel : List U8) (stores : List (U64 × Nat))
    (start : Machine) : Prop where
  stores : ∀ entry ∈ stores, Disjoint (span entry.1 entry.2) (fileSpan kernel)
  pushes : Disjoint stackSlot (fileSpan kernel)
  checks : Intact kernel start.memory
  passes : ∀ count state, AtPass copyReturn zeroReturn (fileSpan kernel) start count state →
    Intact kernel state.memory
  copies : ∀ count state, AtPass copyReturn zeroReturn (fileSpan kernel) start count state →
    Disjoint (storedBytes (atCopy state)) (fileSpan kernel) →
    ∀ copied, callRoutine copyReturn memoryCopy (atCopy state) = some copied →
    Intact kernel copied.memory

/-- Memory is the same on a region. -/
def SameOn (region : Set U64) (before after : Memory) : Prop :=
  ∀ address ∈ region, after address = before address

theorem Intact.congr {kernel : List U8} {before after : Memory} (hbefore : Intact kernel before)
    (hsame : SameOn (fileSpan kernel) before after) : Intact kernel after := by
  intro index hindex
  rw [hbefore index hindex, hsame _ (offset_mem_span hindex)]

section Passes

variable {copyReturn zeroReturn : U64} {region : Set U64} {self next : Machine}

/-- A call of a byte loop that stores elsewhere, on a stack that is elsewhere. -/
theorem callRoutine_sameOn {body : Machine → Machine} {byte : Machine → U8}
    (hbody : ByteStep body byte) (hslot : Disjoint stackSlot region)
    (hrsp : self.regs .rsp = 0x90000#64) (hstored : Disjoint (storedBytes self) region)
    {returnAddress : U64} (hcall : callRoutine returnAddress (whileRcx body) self = some next) :
    next.regs .rsp = 0x90000#64 ∧ SameOn region self.memory next.memory := by
  obtain ⟨hregs, hmemory⟩ := callRoutine_frame hbody hcall
  refine ⟨(hregs .rsp (by decide)).trans hrsp, ?_⟩
  intro address haddress
  apply hmemory
  rw [hrsp]
  rintro (hmem | hmem)
  · exact Set.disjoint_right.mp hslot haddress hmem
  · exact Set.disjoint_right.mp hstored haddress hmem

theorem atCopy_kept (self : Machine) :
    (atCopy self).regs .rsp = self.regs .rsp ∧ (atCopy self).memory = self.memory := by
  obtain ⟨ready, hready, hmemory, _, _, _, _, _, hregs⟩ := prepareCopy_spec
    (rfl : readProgramHeader (self.setReg .rax ((self.memory.read32 (self.regs .rbx)).setWidth
      64)).memory _ = _)
  rw [atCopy, hready]
  exact ⟨hregs .rsp (by decide), hmemory⟩

theorem copy_sameOn (hslot : Disjoint stackSlot region) (hrsp : self.regs .rsp = 0x90000#64)
    (hstored : Disjoint (storedBytes (atCopy self)) region) {copied : Machine}
    (hcopied : callRoutine copyReturn memoryCopy (atCopy self) = some copied) :
    copied.regs .rsp = 0x90000#64 ∧ SameOn region self.memory copied.memory := by
  obtain ⟨hkept, hmemory⟩ := atCopy_kept self
  rw [← hmemory]
  exact callRoutine_sameOn copyByte_step hslot (hkept.trans hrsp) hstored hcopied

/-- The two kinds of passes. -/
theorem programHeader_cases (hpass : programHeader copyReturn zeroReturn self = some next) :
    (∃ value, next = nextProgramHeader (self.setReg .rax value)) ∨
      self.memory.read32 (self.regs .rbx) = 1#32 ∧ ∃ copied zeroed,
        callRoutine copyReturn memoryCopy (atCopy self) = some copied ∧
        callRoutine zeroReturn memoryZero (prepareZero copied) = some zeroed ∧
        next = nextProgramHeader zeroed := by
  simp only [programHeader] at hpass
  split at hpass
  · next htype =>
      obtain ⟨loaded, hloaded, rfl⟩ := Option.map_eq_some_iff.mp hpass
      obtain ⟨copied, hcopied, hzeroed⟩ := Option.bind_eq_some_iff.mp hloaded
      exact .inr ⟨htype, copied, loaded, hcopied, hzeroed, rfl⟩
  · cases hpass
    exact .inl ⟨_, rfl⟩

theorem programHeader_sameOn (hslot : Disjoint stackSlot region)
    (hrsp : self.regs .rsp = 0x90000#64)
    (hmisses : self.memory.read32 (self.regs .rbx) = 1#32 → PassMisses copyReturn region self)
    (hpass : programHeader copyReturn zeroReturn self = some next) :
    next.regs .rsp = 0x90000#64 ∧ SameOn region self.memory next.memory := by
  rcases programHeader_cases hpass with
    ⟨value, rfl⟩ | ⟨htype, copied, zeroed, hcopied, hzeroed, rfl⟩
  · exact ⟨hrsp, fun _ _ => rfl⟩
  · obtain ⟨hcopiedRsp, hcopiedMemory⟩ := copy_sameOn hslot hrsp (hmisses htype).copied hcopied
    have hreadyRsp : (prepareZero copied).regs .rsp = 0x90000#64 := hcopiedRsp
    obtain ⟨hzeroedRsp, hzeroedMemory⟩ := callRoutine_sameOn zeroByte_step hslot hreadyRsp
      ((hmisses htype).zeroed copied hcopied) hzeroed
    refine ⟨hzeroedRsp, ?_⟩
    intro address haddress
    exact (hzeroedMemory address haddress).trans (hcopiedMemory address haddress)

/-- Passes whose segments are elsewhere keep a region. -/
theorem elfProgramLoop_sameOn (hslot : Disjoint stackSlot region) {count : Nat}
    (hrsp : self.regs .rsp = 0x90000#64)
    (hmisses : ∀ earlier < count, ∀ before,
      elfProgramLoop copyReturn zeroReturn earlier self = some before →
      before.memory.read32 (before.regs .rbx) = 1#32 → PassMisses copyReturn region before)
    (hloop : elfProgramLoop copyReturn zeroReturn count self = some next) :
    next.regs .rsp = 0x90000#64 ∧ SameOn region self.memory next.memory := by
  induction count generalizing self with
  | zero =>
      cases hloop
      exact ⟨hrsp, fun _ _ => rfl⟩
  | succ count ih =>
      rw [elfProgramLoop] at hloop
      by_cases hend : self.regs .r15 ≤ self.regs .r8
      · rw [if_pos hend] at hloop
        cases hloop
        exact ⟨hrsp, fun _ _ => rfl⟩
      · rw [if_neg hend] at hloop
        obtain ⟨passed, hpassed, hrest⟩ := Option.bind_eq_some_iff.mp hloop
        obtain ⟨hpassedRsp, hpassedMemory⟩ := programHeader_sameOn hslot hrsp
          (hmisses 0 (by omega) self rfl) hpassed
        have hlater : ∀ earlier < count, ∀ before,
            elfProgramLoop copyReturn zeroReturn earlier passed = some before →
            before.memory.read32 (before.regs .rbx) = 1#32 →
            PassMisses copyReturn region before := by
          intro earlier hearlier before hbefore
          apply hmisses (earlier + 1) (by omega) before
          rw [elfProgramLoop, if_neg hend, hpassed]
          exact hbefore
        obtain ⟨hnextRsp, hnextMemory⟩ := ih hpassedRsp hlater hrest
        refine ⟨hnextRsp, ?_⟩
        intro address haddress
        exact (hnextMemory address haddress).trans (hpassedMemory address haddress)

end Passes

/-- The file lies below the table and away from the stacks. -/
theorem bootRegion_disjoint {kernel : List U8} (hlength : kernel.length ≤ 0x40000) :
    Disjoint bootRegion (fileSpan kernel) := by
  apply Set.disjoint_right.mpr
  intro address haddress
  rw [fileSpan, mem_span, kernelBuffer] at haddress
  rintro ((hmem | hmem) | hmem)
  all_goals
    rw [mem_span] at hmem
    bv_omega

/-- `load_kernel` brings the file into the buffer. -/
theorem loadKernel_intact {stage1 stage2 kernel image : List U8}
    (hbuilt : buildImage stage1 stage2 kernel = .ok image)
    {disk : DiskPacket → Option (List U8)} (hdisk : CopiesSectors disk image) {memory : Memory}
    {loaded : KernelLoad} (hloaded : loadKernel disk memory = some loaded) :
    Intact kernel loaded.memory := by
  obtain ⟨_, hfits, himage, hkernel⟩ := buildImage_ok hbuilt
  obtain ⟨load, hload, hsectors⟩ := loadKernel_spec hdisk himage memory
  obtain rfl : load = loaded := Option.some.inj (hload.symm.trans hloaded)
  intro index hindex
  rw [← hkernel index hindex]
  exact hsectors.bytes index (lt_of_lt_of_le hindex hfits)

section Boot

variable {stage1 stage2 kernel image : List U8} {disk : DiskPacket → Option (List U8)}
  {memory : Memory} {loaded : KernelLoad} {pushes : BootPushes} {bios : Nat → Reply}
  {map : MemoryMap} {start : Machine}

/-- A file that ends below the table survives. -/
theorem survives_of_short (copyReturn zeroReturn : U64) (hlength : kernel.length ≤ 0x40000)
    (hloaded : Intact kernel loaded.memory)
    (hreached : reachElf pushes bios loaded.memory = some map)
    (hmemory : start.memory = map.ram.memory) (hrsp : start.regs .rsp = 0x90000#64) :
    Survives copyReturn zeroReturn kernel map.ram.stores start := by
  have hdisjoint := bootRegion_disjoint hlength
  obtain ⟨hwithin, _⟩ := reachElf_spec hreached
  have hslot : Disjoint stackSlot (fileSpan kernel) := by
    apply hdisjoint.mono_left
    have hinside : stackSlot ⊆ span 0x8FFE0#64 32 :=
      span_subset (show _ = _ + BitVec.ofNat 64 24 from rfl) (by decide)
    exact hinside.trans Set.subset_union_right
  have hchecks : Intact kernel start.memory := by
    rw [hmemory]
    apply hloaded.congr
    intro address haddress
    exact hwithin.memory address (Set.disjoint_right.mp hdisjoint haddress)
  have hpass {count : Nat} {state : Machine}
      (hstate : AtPass copyReturn zeroReturn (fileSpan kernel) start count state) :
      state.regs .rsp = 0x90000#64 ∧
        SameOn (fileSpan kernel) (readElfHeader start).memory state.memory := by
    apply elfProgramLoop_sameOn hslot _ hstate.missed hstate.reached
    exact hrsp
  refine ⟨?_, hslot, hchecks, ?_, ?_⟩
  · intro entry hentry
    exact hdisjoint.mono_left (hwithin.stores entry hentry)
  · intro count state hstate
    exact hchecks.congr (hpass hstate).2
  · intro count state hstate hstored copied hcopied
    obtain ⟨hstateRsp, hstateMemory⟩ := hpass hstate
    obtain ⟨_, hcopiedMemory⟩ := copy_sameOn hslot hstateRsp hstored hcopied
    exact (hchecks.congr hstateMemory).congr hcopiedMemory

/-- A file that survives ends below the first entry of the table. -/
theorem short_of_stores (hreached : reachElf pushes bios loaded.memory = some map)
    (hstores : ∀ entry ∈ map.ram.stores, Disjoint (span entry.1 entry.2) (fileSpan kernel)) :
    kernel.length ≤ 0x40000 := by
  obtain ⟨_, size, hsize, hentry⟩ := reachElf_spec hreached
  have hmiss := hstores _ hentry
  by_contra hlong
  have htable : 0x60000#64 ∈ span 0x60000#64 size := by
    rw [mem_span, BitVec.sub_self]
    exact lt_of_lt_of_le (by decide) hsize
  apply Set.disjoint_left.mp hmiss htable
  rw [fileSpan, mem_span]
  exact not_le.mp hlong

/-- The kernel file survives until it is loaded exactly if it has at most 512
sectors. -/
theorem kernel_survives_iff (copyReturn zeroReturn : U64)
    (hbuilt : buildImage stage1 stage2 kernel = .ok image) (hdisk : CopiesSectors disk image)
    (hloaded : loadKernel disk memory = some loaded)
    (hreached : reachElf pushes bios loaded.memory = some map)
    (hmemory : start.memory = map.ram.memory) (hrsp : start.regs .rsp = 0x90000#64) :
    Survives copyReturn zeroReturn kernel map.ram.stores start ↔ kernel.length ≤ 0x40000 := by
  constructor
  · intro hsurvives
    exact short_of_stores hreached hsurvives.stores
  · intro hlength
    have hintact := loadKernel_intact hbuilt hdisk hloaded
    exact survives_of_short copyReturn zeroReturn hlength hintact hreached hmemory hrsp

end Boot

def noMessages : BootPushes :=
  ⟨⟨0#16, []⟩, fun _ => 0#16, ⟨0x81D8#64, []⟩, ⟨0x81E7#64, []⟩⟩

theorem bootSector_accepted {kernel : List U8} (hpositive : 0 < kernel.length)
    (hfits : kernel.length ≤ 0x80000) :
    buildImage bootSector [] kernel = .ok (layout bootSector [] kernel) := by
  have hchecked : checkFiles bootSector [] kernel = .ok () :=
    checkFiles_valid bootSector_length bootSector_signature.1 bootSector_signature.2 (Nat.zero_le _)
      hpositive hfits
  rw [buildImage, hchecked]
  rfl

/-- A firmware with two entries: the table is behind the file's first 512
sectors. -/
theorem reachSwitch_two_entries (loaded : Memory) :
    ∃ map, reachSwitch noMessages twoReplies loaded = some map ∧
      ∀ offset < 24, map.ram.memory (0x60000#64 + BitVec.ofNat 64 offset) =
        entryByte (twoReplies 0) offset := by
  have hdetected (ram : Ram) :
      detectMemoryMap twoReplies ram = (e820After twoReplies ram 2).success :=
    detectMemoryMap_of_accepted ram (by decide) (by decide) twoReplies_deliver.accepted
      twoReplies_deliver.more (.inr rfl)
  simp only [reachSwitch, hdetected]
  generalize (List.finRange 5).foldl _ _ = called
  refine ⟨_, rfl, fun offset hoffset => ?_⟩
  have htable : tableEntry 0 = 0x60000#64 := rfl
  have haccepted : ∀ index < 2, (twoReplies index).Accepted := twoReplies_deliver.accepted
  rw [← htable]
  exact e820After_entry (by decide) haccepted (by decide) hoffset

/-- The messages leave it there. -/
theorem reachElf_two_entries (loaded : Memory) :
    ∃ map, reachElf noMessages twoReplies loaded = some map ∧
      ∀ offset < 24, map.ram.memory (0x60000#64 + BitVec.ofNat 64 offset) =
        entryByte (twoReplies 0) offset := by
  obtain ⟨switched, hswitched, htable⟩ := reachSwitch_two_entries loaded
  refine ⟨_, Option.map_eq_some_iff.mpr ⟨switched, hswitched, rfl⟩, fun offset hoffset => ?_⟩
  have hmiss : 0x60000#64 + BitVec.ofNat 64 offset ∉ span 0x8FFE0#64 32 := by
    rw [mem_span]
    bv_omega
  rw [Ram.serialWriteString64_memory _ _ _ hmiss, Ram.serialWriteString64_memory _ _ _ hmiss]
  exact htable offset hoffset

/-- Any file of at most 1024 sectors gets to the header checks. -/
theorem boot_reached {kernel : List U8} (hpositive : 0 < kernel.length)
    (hfits : kernel.length ≤ 0x80000) :
    ∃ image loaded map, buildImage bootSector [] kernel = .ok image ∧
      loadKernel (exactDisk image) (fun _ => 0#8) = some loaded ∧
      reachElf noMessages twoReplies loaded.memory = some map ∧
      ∀ offset < 24, map.ram.memory (0x60000#64 + BitVec.ofNat 64 offset) =
        entryByte (twoReplies 0) offset := by
  have hbuilt := bootSector_accepted hpositive hfits
  obtain ⟨_, _, himage, _⟩ := buildImage_ok hbuilt
  obtain ⟨loaded, hloaded, _⟩ := loadKernel_spec (exactDisk_copies _) himage (fun _ => 0#8)
  obtain ⟨map, hreached, htable⟩ := reachElf_two_entries loaded.memory
  exact ⟨_, loaded, map, hbuilt, hloaded, hreached, htable⟩

theorem small_kernel_survives :
    ∃ image loaded map, buildImage bootSector [] (elfFile 0x1000#64) = .ok image ∧
      loadKernel (exactDisk image) (fun _ => 0#8) = some loaded ∧
      reachElf noMessages twoReplies loaded.memory = some map ∧
      Survives 0x826F#64 0x8281#64 (elfFile 0x1000#64) map.ram.stores
        (atHeaderChecks map.ram.memory) := by
  have hlength : (elfFile 0x1000#64).length = 112 := by decide
  obtain ⟨image, loaded, map, hbuilt, hloaded, hreached, _⟩ :=
    boot_reached (show 0 < (elfFile 0x1000#64).length by omega) (by omega)
  refine ⟨image, loaded, map, hbuilt, hloaded, hreached, ?_⟩
  have hsurvives := kernel_survives_iff 0x826F#64 0x8281#64 hbuilt (exactDisk_copies _) hloaded
    hreached
    (rfl : (atHeaderChecks map.ram.memory).memory = _) rfl
  exact hsurvives.mpr (by omega)

/-- A file of 513 sectors. -/
def longKernel : List U8 :=
  elfFile 0x1000#64 ++ List.replicate 0x40000 0#8

/-- It is accepted and loaded, but where its first 512 sectors end there is the
first entry of the memory map. -/
theorem long_kernel_overwritten :
    ∃ image loaded map, buildImage bootSector [] longKernel = .ok image ∧
      CopiesSectors (exactDisk image) image ∧
      loadKernel (exactDisk image) (fun _ => 0#8) = some loaded ∧
      reachElf noMessages twoReplies loaded.memory = some map ∧
      longKernel[0x40009]? = some 0#8 ∧
      map.ram.memory (kernelBuffer + BitVec.ofNat 64 0x40009) = 0xFC#8 ∧
      ¬ Intact longKernel map.ram.memory := by
  have hheader : (elfFile 0x1000#64).length = 112 := by decide
  have hlength : longKernel.length = 0x40070 := by
    rw [longKernel, List.length_append, List.length_replicate, hheader]
  obtain ⟨image, loaded, map, hbuilt, hloaded, hreached, htable⟩ :=
    boot_reached (show 0 < longKernel.length by omega) (by omega)
  have hbyte : longKernel[0x40009]? = some 0#8 := by
    rw [longKernel, List.getElem?_append_right (by omega), hheader, List.getElem?_replicate]
    rfl
  have hoverwritten : map.ram.memory (kernelBuffer + BitVec.ofNat 64 0x40009) = 0xFC#8 := by
    have hentry := htable 9 (by decide)
    exact hentry.trans (by decide)
  refine ⟨image, loaded, map, hbuilt, exactDisk_copies _, hloaded, hreached, hbyte,
    hoverwritten, ?_⟩
  intro hintact
  have hsame := hintact 0x40009 (by omega)
  rw [hbyte, hoverwritten] at hsame
  cases hsame

end UnboundOS.Loader
