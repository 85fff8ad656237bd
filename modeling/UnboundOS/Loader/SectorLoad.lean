import UnboundOS.Loader.Stage2

/-!
The image builder and `load_kernel` against each other. The loader is modelled
here as the firmware sees it: every `INT 13h` is a request with a number, may
fail, and may be answered differently each time. What the loop does with its
counters depends on none of this; with a firmware that copies what it is asked
for, the kernel file arrives.
-/

namespace UnboundOS.Loader

open X86 X86.Memory

/-- What the firmware does with one request: the carry flag, and the bytes it
has copied to the destination. -/
structure DiskReply where
  carry : Bool
  bytes : List U8

/-- The end of `load_kernel`. `passes` are the states in which it called the
firmware. -/
structure LoadReturn where
  carry : Bool
  load : KernelLoad
  passes : List KernelLoad

/-- The loop of `load_kernel`. `bios` is the firmware, which is asked for the
`index`-th time. -/
def readChunks (bios : Nat → DiskPacket → DiskReply) : Nat → Nat → KernelLoad → LoadReturn
  | 0, _, self => ⟨false, self, []⟩
  | fuel + 1, index, self =>
      if self.remaining = 0#16 then ⟨false, self, []⟩
      else
        let reply := bios index self.packet
        if reply.carry then ⟨true, self.receive reply.bytes, [self]⟩
        else
          let rest := readChunks bios fuel (index + 1) (self.receive reply.bytes).advance
          ⟨rest.carry, rest.load, self :: rest.passes⟩

/-- `load_kernel` with its requests. -/
def runLoadKernel (bios : Nat → DiskPacket → DiskReply) (memory : Memory) : LoadReturn :=
  readChunks bios kernelMaxSectors.toNat 0 (startLoad memory)

/-- The reply of a firmware that knows only the packet. -/
def replyOf : Option (List U8) → DiskReply
  | some bytes => ⟨false, bytes⟩
  | none => ⟨true, []⟩

/-- No counter wraps: the next state is this one plus the sectors read, in
plain numbers. -/
structure Advances (before after : KernelLoad) : Prop where
  destination : (physical after.destinationSegment 0#16).toNat =
    (physical before.destinationSegment 0#16).toNat + before.chunk.toNat * sectorSize
  segment : after.destinationSegment.toNat =
    before.destinationSegment.toNat + 32 * before.chunk.toNat
  remaining : after.remaining.toNat + before.chunk.toNat = before.remaining.toNat
  lba : after.currentLbaHigh.toNat * 2 ^ 32 + after.currentLbaLow.toNat =
    before.currentLbaHigh.toNat * 2 ^ 32 + before.currentLbaLow.toNat + before.chunk.toNat

theorem LoadAt.advances {done : Nat} {self : KernelLoad} (hself : LoadAt done self)
    (hdone : done < 1024) (bytes : List U8) : Advances self (self.receive bytes).advance := by
  have hnext := hself.advance hdone bytes
  have hbound := hnext.bound
  refine ⟨?_, ?_, ?_, ?_⟩
  · rw [hself.destination, hnext.destination, hself.chunk, kernelBuffer, sectorSize]
    bv_omega
  · rw [hself.segment, hnext.segment, hself.chunk, BitVec.toNat_ofNat, BitVec.toNat_ofNat]
    omega
  · rw [hself.remaining, hnext.remaining, hself.chunk, BitVec.toNat_ofNat, BitVec.toNat_ofNat]
    omega
  · rw [hself.lba, hnext.lba, hself.chunk, Nat.add_assoc]

section Loop

variable (bios : Nat → DiskPacket → DiskReply) (fuel index : Nat)

theorem readChunks_failed {self : KernelLoad} (hmore : self.remaining ≠ 0#16)
    (hcarry : (bios index self.packet).carry = true) :
    readChunks bios (fuel + 1) index self =
      ⟨true, self.receive (bios index self.packet).bytes, [self]⟩ := by
  rw [readChunks, if_neg hmore]
  exact if_pos hcarry

theorem readChunks_read {self : KernelLoad} (hmore : self.remaining ≠ 0#16)
    (hcarry : (bios index self.packet).carry = false) :
    ∃ rest, readChunks bios fuel (index + 1)
        (self.receive (bios index self.packet).bytes).advance = rest ∧
      readChunks bios (fuel + 1) index self = ⟨rest.carry, rest.load, self :: rest.passes⟩ := by
  refine ⟨_, rfl, ?_⟩
  rw [readChunks, if_neg hmore]
  exact if_neg (Bool.not_eq_true _ ▸ hcarry)

/-- Everything one round can do: stop, fail, or read and go on. -/
theorem readChunks_cases (self : KernelLoad) :
    (self.remaining = 0#16 ∧ readChunks bios (fuel + 1) index self = ⟨false, self, []⟩) ∨
    (self.remaining ≠ 0#16 ∧ (bios index self.packet).carry = true ∧
      readChunks bios (fuel + 1) index self =
        ⟨true, self.receive (bios index self.packet).bytes, [self]⟩) ∨
    (self.remaining ≠ 0#16 ∧ (bios index self.packet).carry = false ∧
      ∃ rest, readChunks bios fuel (index + 1)
          (self.receive (bios index self.packet).bytes).advance = rest ∧
        readChunks bios (fuel + 1) index self =
          ⟨rest.carry, rest.load, self :: rest.passes⟩) := by
  by_cases hdone : self.remaining = 0#16
  · exact Or.inl ⟨hdone, if_pos hdone⟩
  · apply Or.inr
    cases hcarry : (bios index self.packet).carry with
    | true => exact Or.inl ⟨hdone, rfl, readChunks_failed bios fuel index hdone hcarry⟩
    | false => exact Or.inr ⟨hdone, rfl, readChunks_read bios fuel index hdone hcarry⟩

/-- The carry flag is set exactly if a request has failed. -/
theorem readChunks_carry (self : KernelLoad) :
    (readChunks bios fuel index self).carry = true ↔
      ∃ (pass : Nat) (load : KernelLoad),
        (readChunks bios fuel index self).passes[pass]? = some load ∧
        (bios (index + pass) load.packet).carry = true := by
  induction fuel generalizing index self with
  | zero => simp [readChunks]
  | succ fuel ih =>
      rcases readChunks_cases bios fuel index self with
        ⟨_, hround⟩ | ⟨_, hcarry, hround⟩ | ⟨_, hcarry, rest, hrest, hround⟩
      · rw [hround]
        simp
      · rw [hround]
        exact iff_of_true rfl ⟨0, self, rfl, hcarry⟩
      · have hlater := ih (index + 1) (self.receive (bios index self.packet).bytes).advance
        rw [hrest] at hlater
        rw [hround, hlater]
        constructor
        · rintro ⟨pass, load, hpass, hfailed⟩
          refine ⟨pass + 1, load, hpass, ?_⟩
          rwa [← Nat.add_assoc, Nat.add_right_comm]
        · rintro ⟨pass, load, hpass, hfailed⟩
          cases pass with
          | zero =>
              cases hpass
              rw [Nat.add_zero, hcarry] at hfailed
              cases hfailed
          | succ pass =>
              refine ⟨pass, load, hpass, ?_⟩
              rwa [Nat.add_right_comm, Nat.add_assoc]

/-- The loop cannot tell two firmwares apart that answer its requests alike. -/
theorem readChunks_congr {other : Nat → DiskPacket → DiskReply} (self : KernelLoad)
    (hsame : ∀ (pass : Nat) (load : KernelLoad),
      (readChunks bios fuel index self).passes[pass]? = some load →
      bios (index + pass) load.packet = other (index + pass) load.packet) :
    readChunks bios fuel index self = readChunks other fuel index self := by
  induction fuel generalizing index self with
  | zero => rfl
  | succ fuel ih =>
      rcases readChunks_cases bios fuel index self with
        ⟨hdone, hround⟩ | ⟨hmore, hcarry, hround⟩ | ⟨hmore, hcarry, rest, hrest, hround⟩
      · rw [hround]
        exact (if_pos hdone).symm
      · rw [hround] at hsame ⊢
        have hfirst : bios index self.packet = other index self.packet := hsame 0 self rfl
        rw [hfirst] at hcarry ⊢
        rw [readChunks_failed other fuel index hmore hcarry]
      · rw [hround] at hsame ⊢
        have hfirst : bios index self.packet = other index self.packet := hsame 0 self rfl
        have hlater := ih (index + 1) (self.receive (bios index self.packet).bytes).advance
          (fun pass load hpass => by
            rw [hrest] at hpass
            have hnext := hsame (pass + 1) load hpass
            rwa [← Nat.add_assoc, Nat.add_right_comm] at hnext)
        rw [hfirst] at hcarry hlater hrest
        obtain ⟨_, hrestOther, hroundOther⟩ := readChunks_read other fuel index hmore hcarry
        rw [← hlater, hrest] at hrestOther
        rw [hroundOther, hrestOther]

/-- The states of a run without failure, up to the last one. -/
theorem readChunks_chain {done : Nat} {self : KernelLoad} (hself : LoadAt done self)
    (hcarry : (readChunks bios fuel index self).carry = false) :
    ((readChunks bios fuel index self).passes ++
        [(readChunks bios fuel index self).load]).IsChain Advances ∧
      ((readChunks bios fuel index self).passes ++
        [(readChunks bios fuel index self).load]).head? = some self := by
  induction fuel generalizing index self done with
  | zero => exact ⟨List.isChain_singleton self, rfl⟩
  | succ fuel ih =>
      rcases readChunks_cases bios fuel index self with
        ⟨_, hround⟩ | ⟨_, _, hround⟩ | ⟨hmore, _, rest, hrest, hround⟩
      · rw [hround]
        exact ⟨List.isChain_singleton self, rfl⟩
      · rw [hround] at hcarry
        cases hcarry
      · have hdone : done < 1024 := by
          have hbound := hself.bound
          apply lt_of_le_of_ne hbound
          rintro rfl
          exact hmore hself.remaining
        rw [hround] at hcarry ⊢
        have hnext := hself.advance hdone (bios index self.packet).bytes
        obtain ⟨hchain, hhead⟩ := ih (index + 1) hnext (by rw [hrest]; exact hcarry)
        rw [hrest] at hchain hhead
        refine ⟨?_, rfl⟩
        rw [List.cons_append, List.isChain_cons]
        refine ⟨fun next hmem => ?_, hchain⟩
        rw [hhead, Option.mem_some_iff] at hmem
        rw [← hmem]
        exact hself.advances hdone _

/-- For a firmware without memory this is the loop of `load_kernel` as the rest
of Stage 2 sees it. -/
theorem loadChunks_eq (disk : DiskPacket → Option (List U8)) (self : KernelLoad) :
    loadChunks disk fuel self =
      if (readChunks (fun _ packet => replyOf (disk packet)) fuel index self).carry then none
      else some (readChunks (fun _ packet => replyOf (disk packet)) fuel index self).load := by
  induction fuel generalizing index self with
  | zero => rfl
  | succ fuel ih =>
      rcases readChunks_cases (fun _ packet => replyOf (disk packet)) fuel index self with
        ⟨hdone, hround⟩ | ⟨hmore, hcarry, hround⟩ | ⟨hmore, hcarry, rest, hrest, hround⟩
      · rw [hround, loadChunks, if_pos hdone]
        rfl
      · rw [hround, loadChunks, if_neg hmore, loadNextChunk]
        cases hbytes : disk self.packet with
        | none => rfl
        | some bytes =>
            rw [hbytes] at hcarry
            cases hcarry
      · rw [hround, loadChunks, if_neg hmore, loadNextChunk]
        cases hbytes : disk self.packet with
        | none =>
            rw [hbytes] at hcarry
            cases hcarry
        | some bytes =>
            rw [hbytes] at hrest
            change readChunks _ fuel (index + 1) (self.receive bytes).advance = rest at hrest
            rw [Option.map_some, Option.bind_some, ih (index + 1), hrest]

end Loop

/-- The kernel file in the buffer, with zeros up to the end of the area, by
reads that lie one behind the other. -/
structure KernelArrived (kernel : List U8) (result : LoadReturn) : Prop where
  carry : result.carry = false
  bytes : ∀ index < kernel.length,
    kernel[index]? = some (result.load.memory (kernelBuffer + BitVec.ofNat 64 index))
  zeros : ∀ index, kernel.length ≤ index → index < kernelBufferSize →
    result.load.memory (kernelBuffer + BitVec.ofNat 64 index) = 0#8
  begins : ((result.passes ++ [result.load]).head?.map fun load =>
    physical load.destinationSegment 0#16) = some kernelBuffer
  advances : (result.passes ++ [result.load]).IsChain Advances
  complete : result.load.remaining = 0#16

/-- A firmware that copies what it is asked for. -/
theorem runLoadKernel_spec {bios : Nat → DiskPacket → DiskReply} {image : List U8}
    (himage : image.length = imageSize) (memory : Memory)
    (hreads : ∀ (pass : Nat) (load : KernelLoad),
      (runLoadKernel bios memory).passes[pass]? = some load →
      bios pass load.packet = ⟨false, namedSectors image load.packet⟩) :
    (runLoadKernel bios memory).carry = false ∧
      SectorsLoaded image 1024 (runLoadKernel bios memory).load := by
  obtain ⟨loaded, hloaded, hsectors⟩ := loadKernel_spec (exactDisk_copies image) himage memory
  have hsame : runLoadKernel bios memory = readChunks
      (fun _ packet => replyOf (exactDisk image packet)) kernelMaxSectors.toNat 0
      (startLoad memory) := by
    apply readChunks_congr
    intro pass load hpass
    rw [Nat.zero_add]
    exact hreads pass load hpass
  have hrun : loadKernel (exactDisk image) memory = _ :=
    loadChunks_eq kernelMaxSectors.toNat 0 _ (startLoad memory)
  rw [hloaded, ← hsame] at hrun
  cases hcarry : (runLoadKernel bios memory).carry with
  | true =>
      rw [hcarry] at hrun
      cases hrun
  | false =>
      rw [hcarry] at hrun
      cases hrun
      exact ⟨rfl, hsectors⟩

/-- The image of three valid files is built without a panic and holds them at
their places, and `load_kernel` gets the kernel file out of it. -/
theorem image_builder_and_loader_agree (stage1 stage2 kernel : List U8)
    (hstage1 : stage1.length = 512)
    (hsignature : stage1[510]? = some 0x55#8 ∧ stage1[511]? = some 0xAA#8)
    (hstage2 : stage2.length ≤ 16384) (hkernel : kernel ≠ [])
    (hsectors : (kernel.length + 511) / 512 ≤ 1024) :
    ∃ image, createImage stage1 stage2 kernel = some (.ok image) ∧
      ImageLayout stage1 stage2 kernel image ∧
      ∀ (bios : Nat → DiskPacket → DiskReply) (memory : Memory),
        ((∀ (pass : Nat) (load : KernelLoad),
            (runLoadKernel bios memory).passes[pass]? = some load →
            bios pass load.packet = ⟨false, namedSectors image load.packet⟩) →
          KernelArrived kernel (runLoadKernel bios memory)) ∧
        ((∃ (pass : Nat) (load : KernelLoad),
            (runLoadKernel bios memory).passes[pass]? = some load ∧
            (bios pass load.packet).carry = true) →
          (runLoadKernel bios memory).carry = true) := by
  have hpositive := List.length_pos_iff.mpr hkernel
  have hroom : kernel.length ≤ stage2KernelReadSectors * sectorSize := by
    rw [stage2KernelReadSectors, sectorSize]
    omega
  have hchecked : checkFiles stage1 stage2 kernel = .ok () :=
    checkFiles_valid hstage1 hsignature.1 hsignature.2 hstage2 hpositive hroom
  have hbuilt : buildImage stage1 stage2 kernel = .ok (layout stage1 stage2 kernel) := by
    rw [buildImage, hchecked]
    rfl
  have hlayout := layout_spec hchecked
  refine ⟨layout stage1 stage2 kernel, by rw [createImage_eq, hbuilt], hlayout,
    fun bios memory => ⟨fun hreads => ?_, fun hfailed => ?_⟩⟩
  · obtain ⟨hcarry, hloaded⟩ := runLoadKernel_spec hlayout.length memory hreads
    obtain ⟨hchain, hhead⟩ := readChunks_chain bios _ 0 (startLoad_at memory) hcarry
    rw [← runLoadKernel] at hchain hhead
    refine ⟨hcarry, fun index hindex => ?_, fun index hbehind hindex => ?_, ?_, hchain,
      hloaded.remaining⟩
    · rw [← hloaded.bytes index (lt_of_lt_of_le hindex hroom), hlayout.kernel_at index hindex]
    · have hbyte := hloaded.bytes index hindex
      have hplace : kernelLba * sectorSize + index < imageSize := by
        rw [imageSize, Nat.add_mul]
        exact Nat.add_lt_add_left hindex _
      have hstage2End : sectorSize + stage2.length ≤ kernelLba * sectorSize + index := by
        apply le_trans (Nat.add_le_add_left hstage2 sectorSize)
        exact Nat.le_add_right _ _
      rw [hlayout.zeros _ hplace hstage2End (Or.inr (Nat.add_le_add_left hbehind _))] at hbyte
      exact (Option.some.inj hbyte).symm
    · rw [hhead, Option.map_some, (startLoad_at memory).destination, Nat.zero_mul, BitVec.add_zero]
  · apply (readChunks_carry bios _ 0 (startLoad memory)).mpr
    obtain ⟨pass, load, hpass, hcarry⟩ := hfailed
    exact ⟨pass, load, hpass, by rw [Nat.zero_add]; exact hcarry⟩

/-- A kernel file of one byte, read by a firmware without errors. -/
theorem image_builder_and_loader_agree_one_byte :
    ∃ image, createImage bootSector [] [0x7F#8] = some (.ok image) ∧
      KernelArrived [0x7F#8] (runLoadKernel
        (fun _ packet => ⟨false, namedSectors image packet⟩) fun _ => 0#8) := by
  obtain ⟨image, hcreated, _, hload⟩ := image_builder_and_loader_agree bootSector [] [0x7F#8]
    bootSector_length bootSector_signature (Nat.zero_le _) (List.cons_ne_nil _ _) (by decide)
  exact ⟨image, hcreated, (hload _ _).1 fun _ _ _ => rfl⟩

end UnboundOS.Loader
