import UnboundOS.Memory.FrameAllocator

/-!
What `initializeAllocator` leaves free. The release pass rounds every usable
E820 region inwards and the reserve passes round outwards; the result is one
closed description of the free set, independent of the order, the overlaps and
the multiplicity of the map entries.
-/

namespace UnboundOS.Memory

theorem alignDown_toNat (value : U64) :
    (alignDown value frameSize).toNat = 4096 * (value.toNat / 4096) := by
  have hmod : (value % frameSize).toNat = value.toNat % 4096 := by
    rw [BitVec.toNat_umod, frameSize_toNat]
  have hle : value.toNat % 4096 ≤ value.toNat := Nat.mod_le _ _
  have hlt := value.isLt
  rw [alignDown, BitVec.toNat_sub, hmod]
  omega

/-- Rounding up is safe as long as the last page of the address space is not
reached. -/
theorem alignUp_spec {value : U64} (hvalue : value.toNat ≤ 2 ^ 64 - 4096) :
    ∃ rounded, alignUp value frameSize = some rounded ∧
      rounded.toNat = 4096 * ((value.toNat + 4095) / 4096) := by
  have hmod : (value % frameSize).toNat = value.toNat % 4096 := by
    rw [BitVec.toNat_umod, frameSize_toNat]
  unfold alignUp
  by_cases haligned : value % frameSize = 0#64
  · have hzero : value.toNat % 4096 = 0 := by rw [← hmod, haligned]; rfl
    exact ⟨value, if_pos haligned, by omega⟩
  · have hpositive : 0 < value.toNat % 4096 := by
      rw [← hmod]
      exact Nat.pos_of_ne_zero (fun hzero => haligned (BitVec.eq_of_toNat_eq hzero))
    have hgap : (frameSize - value % frameSize).toNat = 4096 - value.toNat % 4096 := by
      rw [BitVec.toNat_sub, hmod, frameSize_toNat]
      omega
    have hadd := checkedAdd_eq_some (a := value) (b := frameSize - value % frameSize)
      (by omega)
    refine ⟨_, by rw [if_neg haligned, hadd], ?_⟩
    rw [checkedAdd_toNat hadd, hgap]
    omega

namespace FrameAllocator

/-- The state during initialization: the counter is exact and nothing has been
handed out yet. -/
structure Booting (allocator : FrameAllocator) : Prop where
  count_eq : allocator.freeFrames = allocator.freeSet.card
  none_allocated : allocator.allocSet = ∅

theorem Booting.consistent {self : FrameAllocator} (hself : self.Booting) : self.Consistent :=
  ⟨hself.count_eq, by rw [hself.none_allocated]; exact Finset.disjoint_empty_right _⟩

theorem Booting.nullReserved {self : FrameAllocator} (hself : self.Booting)
    (hlow : ∀ frame ∈ self.freeSet, 256 ≤ frame.val) : self.NullReserved := by
  intro frame hframe
  rw [managed, hself.none_allocated, Finset.union_empty] at hframe
  have := hlow frame hframe
  omega

theorem reserved_booting : reserved.Booting ∧ reserved.freeSet = ∅ := by
  have hfree : reserved.freeSet = ∅ := by
    ext frame
    simp [reserved, isUsed]
  refine ⟨⟨by rw [hfree]; rfl, ?_⟩, hfree⟩
  ext frame
  simp [reserved, isAllocated]

private theorem page_number (address : U64) :
    (address / frameSize).toNat = address.toNat / 4096 := by
  rw [BitVec.toNat_udiv, frameSize_toNat]

/-- Releasing the page of an address adds exactly that frame, if the bitmap
has it. -/
theorem releaseFrame_spec {self : FrameAllocator} (hself : self.Booting) (address : U64) :
    ∃ next, releaseFrame address self = some next ∧ next.Booting ∧
      ∀ frame, frame ∈ next.freeSet ↔
        frame ∈ self.freeSet ∨ frame.val = address.toNat / 4096 := by
  have hnumber := page_number address
  generalize address.toNat / 4096 = k at hnumber ⊢
  unfold releaseFrame
  simp only [hnumber]
  by_cases hframe : k < maxFrames
  · rw [dif_pos hframe]
    cases hused : self.isUsed ⟨k, hframe⟩ with
    | false =>
        refine ⟨self, by simp, hself, fun frame => ?_⟩
        refine ⟨Or.inl, ?_⟩
        rintro (hmem | heq)
        · exact hmem
        · have hsame : frame = ⟨k, hframe⟩ := Fin.ext heq
          rw [mem_freeSet, hsame, hused]
    | true =>
        have hnot : (⟨k, hframe⟩ : Frame) ∉ self.freeSet := by simp [hused]
        have hfree := freeSet_markFree self ⟨k, hframe⟩
        refine ⟨_, by rw [if_pos rfl], ⟨?_, ?_⟩, fun frame => ?_⟩
        · change self.freeFrames + 1 = (self.markFree ⟨k, hframe⟩).freeSet.card
          rw [hfree, Finset.card_insert_of_notMem hnot, hself.count_eq]
        · exact hself.none_allocated
        · change frame ∈ (self.markFree ⟨k, hframe⟩).freeSet ↔ _
          rw [hfree, Finset.mem_insert, Fin.ext_iff]
          exact or_comm
  · refine ⟨self, by rw [dif_neg hframe], hself, fun frame => ⟨Or.inl, ?_⟩⟩
    rintro (hmem | heq)
    · exact hmem
    · exact absurd frame.isLt (by rw [heq]; exact hframe)

/-- Reserving the page of an address removes exactly that frame and never
underflows the counter. -/
theorem reserveFrame_spec {self : FrameAllocator} (hself : self.Booting) (address : U64) :
    ∃ next, reserveFrame address self = some next ∧ next.Booting ∧
      ∀ frame, frame ∈ next.freeSet ↔
        frame ∈ self.freeSet ∧ frame.val ≠ address.toNat / 4096 := by
  have hnumber := page_number address
  generalize address.toNat / 4096 = k at hnumber ⊢
  unfold reserveFrame
  simp only [hnumber]
  by_cases hframe : k < maxFrames
  · rw [dif_pos hframe]
    cases hused : self.isUsed ⟨k, hframe⟩ with
    | true =>
        refine ⟨self, by simp, hself, fun frame => ⟨fun hmem => ⟨hmem, ?_⟩, And.left⟩⟩
        intro heq
        have hsame : frame = ⟨k, hframe⟩ := Fin.ext heq
        rw [mem_freeSet, hsame, hused] at hmem
        cases hmem
    | false =>
        have hmem : (⟨k, hframe⟩ : Frame) ∈ self.freeSet := by simp [hused]
        have hfree := freeSet_markUsed self ⟨k, hframe⟩
        have hpositive : 1 ≤ self.freeFrames := by
          rw [hself.count_eq]
          exact Finset.card_pos.mpr ⟨_, hmem⟩
        refine ⟨{self.markUsed ⟨k, hframe⟩ with freeFrames := self.freeFrames - 1},
          ?_, ⟨?_, ?_⟩, fun frame => ?_⟩
        · simp [checkedSub_eq_some hpositive]
        · change self.freeFrames - 1 = (self.markUsed ⟨k, hframe⟩).freeSet.card
          rw [hfree, Finset.card_erase_of_mem hmem, hself.count_eq]
        · exact hself.none_allocated
        · change frame ∈ (self.markUsed ⟨k, hframe⟩).freeSet ↔ _
          rw [hfree, Finset.mem_erase, Ne, Fin.ext_iff]
          exact and_comm
  · refine ⟨self, by rw [dif_neg hframe], hself, fun frame => ⟨fun hmem => ⟨hmem, ?_⟩, And.left⟩⟩
    intro heq
    exact absurd frame.isLt (by rw [heq]; exact hframe)

end FrameAllocator

/-- The whole page of a frame lies in this entry, the entry is usable memory
and its end is representable. -/
def MemoryMapEntry.Covers (entry : MemoryMapEntry) (frame : Nat) : Prop :=
  entry.entryType = 1#32 ∧ entry.baseAddr.toNat + entry.length.toNat < 2 ^ 64 ∧
    entry.baseAddr.toNat ≤ 4096 * frame ∧
    4096 * (frame + 1) ≤ entry.baseAddr.toNat + entry.length.toNat

/-- The page of a frame has a byte in `[start, finish)`. -/
def PageMeets (frame : Nat) (start finish : U64) : Prop :=
  ∃ byte, 4096 * frame ≤ byte ∧ byte < 4096 * (frame + 1) ∧
    start.toNat ≤ byte ∧ byte < finish.toNat

theorem pageMeets_iff {frame : Nat} {start finish : U64} (horder : start < finish) :
    PageMeets frame start finish ↔
      start.toNat / 4096 ≤ frame ∧ frame < (finish.toNat + 4095) / 4096 := by
  have hlt : start.toNat < finish.toNat := horder
  constructor
  · rintro ⟨byte, hlow, hhigh, hstart, hfinish⟩
    omega
  · rintro ⟨hstart, hfinish⟩
    exact ⟨max (4096 * frame) start.toNat, by omega, by omega, by omega, by omega⟩

/-- The frames that are free right after initialization. -/
def UsableAfterBoot (memoryMap : List MemoryMapEntry) (kernelStart kernelEnd : U64)
    (frame : Nat) : Prop :=
  (∃ entry ∈ memoryMap, entry.Covers frame) ∧ 256 ≤ frame ∧
    ¬ PageMeets frame kernelStart kernelEnd

namespace FrameAllocator

private theorem multiple_page {k : Nat} (hk : 4096 * k < 2 ^ 64) :
    (BitVec.ofNat 64 (frameSize.toNat * k)).toNat / 4096 = k := by
  rw [BitVec.toNat_ofNat, frameSize_toNat]
  omega

/-- The release loop frees the frames between two page-aligned addresses. -/
theorem releaseLoop_spec {self : FrameAllocator} (hself : self.Booting)
    {address limit : U64} {start finish : Nat} (hstart : address.toNat = 4096 * start)
    (hlimit : limit.toNat = 4096 * finish) :
    ∃ next, strideLoop frameSize (by decide) limit releaseFrame address self = some next ∧
      next.Booting ∧ ∀ frame : Frame,
        frame ∈ next.freeSet ↔ frame ∈ self.freeSet ∨ (start ≤ frame.val ∧ frame.val < finish) := by
  have hbound := limit.isLt
  let freed (k : Nat) (state : FrameAllocator) : Prop := state.Booting ∧ ∀ frame : Frame,
    frame ∈ state.freeSet ↔ frame ∈ self.freeSet ∨ (start ≤ frame.val ∧ frame.val < k)
  have hinit : freed start self :=
    ⟨hself, fun frame => ⟨Or.inl, fun hmem => hmem.resolve_right (by omega)⟩⟩
  have hstep (k : Nat) (hlow : start ≤ k) (hk : k < finish) (state : FrameAllocator)
      (hstate : freed k state) :
      ∃ next, releaseFrame (BitVec.ofNat 64 (frameSize.toNat * k)) state = some next ∧
        freed (k + 1) next := by
    obtain ⟨hboot, hfree⟩ := hstate
    obtain ⟨next, hnext, hnextBoot, hnextFree⟩ :=
      releaseFrame_spec hboot (BitVec.ofNat 64 (frameSize.toNat * k))
    rw [multiple_page (by omega)] at hnextFree
    refine ⟨next, hnext, hnextBoot, fun frame => ?_⟩
    rw [hnextFree, hfree, or_assoc]
    exact or_congr_right (by omega)
  obtain ⟨next, hnext, hboot, hfree⟩ :=
    strideLoop_rule (by decide) freed hlimit hstep le_rfl hstart hinit
  refine ⟨next, hnext, hboot, fun frame => ?_⟩
  rw [hfree]
  exact or_congr_right (by omega)

/-- The reserve loop takes away the frames between two page-aligned
addresses. -/
theorem reserveLoop_spec {self : FrameAllocator} (hself : self.Booting)
    {address limit : U64} {start finish : Nat} (hstart : address.toNat = 4096 * start)
    (hlimit : limit.toNat = 4096 * finish) :
    ∃ next, strideLoop frameSize (by decide) limit reserveFrame address self = some next ∧
      next.Booting ∧ ∀ frame : Frame,
        frame ∈ next.freeSet ↔
          frame ∈ self.freeSet ∧ ¬ (start ≤ frame.val ∧ frame.val < finish) := by
  have hbound := limit.isLt
  let taken (k : Nat) (state : FrameAllocator) : Prop := state.Booting ∧ ∀ frame : Frame,
    frame ∈ state.freeSet ↔ frame ∈ self.freeSet ∧ ¬ (start ≤ frame.val ∧ frame.val < k)
  have hinit : taken start self :=
    ⟨hself, fun frame => ⟨fun hmem => ⟨hmem, by omega⟩, And.left⟩⟩
  have hstep (k : Nat) (hlow : start ≤ k) (hk : k < finish) (state : FrameAllocator)
      (hstate : taken k state) :
      ∃ next, reserveFrame (BitVec.ofNat 64 (frameSize.toNat * k)) state = some next ∧
        taken (k + 1) next := by
    obtain ⟨hboot, hfree⟩ := hstate
    obtain ⟨next, hnext, hnextBoot, hnextFree⟩ :=
      reserveFrame_spec hboot (BitVec.ofNat 64 (frameSize.toNat * k))
    rw [multiple_page (by omega)] at hnextFree
    refine ⟨next, hnext, hnextBoot, fun frame => ?_⟩
    rw [hnextFree, hfree, and_assoc]
    exact and_congr_right (fun _ => by omega)
  obtain ⟨next, hnext, hboot, hfree⟩ :=
    strideLoop_rule (by decide) taken hlimit hstep le_rfl hstart hinit
  refine ⟨next, hnext, hboot, fun frame => ?_⟩
  rw [hfree]
  exact and_congr_right (fun _ => by omega)

/-- The clipped end of a region, in pages. -/
private theorem clip_toNat (last : U64) :
    (if maxPhysicalMemory < alignDown last frameSize then maxPhysicalMemory
      else alignDown last frameSize).toNat = 4096 * min 1048576 (last.toNat / 4096) := by
  have hdown := alignDown_toNat last
  split
  next hclip =>
    have hclip' : maxPhysicalMemory.toNat < (alignDown last frameSize).toNat := hclip
    rw [maxPhysicalMemory_toNat] at hclip' ⊢
    omega
  next hclip =>
    have hclip' : (alignDown last frameSize).toNat ≤ maxPhysicalMemory.toNat :=
      BitVec.not_lt.mp hclip
    rw [maxPhysicalMemory_toNat] at hclip'
    omega

/-- One map entry releases exactly the frames it covers. -/
theorem releaseEntry_spec {self : FrameAllocator} (hself : self.Booting)
    {entry : MemoryMapEntry}
    (hbase : entry.entryType = 1#32 → entry.baseAddr.toNat ≤ 2 ^ 64 - 4096) :
    ∃ next, self.releaseEntry entry = some next ∧ next.Booting ∧
      ∀ frame : Frame, frame ∈ next.freeSet ↔ frame ∈ self.freeSet ∨ entry.Covers frame := by
  have hnothing (hnone : ∀ frame : Frame, ¬ entry.Covers frame) :
      ∀ frame : Frame, frame ∈ self.freeSet ↔ frame ∈ self.freeSet ∨ entry.Covers frame :=
    fun frame => ⟨Or.inl, fun hmem => hmem.resolve_right (hnone frame)⟩
  unfold releaseEntry
  by_cases htype : entry.entryType = 1#32
  · rw [if_neg (not_not.mpr htype)]
    obtain ⟨regionStart, hstart, hstartNat⟩ := alignUp_spec (hbase htype)
    rw [hstart]
    simp only [Option.bind_eq_bind, Option.bind_some]
    cases hadd : checkedAdd entry.baseAddr entry.length with
    | none =>
        rw [checkedAdd_eq_none] at hadd
        refine ⟨self, rfl, hself, hnothing fun frame hcovers => ?_⟩
        have hend := hcovers.2.1
        omega
    | some last =>
        have hlast := checkedAdd_toNat hadd
        have hlastLt := last.isLt
        have hdown := alignDown_toNat last
        simp only
        by_cases hempty : alignDown last frameSize ≤ regionStart
        · have hle : (alignDown last frameSize).toNat ≤ regionStart.toNat := hempty
          rw [if_pos hempty]
          refine ⟨self, rfl, hself, hnothing fun frame hcovers => ?_⟩
          obtain ⟨_, _, hlow, hhigh⟩ := hcovers
          omega
        · rw [if_neg hempty]
          obtain ⟨next, hnext, hboot, hfree⟩ :=
            releaseLoop_spec hself hstartNat (clip_toNat last)
          refine ⟨next, hnext, hboot, fun frame => ?_⟩
          have hframe := lt_of_lt_of_eq frame.isLt maxFrames_eq
          rw [hfree, MemoryMapEntry.Covers]
          simp only [htype, true_and]
          exact or_congr_right (by omega)
  · rw [if_pos htype]
    exact ⟨self, rfl, hself, hnothing fun frame hcovers => htype hcovers.1⟩

/-- The release pass over the whole map, by induction on the map. -/
theorem releaseMap_spec (memoryMap : List MemoryMapEntry)
    (hbase : ∀ entry ∈ memoryMap, entry.entryType = 1#32 →
      entry.baseAddr.toNat ≤ 2 ^ 64 - 4096)
    {self : FrameAllocator} (hself : self.Booting) :
    ∃ next, memoryMap.foldlM releaseEntry self = some next ∧ next.Booting ∧
      ∀ frame : Frame, frame ∈ next.freeSet ↔
        frame ∈ self.freeSet ∨ ∃ entry ∈ memoryMap, entry.Covers frame := by
  induction memoryMap generalizing self with
  | nil => exact ⟨self, rfl, hself, fun frame => by simp⟩
  | cons entry rest ih =>
      obtain ⟨middle, hmiddle, hmiddleBoot, hmiddleFree⟩ :=
        releaseEntry_spec hself (hbase entry (by simp))
      obtain ⟨next, hnext, hboot, hfree⟩ :=
        ih (fun other hother => hbase other (by simp [hother])) hmiddleBoot
      refine ⟨next, ?_, hboot, fun frame => ?_⟩
      · rw [List.foldlM_cons, hmiddle]
        exact hnext
      · simp only [hfree, hmiddleFree, List.mem_cons, exists_eq_or_imp, or_assoc]

/-- Reserving a byte range takes every page it meets, so no page that holds a
byte of the range stays free. -/
theorem reserveRange_spec {self : FrameAllocator} (hself : self.Booting) (start : U64)
    {finish : U64} (hfinish : finish.toNat ≤ 2 ^ 64 - 4096) :
    ∃ next, self.reserveRange start finish = some next ∧ next.Booting ∧
      ∀ frame : Frame, frame ∈ next.freeSet ↔
        frame ∈ self.freeSet ∧ ¬ (start.toNat / 4096 ≤ frame.val ∧
          frame.val < (finish.toNat + 4095) / 4096) := by
  obtain ⟨limit, hlimit, hlimitNat⟩ := alignUp_spec hfinish
  obtain ⟨next, hnext, hboot, hfree⟩ :=
    reserveLoop_spec hself (alignDown_toNat start) hlimitNat
  refine ⟨next, ?_, hboot, hfree⟩
  unfold reserveRange
  rw [hlimit]
  exact hnext

/-- Every initialization that returns leaves the counter exact and nothing
handed out, whatever the memory map and the kernel range. -/
theorem initializeAllocator_booting {memoryMap : List MemoryMapEntry}
    {kernelStart kernelEnd : U64} {allocator : FrameAllocator}
    (hinit : initializeAllocator memoryMap kernelStart kernelEnd = some allocator) :
    allocator.Booting := by
  have hrelease (address : U64) (state next : FrameAllocator) (hstate : state.Booting)
      (hnext : releaseFrame address state = some next) : next.Booting := by
    obtain ⟨other, hother, hboot, _⟩ := releaseFrame_spec hstate address
    rw [hnext] at hother
    cases hother
    exact hboot
  have hreserve (address : U64) (state next : FrameAllocator) (hstate : state.Booting)
      (hnext : reserveFrame address state = some next) : next.Booting := by
    obtain ⟨other, hother, hboot, _⟩ := reserveFrame_spec hstate address
    rw [hnext] at hother
    cases hother
    exact hboot
  have hrange (start finish : U64) (state next : FrameAllocator) (hstate : state.Booting)
      (hnext : state.reserveRange start finish = some next) : next.Booting := by
    unfold reserveRange at hnext
    obtain ⟨limit, _, hloop⟩ := Option.bind_eq_some_iff.mp hnext
    exact strideLoop_preserves hreserve hstate hloop
  have hentry (entry : MemoryMapEntry) (state next : FrameAllocator) (hstate : state.Booting)
      (hnext : state.releaseEntry entry = some next) : next.Booting := by
    unfold releaseEntry at hnext
    split at hnext
    · cases hnext
      exact hstate
    · obtain ⟨regionStart, _, hrest⟩ := Option.bind_eq_some_iff.mp hnext
      split at hrest
      · cases hrest
        exact hstate
      · simp only at hrest
        split at hrest
        · cases hrest
          exact hstate
        · exact strideLoop_preserves hrelease hstate hrest
  have hmap (entries : List MemoryMapEntry) (state next : FrameAllocator)
      (hstate : state.Booting) (hnext : entries.foldlM releaseEntry state = some next) :
      next.Booting := by
    induction entries generalizing state with
    | nil =>
        cases hnext
        exact hstate
    | cons entry rest ih =>
        rw [List.foldlM_cons] at hnext
        obtain ⟨middle, hmiddle, hrest⟩ := Option.bind_eq_some_iff.mp hnext
        exact ih middle (hentry entry state middle hstate hmiddle) hrest
  unfold initializeAllocator at hinit
  simp only [Option.bind_eq_bind, Option.bind_eq_some_iff] at hinit
  obtain ⟨s0, h0, s1, h1, s2, h2, s3, h3, s4, h4, s5, h5, s6, h6, h7⟩ := hinit
  have b0 := hmap memoryMap reserved s0 reserved_booting.1 h0
  have b1 := hrange _ _ s0 s1 b0 h1
  have b2 := hrange _ _ s1 s2 b1 h2
  have b3 := hrange _ _ s2 s3 b2 h3
  have b4 := hrange _ _ s3 s4 b3 h4
  have b5 := hrange _ _ s4 s5 b4 h5
  have b6 := hrange _ _ s5 s6 b5 h6
  exact hrange _ _ s6 allocator b6 h7

/-- Initialization terminates without a panic as long as no usable entry and
no kernel range reaches into the last page of the address space, and it frees
what the map covers above the first MiB and outside the rounded kernel range,
whichever way round that range is given. -/
theorem initializeAllocator_frees (memoryMap : List MemoryMapEntry) (kernelStart : U64)
    {kernelEnd : U64}
    (hbase : ∀ entry ∈ memoryMap, entry.entryType = 1#32 →
      entry.baseAddr.toNat ≤ 2 ^ 64 - 4096)
    (hkernel : kernelEnd.toNat ≤ 2 ^ 64 - 4096) :
    ∃ allocator, initializeAllocator memoryMap kernelStart kernelEnd = some allocator ∧
      ∀ frame : Frame, frame ∈ allocator.freeSet ↔
        (∃ entry ∈ memoryMap, entry.Covers frame) ∧ 256 ≤ frame.val ∧
          ¬ (kernelStart.toNat / 4096 ≤ frame.val ∧
            frame.val < (kernelEnd.toNat + 4095) / 4096) := by
  obtain ⟨s0, h0, b0, f0⟩ := releaseMap_spec memoryMap hbase reserved_booting.1
  obtain ⟨s1, h1, b1, f1⟩ :=
    reserveRange_spec b0 0x00000000#64 (show (0x00100000#64 : U64).toNat ≤ 2 ^ 64 - 4096 by decide)
  obtain ⟨s2, h2, b2, f2⟩ :=
    reserveRange_spec b1 0x00008000#64 (show (0x0000C000#64 : U64).toNat ≤ 2 ^ 64 - 4096 by decide)
  obtain ⟨s3, h3, b3, f3⟩ :=
    reserveRange_spec b2 0x00020000#64 (show (0x00024000#64 : U64).toNat ≤ 2 ^ 64 - 4096 by decide)
  obtain ⟨s4, h4, b4, f4⟩ :=
    reserveRange_spec b3 0x00060000#64 (show (0x00061000#64 : U64).toNat ≤ 2 ^ 64 - 4096 by decide)
  obtain ⟨s5, h5, b5, f5⟩ :=
    reserveRange_spec b4 0x00070000#64 (show (0x00071000#64 : U64).toNat ≤ 2 ^ 64 - 4096 by decide)
  obtain ⟨s6, h6, b6, f6⟩ :=
    reserveRange_spec b5 0x00090000#64 (show (0x00091000#64 : U64).toNat ≤ 2 ^ 64 - 4096 by decide)
  obtain ⟨allocator, h7, _, f7⟩ := reserveRange_spec b6 kernelStart hkernel
  refine ⟨allocator, ?_, fun frame => ?_⟩
  · unfold initializeAllocator
    simp only [Option.bind_eq_bind, h0, h1, h2, h3, h4, h5, h6, h7, Option.bind_some]
  · rw [f7, f6, f5, f4, f3, f2, f1, f0, reserved_booting.2]
    simp only [Finset.notMem_empty, false_or, BitVec.toNat_ofNat, and_assoc]
    apply and_congr_right
    intro _
    omega

/-- The same for a kernel range in order, which holds a byte of exactly the
frames it reserves. -/
theorem initializeAllocator_spec (memoryMap : List MemoryMapEntry) {kernelStart kernelEnd : U64}
    (hbase : ∀ entry ∈ memoryMap, entry.entryType = 1#32 →
      entry.baseAddr.toNat ≤ 2 ^ 64 - 4096)
    (horder : kernelStart < kernelEnd) (hkernel : kernelEnd.toNat ≤ 2 ^ 64 - 4096) :
    ∃ allocator, initializeAllocator memoryMap kernelStart kernelEnd = some allocator ∧
      ∀ frame : Frame, frame ∈ allocator.freeSet ↔
        UsableAfterBoot memoryMap kernelStart kernelEnd frame := by
  obtain ⟨allocator, hinit, hfree⟩ :=
    initializeAllocator_frees memoryMap kernelStart hbase hkernel
  refine ⟨allocator, hinit, fun frame => ?_⟩
  rw [hfree, UsableAfterBoot, pageMeets_iff horder]

/-- A usable region that starts with the kernel: what follows the kernel is
free. -/
theorem initializeAllocator_above_kernel :
    ∃ allocator,
      initializeAllocator [⟨0x100000#64, 0x200000#64, 1#32, 1#32⟩] 0x100000#64 0x200000#64 =
        some allocator ∧
      ∀ frame : Frame, frame ∈ allocator.freeSet ↔ 512 ≤ frame.val ∧ frame.val < 768 := by
  obtain ⟨allocator, hinit, hfree⟩ := initializeAllocator_spec
    [⟨0x100000#64, 0x200000#64, 1#32, 1#32⟩] (by decide)
    (show (0x100000#64 : U64) < 0x200000#64 by decide) (by decide)
  refine ⟨allocator, hinit, fun frame => ?_⟩
  rw [hfree, UsableAfterBoot, pageMeets_iff (by decide)]
  simp only [MemoryMapEntry.Covers, List.mem_singleton, exists_eq_left, BitVec.toNat_ofNat,
    true_and]
  omega

/-- Rounding up panics in the last page of the address space. -/
theorem alignUp_bound {value rounded : U64} (hvalue : alignUp value frameSize = some rounded) :
    value.toNat ≤ 2 ^ 64 - 4096 := by
  have hmod : (value % frameSize).toNat = value.toNat % 4096 := by
    rw [BitVec.toNat_umod, frameSize_toNat]
  have hbound := value.isLt
  unfold alignUp at hvalue
  split at hvalue
  next haligned =>
    have hzero : value.toNat % 4096 = 0 := by
      rw [← hmod, haligned]
      rfl
    omega
  next haligned =>
    have hgap : (frameSize - value % frameSize).toNat = 4096 - value.toNat % 4096 := by
      rw [BitVec.toNat_sub, hmod, frameSize_toNat]
      omega
    have hsum := checkedAdd_toNat hvalue
    have hroom := rounded.isLt
    omega

/-- An initialization that returns met no usable entry in the last page of the
address space. -/
theorem initializeAllocator_bases {memoryMap : List MemoryMapEntry} {kernelStart kernelEnd : U64}
    {allocator : FrameAllocator}
    (hinit : initializeAllocator memoryMap kernelStart kernelEnd = some allocator) :
    ∀ entry ∈ memoryMap, entry.entryType = 1#32 → entry.baseAddr.toNat ≤ 2 ^ 64 - 4096 := by
  unfold initializeAllocator at hinit
  obtain ⟨released, hrelease, _⟩ := Option.bind_eq_some_iff.mp hinit
  clear hinit
  generalize reserved = state at hrelease
  induction memoryMap generalizing state with
  | nil => simp
  | cons entry rest ih =>
      rw [List.foldlM_cons] at hrelease
      obtain ⟨middle, hmiddle, hrest⟩ := Option.bind_eq_some_iff.mp hrelease
      intro other hother htype
      rcases List.mem_cons.mp hother with rfl | hlater
      · unfold releaseEntry at hmiddle
        rw [if_neg (not_not.mpr htype)] at hmiddle
        obtain ⟨rounded, hrounded, _⟩ := Option.bind_eq_some_iff.mp hmiddle
        exact alignUp_bound hrounded
      · exact ih middle hrest other hlater htype

/-- Order, overlaps and multiplicity of the map entries do not matter: the
free set is described through membership in the map alone, and the free set
determines the allocator. -/
theorem initializeAllocator_congr {memoryMap other : List MemoryMapEntry}
    {kernelStart kernelEnd : U64} {allocator : FrameAllocator}
    (hbase : ∀ entry ∈ memoryMap, entry.entryType = 1#32 →
      entry.baseAddr.toNat ≤ 2 ^ 64 - 4096)
    (horder : kernelStart < kernelEnd) (hkernel : kernelEnd.toNat ≤ 2 ^ 64 - 4096)
    (hinit : initializeAllocator memoryMap kernelStart kernelEnd = some allocator)
    (hsame : ∀ entry, entry ∈ other ↔ entry ∈ memoryMap) :
    initializeAllocator other kernelStart kernelEnd = some allocator := by
  obtain ⟨first, hfirst, hfirstFree⟩ := initializeAllocator_spec memoryMap hbase horder hkernel
  obtain ⟨second, hsecond, hsecondFree⟩ := initializeAllocator_spec other
    (fun entry hentry => hbase entry ((hsame entry).mp hentry)) horder hkernel
  rw [hinit] at hfirst
  cases hfirst
  have hboot := initializeAllocator_booting hinit
  have hotherBoot := initializeAllocator_booting hsecond
  have hfree : second.freeSet = allocator.freeSet := by
    ext frame
    simp only [hsecondFree, hfirstFree, UsableAfterBoot, hsame]
  rw [hsecond, ext_sets hfree (by rw [hboot.none_allocated, hotherBoot.none_allocated])
    (by rw [hboot.count_eq, hotherBoot.count_eq, hfree])]

/-- The free set after initialization, exactly: a managed frame is free iff a
usable entry with a representable end contains its whole page, it lies above
the first MiB and it holds no byte of the kernel. The counter counts these
frames, nothing is marked as handed out, and only the set of map entries
matters. -/
theorem initialize_frees_exactly_usable_frames (memoryMap : List MemoryMapEntry)
    (kernelStart kernelEnd : U64)
    (hbase : ∀ entry ∈ memoryMap, entry.entryType = 1#32 →
      entry.baseAddr.toNat ≤ 2 ^ 64 - 4096)
    (horder : kernelStart < kernelEnd) (hkernel : kernelEnd.toNat ≤ 2 ^ 64 - 4096) :
    ∃ allocator, initializeAllocator memoryMap kernelStart kernelEnd = some allocator ∧
      (∀ frame : Frame, allocator.isUsed frame = false ↔
        UsableAfterBoot memoryMap kernelStart kernelEnd frame) ∧
      allocator.freeFrames =
        Set.ncard {frame : Frame | UsableAfterBoot memoryMap kernelStart kernelEnd frame} ∧
      (∀ frame : Frame, allocator.isAllocated frame = false) ∧
      ∀ other : List MemoryMapEntry, (∀ entry, entry ∈ other ↔ entry ∈ memoryMap) →
        initializeAllocator other kernelStart kernelEnd = some allocator := by
  obtain ⟨allocator, hinit, hfree⟩ := initializeAllocator_spec memoryMap hbase horder hkernel
  have hboot := initializeAllocator_booting hinit
  refine ⟨allocator, hinit, fun frame => ?_, ?_, fun frame => ?_, fun other hsame => ?_⟩
  · rw [← mem_freeSet, hfree]
  · have hset : {frame : Frame | UsableAfterBoot memoryMap kernelStart kernelEnd frame} =
        (allocator.freeSet : Set Frame) := by
      ext frame
      exact (hfree frame).symm
    rw [hset, Set.ncard_coe_finset, hboot.count_eq]
  · have hnot : frame ∉ allocator.allocSet := by simp [hboot.none_allocated]
    simpa using hnot
  · exact initializeAllocator_congr hbase horder hkernel hinit hsame

/-- A map with a usable region that starts in the middle of a page, a
duplicate of it and a reserved entry. -/
theorem initialize_frees_partial_region :
    ∃ allocator,
      initializeAllocator
        [⟨0x200800#64, 0x3000#64, 1#32, 1#32⟩, ⟨0x300000#64, 0x1000#64, 2#32, 1#32⟩,
          ⟨0x200800#64, 0x3000#64, 1#32, 1#32⟩] 0x100000#64 0x180000#64 = some allocator ∧
      ∀ frame : Frame, allocator.isUsed frame = false ↔ frame.val = 0x201 ∨ frame.val = 0x202 := by
  obtain ⟨allocator, hinit, hfree, _⟩ := initialize_frees_exactly_usable_frames
    [⟨0x200800#64, 0x3000#64, 1#32, 1#32⟩, ⟨0x300000#64, 0x1000#64, 2#32, 1#32⟩,
      ⟨0x200800#64, 0x3000#64, 1#32, 1#32⟩] 0x100000#64 0x180000#64 (by decide) (by decide)
    (by decide)
  refine ⟨allocator, hinit, fun frame => ?_⟩
  rw [hfree, UsableAfterBoot, pageMeets_iff (by decide)]
  simp only [MemoryMapEntry.Covers, List.mem_cons, List.not_mem_nil, or_false, exists_eq_or_imp,
    exists_eq_left, BitVec.toNat_ofNat]
  have htype : ¬ (2#32 : U32) = 1#32 := by decide
  simp only [htype, false_and, true_and, false_or]
  omega

/-- The kernel range is rounded up last, so an initialization that returns
found its end below the last page as well. -/
theorem initializeAllocator_kernelEnd {memoryMap : List MemoryMapEntry}
    {kernelStart kernelEnd : U64} {allocator : FrameAllocator}
    (hinit : initializeAllocator memoryMap kernelStart kernelEnd = some allocator) :
    kernelEnd.toNat ≤ 2 ^ 64 - 4096 := by
  unfold initializeAllocator at hinit
  simp only [Option.bind_eq_bind, Option.bind_eq_some_iff] at hinit
  obtain ⟨_, _, _, _, _, _, _, _, _, _, _, _, last, _, hkernel⟩ := hinit
  unfold reserveRange at hkernel
  obtain ⟨limit, hlimit, _⟩ := Option.bind_eq_some_iff.mp hkernel
  exact alignUp_bound hlimit

/-- Nothing below the first MiB is free after an initialization that returns. -/
theorem initializeAllocator_low {memoryMap : List MemoryMapEntry} {kernelStart kernelEnd : U64}
    {allocator : FrameAllocator}
    (hinit : initializeAllocator memoryMap kernelStart kernelEnd = some allocator) {frame : Frame}
    (hframe : frame ∈ allocator.freeSet) : 256 ≤ frame.val := by
  obtain ⟨other, hother, hfree⟩ := initializeAllocator_frees memoryMap kernelStart
    (initializeAllocator_bases hinit) (initializeAllocator_kernelEnd hinit)
  rw [hinit] at hother
  cases hother
  exact ((hfree frame).mp hframe).2.1

theorem initializeAllocator_nullReserved {memoryMap : List MemoryMapEntry}
    {kernelStart kernelEnd : U64} {allocator : FrameAllocator}
    (hinit : initializeAllocator memoryMap kernelStart kernelEnd = some allocator) :
    allocator.NullReserved :=
  (initializeAllocator_booting hinit).nullReserved fun _ => initializeAllocator_low hinit

/-- When initialization returns. The loop increments and the decrements of the
counter are always in range; the one operation that can overflow is the
rounding up of a usable base or of the kernel's end in the last page of the
address space. -/
theorem initialize_returns_iff (memoryMap : List MemoryMapEntry) (kernelStart kernelEnd : U64)
    (horder : kernelStart < kernelEnd) :
    (∃ allocator, initializeAllocator memoryMap kernelStart kernelEnd = some allocator) ↔
      (∀ entry ∈ memoryMap, entry.entryType = 1#32 →
        entry.baseAddr.toNat ≤ 2 ^ 64 - 4096) ∧ kernelEnd.toNat ≤ 2 ^ 64 - 4096 := by
  constructor
  · rintro ⟨allocator, hinit⟩
    exact ⟨initializeAllocator_bases hinit, initializeAllocator_kernelEnd hinit⟩
  · rintro ⟨hbase, hkernel⟩
    obtain ⟨allocator, hinit, _⟩ := initializeAllocator_spec memoryMap hbase horder hkernel
    exact ⟨allocator, hinit⟩

/-- The highest usable base that is safe, in a map whose last entry has an end
that overflows. -/
theorem initialize_returns_below_last_page :
    ∃ allocator,
      initializeAllocator [⟨0xFFFFFFFFFFFFF000#64, 0xFFF#64, 1#32, 1#32⟩,
        ⟨0x100000#64, 0xFFFFFFFFFFFFFFFF#64, 1#32, 1#32⟩] 0x100000#64 0x180000#64 =
          some allocator :=
  (initialize_returns_iff _ 0x100000#64 0x180000#64 (by decide)).mpr (by decide)

/-- An empty usable entry at the last byte of the address space stops the
kernel, with the kernel range of every boot. -/
theorem initialize_panics_in_last_page :
    (0x100000#64 : U64) < 0x180000#64 ∧
      initializeAllocator [⟨0xFFFFFFFFFFFFFFFF#64, 0#64, 1#32, 1#32⟩] 0x100000#64 0x180000#64 =
        none := by
  have hround : alignUp 0xFFFFFFFFFFFFFFFF#64 frameSize = none := by decide
  refine ⟨by decide, ?_⟩
  simp [initializeAllocator, releaseEntry, hround]

end FrameAllocator

end UnboundOS.Memory
