import UnboundOS.Base.Bitmap
import UnboundOS.Base.Scan

/-!
The physical frame allocator (`kernel/src/memory/frame_allocator.rs`). The two
static bitmaps and the counter form one state record; every arithmetic
operation that the development build checks is checked here too. The second
half of the module reads the bitmaps as two finite sets of frames and gives
each operation its effect on those sets.
-/

namespace UnboundOS.Memory

def frameSize : U64 := 4096#64

/-- The first 4 GiB of the physical address space. -/
def maxPhysicalMemory : U64 := 4#64 * 1024#64 * 1024#64 * 1024#64

def maxFrames : Nat := (maxPhysicalMemory / frameSize).toNat

def bitmapSize : Nat := maxFrames / 8

@[simp] theorem frameSize_toNat : frameSize.toNat = 4096 := rfl

@[simp] theorem maxPhysicalMemory_toNat : maxPhysicalMemory.toNat = 4294967296 := by decide

theorem maxFrames_eq : maxFrames = 1048576 := by decide

theorem bitmapSize_eq : bitmapSize = 131072 := by
  unfold bitmapSize
  rw [maxFrames_eq]

/-- A frame number inside the managed range. -/
abbrev Frame := Fin maxFrames

theorem frame_byte_lt (frame : Frame) : frame.val / 8 < bitmapSize := by
  have hlt := lt_of_lt_of_eq frame.isLt maxFrames_eq
  rw [bitmapSize_eq]
  omega

/-- One E820 entry as Stage 2 hands it over (`boot_info.rs`). -/
structure MemoryMapEntry where
  baseAddr : U64
  length : U64
  entryType : U32
  attributes : U32
deriving DecidableEq, Repr

/-- `FRAME_BITMAP`, `ALLOCATED_BITMAP` and the counter of the allocator. A
frame is free when its bit of the first bitmap is clear; the second bitmap
marks the frames handed out by `allocateFrame`. -/
structure FrameAllocator where
  frameBitmap : Bitmap bitmapSize
  allocatedBitmap : Bitmap bitmapSize
  freeFrames : Nat

namespace FrameAllocator

def isUsed (self : FrameAllocator) (frame : Frame) : Bool :=
  self.frameBitmap.test frame (frame_byte_lt frame)

def markUsed (self : FrameAllocator) (frame : Frame) : FrameAllocator :=
  {self with frameBitmap := self.frameBitmap.set frame (frame_byte_lt frame)}

def markFree (self : FrameAllocator) (frame : Frame) : FrameAllocator :=
  {self with frameBitmap := self.frameBitmap.clear frame (frame_byte_lt frame)}

def isAllocated (self : FrameAllocator) (frame : Frame) : Bool :=
  self.allocatedBitmap.test frame (frame_byte_lt frame)

def markAllocated (self : FrameAllocator) (frame : Frame) : FrameAllocator :=
  {self with allocatedBitmap := self.allocatedBitmap.set frame (frame_byte_lt frame)}

def markUnallocated (self : FrameAllocator) (frame : Frame) : FrameAllocator :=
  {self with allocatedBitmap := self.allocatedBitmap.clear frame (frame_byte_lt frame)}

end FrameAllocator

def alignUp (value alignment : U64) : Checked U64 :=
  if value % alignment = 0#64 then some value
  else checkedAdd value (alignment - value % alignment)

def alignDown (value alignment : U64) : U64 :=
  value - value % alignment

namespace FrameAllocator

/-- Body of the release loop: free one frame unless it is free already. -/
def releaseFrame (address : U64) (self : FrameAllocator) : Checked FrameAllocator :=
  let frame := (address / frameSize).toNat
  if hframe : frame < maxFrames then
    if self.isUsed ⟨frame, hframe⟩ then
      some {self.markFree ⟨frame, hframe⟩ with freeFrames := self.freeFrames + 1}
    else some self
  else some self

/-- Body of the reserve loop: take one frame out of the free set. -/
def reserveFrame (address : U64) (self : FrameAllocator) : Checked FrameAllocator :=
  let frame := (address / frameSize).toNat
  if hframe : frame < maxFrames then
    if !self.isUsed ⟨frame, hframe⟩ then do
      let freeFrames ← checkedSub self.freeFrames 1
      some {self.markUsed ⟨frame, hframe⟩ with freeFrames := freeFrames}
    else some self
  else some self

/-- One iteration of the E820 release pass. -/
def releaseEntry (self : FrameAllocator) (entry : MemoryMapEntry) : Checked FrameAllocator :=
  if entry.entryType ≠ 1#32 then some self
  else do
    let regionStart ← alignUp entry.baseAddr frameSize
    match checkedAdd entry.baseAddr entry.length with
    | none => some self
    | some last =>
      let regionEnd := alignDown last frameSize
      if regionEnd ≤ regionStart then some self
      else
        let regionEnd := if maxPhysicalMemory < regionEnd then maxPhysicalMemory else regionEnd
        strideLoop frameSize (by decide) regionEnd releaseFrame regionStart self

def reserveRange (self : FrameAllocator) (start finish : U64) : Checked FrameAllocator := do
  let start := alignDown start frameSize
  let finish ← alignUp finish frameSize
  strideLoop frameSize (by decide) finish reserveFrame start self

/-- Every frame reserved, none handed out. -/
def reserved : FrameAllocator where
  frameBitmap := Vector.replicate bitmapSize 0xFF#8
  allocatedBitmap := Vector.replicate bitmapSize 0x00#8
  freeFrames := 0

/-- `FrameAllocator::initialize`. The previous contents of the bitmaps and of
the counter are overwritten, so they are no input. -/
def initializeAllocator (memoryMap : List MemoryMapEntry) (kernelStart kernelEnd : U64) :
    Checked FrameAllocator := do
  let released ← memoryMap.foldlM releaseEntry reserved
  let state ← released.reserveRange 0x00000000#64 0x00100000#64
  let state ← state.reserveRange 0x00008000#64 0x0000C000#64
  let state ← state.reserveRange 0x00020000#64 0x00024000#64
  let state ← state.reserveRange 0x00060000#64 0x00061000#64
  let state ← state.reserveRange 0x00070000#64 0x00071000#64
  let state ← state.reserveRange 0x00090000#64 0x00091000#64
  state.reserveRange kernelStart kernelEnd

/-- The address `allocateFrame` returns for a frame. -/
def frameAddress (frame : Frame) : U64 :=
  BitVec.ofNat 64 frame.val * frameSize

/-- What `allocateFrame` does with the frame its scan stopped at. -/
def takeFrame (self : FrameAllocator) : Option Frame → Checked (Option U64 × FrameAllocator)
  | some frame => do
      let marked := (self.markUsed frame).markAllocated frame
      let freeFrames ← checkedSub self.freeFrames 1
      some (some (frameAddress frame), {marked with freeFrames := freeFrames})
  | none => some (none, self)

/-- First fit: the scan stops at the lowest frame whose used bit is clear. -/
def allocateFrame (self : FrameAllocator) : Checked (Option U64 × FrameAllocator) :=
  self.takeFrame (firstFit (fun frame => !self.isUsed frame))

def freeFrame (self : FrameAllocator) (address : U64) : FrameAllocator :=
  if address % frameSize ≠ 0#64 then self
  else
    let frame := (address / frameSize).toNat
    if hframe : frame < maxFrames then
      if !self.isAllocated ⟨frame, hframe⟩ then self
      else
        let marked := (self.markFree ⟨frame, hframe⟩).markUnallocated ⟨frame, hframe⟩
        {marked with freeFrames := self.freeFrames + 1}
    else self

/-- The frames whose used bit is clear. -/
def freeSet (self : FrameAllocator) : Finset Frame :=
  Finset.univ.filter (fun frame => self.isUsed frame = false)

/-- The frames handed out and not yet returned. -/
def allocSet (self : FrameAllocator) : Finset Frame :=
  Finset.univ.filter (fun frame => self.isAllocated frame = true)

@[simp] theorem mem_freeSet (self : FrameAllocator) (frame : Frame) :
    frame ∈ self.freeSet ↔ self.isUsed frame = false := by
  simp [freeSet]

@[simp] theorem mem_allocSet (self : FrameAllocator) (frame : Frame) :
    frame ∈ self.allocSet ↔ self.isAllocated frame = true := by
  simp [allocSet]

@[simp] theorem isUsed_markUsed (self : FrameAllocator) (marked frame : Frame) :
    (self.markUsed marked).isUsed frame = (decide (marked = frame) || self.isUsed frame) := by
  rw [isUsed, markUsed, Bitmap.test_set, isUsed]
  simp only [Fin.ext_iff]

@[simp] theorem isUsed_markFree (self : FrameAllocator) (marked frame : Frame) :
    (self.markFree marked).isUsed frame = (!decide (marked = frame) && self.isUsed frame) := by
  rw [isUsed, markFree, Bitmap.test_clear, isUsed]
  simp only [Fin.ext_iff]

@[simp] theorem isAllocated_markAllocated (self : FrameAllocator) (marked frame : Frame) :
    (self.markAllocated marked).isAllocated frame =
      (decide (marked = frame) || self.isAllocated frame) := by
  rw [isAllocated, markAllocated, Bitmap.test_set, isAllocated]
  simp only [Fin.ext_iff]

@[simp] theorem isAllocated_markUnallocated (self : FrameAllocator) (marked frame : Frame) :
    (self.markUnallocated marked).isAllocated frame =
      (!decide (marked = frame) && self.isAllocated frame) := by
  rw [isAllocated, markUnallocated, Bitmap.test_clear, isAllocated]
  simp only [Fin.ext_iff]

theorem freeSet_markUsed (self : FrameAllocator) (frame : Frame) :
    (self.markUsed frame).freeSet = self.freeSet.erase frame := by
  ext other
  by_cases heq : frame = other
  · simp [heq]
  · simp [heq, Ne.symm heq]

theorem freeSet_markFree (self : FrameAllocator) (frame : Frame) :
    (self.markFree frame).freeSet = insert frame self.freeSet := by
  ext other
  by_cases heq : frame = other
  · simp [heq]
  · simp [heq, Ne.symm heq]

theorem allocSet_markAllocated (self : FrameAllocator) (frame : Frame) :
    (self.markAllocated frame).allocSet = insert frame self.allocSet := by
  ext other
  by_cases heq : frame = other
  · simp [heq]
  · simp [heq, Ne.symm heq]

theorem allocSet_markUnallocated (self : FrameAllocator) (frame : Frame) :
    (self.markUnallocated frame).allocSet = self.allocSet.erase frame := by
  ext other
  by_cases heq : frame = other
  · simp [heq]
  · simp [heq, Ne.symm heq]

/-- The counter counts the free frames, and no frame is both free and handed
out. `initializeAllocator` establishes this and every operation keeps it. -/
structure Consistent (allocator : FrameAllocator) : Prop where
  count_eq : allocator.freeFrames = allocator.freeSet.card
  disjoint : Disjoint allocator.freeSet allocator.allocSet

/-- The frames that `initializeAllocator` found usable, free or handed out. -/
def managed (self : FrameAllocator) : Finset Frame :=
  self.freeSet ∪ self.allocSet

/-- Frame 0 is not among them: it is reserved with the rest of the first MiB, and
no operation makes a reserved frame free. -/
def NullReserved (allocator : FrameAllocator) : Prop :=
  ∀ frame ∈ allocator.managed, frame.val ≠ 0

/-- An allocator is determined by its two sets and its counter: the bitmaps
have no bits beyond the managed frames. -/
theorem ext_sets {left right : FrameAllocator} (hfree : left.freeSet = right.freeSet)
    (halloc : left.allocSet = right.allocSet) (hcount : left.freeFrames = right.freeFrames) :
    left = right := by
  have hframe (bit : Nat) (hbit : bit / 8 < bitmapSize) : bit < maxFrames := by
    rw [bitmapSize_eq] at hbit
    rw [maxFrames_eq]
    omega
  have hused : left.frameBitmap = right.frameBitmap := by
    apply Bitmap.ext_test
    intro bit hbit
    have hmem := Finset.ext_iff.mp hfree ⟨bit, hframe bit hbit⟩
    simp only [mem_freeSet, isUsed] at hmem
    exact Bool.eq_iff_iff.mpr (by simpa using not_congr hmem)
  have hallocated : left.allocatedBitmap = right.allocatedBitmap := by
    apply Bitmap.ext_test
    intro bit hbit
    have hmem := Finset.ext_iff.mp halloc ⟨bit, hframe bit hbit⟩
    simp only [mem_allocSet, isAllocated] at hmem
    exact Bool.eq_iff_iff.mpr hmem
  cases left
  cases right
  simp_all

theorem frameAddress_toNat (frame : Frame) : (frameAddress frame).toNat = 4096 * frame.val := by
  have hlt := lt_of_lt_of_eq frame.isLt maxFrames_eq
  rw [frameAddress, BitVec.toNat_mul, BitVec.toNat_ofNat, frameSize_toNat]
  omega

theorem frameAddress_injective : Function.Injective frameAddress := by
  intro left right heq
  have hnat := congrArg BitVec.toNat heq
  rw [frameAddress_toNat, frameAddress_toNat] at hnat
  exact Fin.ext (by omega)

/-- The address arithmetic of `freeFrame` recognises exactly the addresses
`allocateFrame` hands out. -/
theorem eq_frameAddress_iff (address : U64) (frame : Frame) :
    address = frameAddress frame ↔
      address % frameSize = 0#64 ∧ (address / frameSize).toNat = frame.val := by
  rw [← BitVec.toNat_inj, ← BitVec.toNat_inj, frameAddress_toNat, BitVec.toNat_umod,
    BitVec.toNat_udiv, frameSize_toNat]
  simp
  omega

/-- The state after handing out `frame`. -/
def handOut (self : FrameAllocator) (frame : Frame) : FrameAllocator :=
  {(self.markUsed frame).markAllocated frame with freeFrames := self.freeFrames - 1}

theorem freeSet_handOut (self : FrameAllocator) (frame : Frame) :
    (self.handOut frame).freeSet = self.freeSet.erase frame :=
  freeSet_markUsed self frame

theorem allocSet_handOut (self : FrameAllocator) (frame : Frame) :
    (self.handOut frame).allocSet = insert frame self.allocSet :=
  allocSet_markAllocated (self.markUsed frame) frame

theorem handOut_consistent {self : FrameAllocator} (hself : self.Consistent) {frame : Frame}
    (hmem : frame ∈ self.freeSet) : (self.handOut frame).Consistent := by
  constructor
  · rw [freeSet_handOut, Finset.card_erase_of_mem hmem, ← hself.count_eq]
    rfl
  · rw [freeSet_handOut, allocSet_handOut, Finset.disjoint_insert_right]
    exact ⟨Finset.notMem_erase _ _, hself.disjoint.mono_left (Finset.erase_subset _ _)⟩

/-- Handing a frame out moves it from one set to the other. -/
theorem managed_handOut {self : FrameAllocator} {frame : Frame} (hmem : frame ∈ self.freeSet) :
    (self.handOut frame).managed = self.managed := by
  rw [managed, managed, freeSet_handOut, allocSet_handOut, Finset.union_insert,
    ← Finset.insert_union, Finset.insert_erase hmem]

/-- Allocation finds no free frame, or takes the lowest one; with a counter
that is already zero it panics. -/
theorem allocateFrame_cases (self : FrameAllocator) :
    (self.freeSet = ∅ ∧ self.allocateFrame = some (none, self)) ∨
      ∃ frame ∈ self.freeSet, (∀ other ∈ self.freeSet, frame ≤ other) ∧
        self.allocateFrame = (checkedSub self.freeFrames 1).map fun _ =>
          (some (frameAddress frame), self.handOut frame) := by
  unfold allocateFrame
  cases hfind : firstFit (fun frame => !self.isUsed frame) with
  | none =>
      left
      rw [firstFit_eq_none] at hfind
      refine ⟨?_, rfl⟩
      ext frame
      simpa using hfind frame
  | some frame =>
      right
      rw [firstFit_eq_some] at hfind
      have hmem : frame ∈ self.freeSet := by simpa using hfind.1
      refine ⟨frame, hmem, ?_, ?_⟩
      · intro other hother
        by_contra hlt
        have hused := hfind.2 other (not_le.mp hlt)
        rw [mem_freeSet] at hother
        rw [hother] at hused
        cases hused
      · by_cases hpositive : 1 ≤ self.freeFrames
        · simp only [takeFrame, checkedSub_eq_some hpositive]
          rfl
        · simp [takeFrame, checkedSub, hpositive]

/-- Allocation takes the lowest free frame and cannot underflow the counter;
it fails exactly when no frame is free. -/
theorem allocateFrame_spec {self : FrameAllocator} (hself : self.Consistent) :
    (self.freeSet = ∅ ∧ self.allocateFrame = some (none, self)) ∨
      ∃ frame ∈ self.freeSet, (∀ other ∈ self.freeSet, frame ≤ other) ∧
        self.allocateFrame = some (some (frameAddress frame), self.handOut frame) := by
  rcases allocateFrame_cases self with hempty | ⟨frame, hmem, hleast, halloc⟩
  · exact Or.inl hempty
  · have hpositive : 1 ≤ self.freeFrames := by
      rw [hself.count_eq]
      exact Finset.card_pos.mpr ⟨frame, hmem⟩
    rw [checkedSub_eq_some hpositive] at halloc
    exact Or.inr ⟨frame, hmem, hleast, halloc⟩

theorem allocateFrame_empty {self : FrameAllocator} (hself : self.Consistent)
    (hempty : self.freeSet = ∅) : self.allocateFrame = some (none, self) := by
  rcases allocateFrame_spec hself with ⟨_, hnone⟩ | ⟨frame, hmem, _⟩
  · exact hnone
  · rw [hempty] at hmem
    exact absurd hmem (Finset.notMem_empty frame)

/-- A range of free frames is a lower bound for the number of free frames. -/
theorem le_card_freeSet {self : FrameAllocator} (start count : Nat)
    (hbound : start + count < maxFrames)
    (hfree : ∀ frame : Frame, start ≤ frame.val → frame.val < start + count →
      frame ∈ self.freeSet) : count ≤ self.freeSet.card := by
  have hsubset : Finset.Ico (⟨start, by omega⟩ : Frame) ⟨start + count, hbound⟩ ⊆ self.freeSet := by
    intro frame hframe
    obtain ⟨hlow, hhigh⟩ := Finset.mem_Ico.mp hframe
    exact hfree frame hlow hhigh
  have hcard := Finset.card_le_card hsubset
  rwa [Fin.card_Ico, Nat.add_sub_cancel_left] at hcard

/-- Freeing the address of a frame that was handed out returns it. -/
theorem freeFrame_of_mem {self : FrameAllocator} (hself : self.Consistent) {frame : Frame}
    (hmem : frame ∈ self.allocSet) :
    (self.freeFrame (frameAddress frame)).freeSet = insert frame self.freeSet ∧
      (self.freeFrame (frameAddress frame)).allocSet = self.allocSet.erase frame ∧
      (self.freeFrame (frameAddress frame)).Consistent := by
  obtain ⟨haligned, hnumber⟩ := (eq_frameAddress_iff (frameAddress frame) frame).mp rfl
  have hunused : frame ∉ self.freeSet := fun hfree =>
    Finset.disjoint_left.mp hself.disjoint hfree hmem
  have heq : self.freeFrame (frameAddress frame) =
      {(self.markFree frame).markUnallocated frame with
        freeFrames := self.freeFrames + 1} := by
    have hallocated : self.isAllocated frame = true := by simpa using hmem
    unfold freeFrame
    simp [haligned, hnumber, hallocated]
  have hfreeSet : (self.freeFrame (frameAddress frame)).freeSet =
      insert frame self.freeSet := by
    rw [heq]
    exact freeSet_markFree self frame
  have hallocSet : (self.freeFrame (frameAddress frame)).allocSet =
      self.allocSet.erase frame := by
    rw [heq]
    exact allocSet_markUnallocated (self.markFree frame) frame
  refine ⟨hfreeSet, hallocSet, ?_, ?_⟩
  · rw [hfreeSet, Finset.card_insert_of_notMem hunused, ← hself.count_eq, heq]
  · rw [hfreeSet, hallocSet, Finset.disjoint_insert_left]
    exact ⟨Finset.notMem_erase _ _, hself.disjoint.mono_right (Finset.erase_subset _ _)⟩

/-- Freeing anything else changes nothing: misaligned and out-of-range
addresses, reserved frames and frames freed before. -/
theorem freeFrame_of_not_mem {self : FrameAllocator} {address : U64}
    (hnone : ∀ frame ∈ self.allocSet, address ≠ frameAddress frame) :
    self.freeFrame address = self := by
  unfold freeFrame
  split
  · rfl
  next haligned =>
    simp only
    split
    next hframe =>
      split
      · rfl
      next hallocated =>
        have hmem : (⟨(address / frameSize).toNat, hframe⟩ : Frame) ∈ self.allocSet := by
          simpa using hallocated
        exact absurd ((eq_frameAddress_iff _ _).mpr ⟨not_not.mp haligned, rfl⟩)
          (hnone _ hmem)
    next => rfl

/-- Freeing brings in no frame that was not managed before. -/
theorem managed_freeFrame {self : FrameAllocator} (hself : self.Consistent) (address : U64) :
    (self.freeFrame address).managed = self.managed := by
  by_cases hout : ∃ frame ∈ self.allocSet, address = frameAddress frame
  · obtain ⟨frame, hmem, rfl⟩ := hout
    obtain ⟨hfree, halloc, _⟩ := freeFrame_of_mem hself hmem
    rw [managed, managed, hfree, halloc, Finset.insert_union, ← Finset.union_insert,
      Finset.insert_erase hmem]
  · rw [freeFrame_of_not_mem fun frame hmem heq => hout ⟨frame, hmem, heq⟩]

theorem NullReserved.of_managed_eq {self next : FrameAllocator} (hself : self.NullReserved)
    (hsame : next.managed = self.managed) : next.NullReserved := by
  rwa [NullReserved, hsame]

theorem NullReserved.free {self : FrameAllocator} (hself : self.NullReserved) {frame : Frame}
    (hmem : frame ∈ self.freeSet) : frame.val ≠ 0 :=
  hself frame (Finset.mem_union_left _ hmem)

end FrameAllocator

end UnboundOS.Memory
