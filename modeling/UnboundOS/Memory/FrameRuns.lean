import UnboundOS.Base.Pool
import UnboundOS.Memory.FrameInit

/-!
Whole runs of the frame allocator. The two bitmaps and the counter represent a
first-fit pool of frames named by their physical addresses, and every call
follows the pool: `allocate_frame` takes, `free_frame` gives. What holds of
every run of the pool therefore holds of every run of the allocator.
-/

namespace UnboundOS.Memory

namespace FrameAllocator

/-- The pool the bitmaps represent. -/
def pool (self : FrameAllocator) : Pool Frame :=
  ⟨self.freeSet, self.allocSet⟩

/-- One call into the allocator; the operations are those of a pool whose
names are physical addresses. -/
def call (self : FrameAllocator) : Pool.Op U64 → Checked (Pool.Event U64 × FrameAllocator)
  | .take => do
      let (result, next) ← self.allocateFrame
      match result with
      | some address => some (.taken address, next)
      | none => some (.exhausted, next)
  | .give address => some (.given address, self.freeFrame address)

/-- Every call on a consistent allocator returns, follows the pool and leaves
the allocator consistent. -/
theorem call_follows_pool {self : FrameAllocator} (hself : self.Consistent) (op : Pool.Op U64) :
    ∃ next, self.call op = some ((self.pool.step frameAddress op).1, next) ∧
      next.Consistent ∧ next.pool = (self.pool.step frameAddress op).2 := by
  cases op with
  | take =>
      rcases allocateFrame_spec hself with ⟨hempty, halloc⟩ | ⟨frame, hmem, hleast, halloc⟩
      · have hstep : self.pool.step frameAddress .take = (.exhausted, self.pool) := by
          simp [Pool.step, pool, hempty]
        exact ⟨self, by simp [call, halloc, hstep], hself, by rw [hstep]⟩
      · have hstep : self.pool.step frameAddress .take = _ := Pool.step_take_least hmem hleast
        refine ⟨self.handOut frame, by simp [call, halloc, hstep],
          handOut_consistent hself hmem, ?_⟩
        rw [hstep, pool, freeSet_handOut, allocSet_handOut, pool]
  | give address =>
      by_cases hout : ∃ frame ∈ self.allocSet, frameAddress frame = address
      · obtain ⟨frame, hmem, rfl⟩ := hout
        obtain ⟨hfree, halloc, hnext⟩ := freeFrame_of_mem hself hmem
        refine ⟨_, rfl, hnext, ?_⟩
        have hgive : self.pool.give frameAddress (frameAddress frame) = _ :=
          Pool.give_of_mem frameAddress_injective hmem
        rw [pool, hfree, halloc, Pool.step, hgive, pool]
      · have hnone : ∀ frame ∈ self.allocSet, frameAddress frame ≠ address :=
          fun frame hmem heq => hout ⟨frame, hmem, heq⟩
        have hsame : self.freeFrame address = self :=
          freeFrame_of_not_mem fun frame hmem heq => hnone frame hmem heq.symm
        have hgive : self.pool.give frameAddress address = self.pool :=
          Pool.give_of_not_mem hnone
        refine ⟨_, rfl, by rwa [hsame], ?_⟩
        rw [hsame, Pool.step, hgive]

/-- The allocator is consistent and its bitmaps represent `image`. -/
def Represents (self : FrameAllocator) (image : Pool Frame) : Prop :=
  self.Consistent ∧ self.pool = image

/-- A run of the allocator is a run of its pool: same events, same sets, no
panic. -/
theorem run_follows_pool {self : FrameAllocator} {image : Pool Frame}
    (hself : self.Represents image) (ops : List (Pool.Op U64)) :
    ∃ final, runChecked call self ops =
        some ((runAll (Pool.step frameAddress) image ops).1, final) ∧
      final.Represents (runAll (Pool.step frameAddress) image ops).2 := by
  have hstep (state : FrameAllocator) (image : Pool Frame) (op : Pool.Op U64)
      (hstate : state.Represents image) :
      ∃ next, state.call op = some ((image.step frameAddress op).1, next) ∧
        next.Represents (image.step frameAddress op).2 := by
    obtain ⟨hconsistent, rfl⟩ := hstate
    exact call_follows_pool hconsistent op
  exact runChecked_simulates hstep ops hself

/-- Right after initialization nothing is handed out, so the whole pool is the
free set. -/
theorem initializeAllocator_pool {memoryMap : List MemoryMapEntry} {kernelStart kernelEnd : U64}
    {start : FrameAllocator}
    (hinit : initializeAllocator memoryMap kernelStart kernelEnd = some start) :
    start.Represents ⟨start.freeSet, ∅⟩ := by
  have hboot := initializeAllocator_booting hinit
  exact ⟨hboot.consistent, by rw [pool, hboot.none_allocated]⟩

theorem free_within (whole : Finset Frame) : (⟨whole, ∅⟩ : Pool Frame).Within whole :=
  ⟨Finset.disjoint_empty_right _, Finset.union_empty _⟩

/-- What the next calls do in a state with free set `Free` and handed-out set
`Alloc`. -/
structure FirstFit (allocator : FrameAllocator) : Prop where
  allocate_none : allocator.freeSet = ∅ → allocator.allocateFrame = some (none, allocator)
  allocate_least : ∀ frame ∈ allocator.freeSet, (∀ other ∈ allocator.freeSet, frame ≤ other) →
    ∃ next, allocator.allocateFrame = some (some (frameAddress frame), next) ∧
      next.freeSet = allocator.freeSet.erase frame ∧
      next.allocSet = insert frame allocator.allocSet
  free_allocated : ∀ frame ∈ allocator.allocSet,
    (allocator.freeFrame (frameAddress frame)).freeSet = insert frame allocator.freeSet ∧
      (allocator.freeFrame (frameAddress frame)).allocSet = allocator.allocSet.erase frame
  free_other : ∀ address, (∀ frame ∈ allocator.allocSet, address ≠ frameAddress frame) →
    allocator.freeFrame address = allocator

theorem Consistent.firstFit {self : FrameAllocator} (hself : self.Consistent) :
    self.FirstFit where
  allocate_none := by
    intro hempty
    rcases allocateFrame_spec hself with ⟨_, halloc⟩ | ⟨frame, hmem, _⟩
    · exact halloc
    · rw [hempty] at hmem
      exact absurd hmem (Finset.notMem_empty frame)
  allocate_least := by
    intro frame hmem hleast
    rcases allocateFrame_spec hself with ⟨hempty, _⟩ | ⟨other, hother, hotherLeast, halloc⟩
    · rw [hempty] at hmem
      exact absurd hmem (Finset.notMem_empty frame)
    · have hsame : other = frame :=
        le_antisymm (hotherLeast frame hmem) (hleast other hother)
      subst hsame
      exact ⟨_, halloc, freeSet_handOut self other, allocSet_handOut self other⟩
  free_allocated := by
    intro frame hmem
    obtain ⟨hfree, halloc, _⟩ := freeFrame_of_mem hself hmem
    exact ⟨hfree, halloc⟩
  free_other := fun _ hnone => freeFrame_of_not_mem hnone

/-- Refinement of the frame allocator over whole runs. From any initialized
allocator every sequence of calls runs without a panic, so the counter never
underflows, and its events and sets are those of the first-fit pool. The sets
stay disjoint with a constant union, the counter is the size of the free set,
and the next call is first fit on them. Hence only frames that were free after
initialization are handed out, and none is handed out twice without being
freed in between. -/
theorem allocator_refines_pool (memoryMap : List MemoryMapEntry) (kernelStart kernelEnd : U64)
    (start : FrameAllocator)
    (hinit : initializeAllocator memoryMap kernelStart kernelEnd = some start)
    (ops : List (Pool.Op U64)) :
    ∃ events final, runChecked call start ops = some (events, final) ∧
      runAll (Pool.step frameAddress) ⟨start.freeSet, ∅⟩ ops =
        (events, ⟨final.freeSet, final.allocSet⟩) ∧
      Disjoint final.freeSet final.allocSet ∧
      final.freeSet ∪ final.allocSet = start.freeSet ∧
      final.freeFrames = final.freeSet.card ∧
      final.FirstFit ∧
      (∀ address, .taken address ∈ events →
        ∃ frame ∈ start.freeSet, frameAddress frame = address) ∧
      ∀ address before between after,
        events = before ++ .taken address :: (between ++ .taken address :: after) →
        .given address ∈ between := by
  have hwithin := free_within start.freeSet
  obtain ⟨final, hrun, hfinal, hpool⟩ := run_follows_pool (initializeAllocator_pool hinit) ops
  have hend := Pool.run_within frameAddress_injective ops hwithin
  rw [← hpool] at hend
  refine ⟨_, final, hrun, Prod.ext rfl hpool.symm, hend.disjoint, hend.union_eq,
    hfinal.count_eq, hfinal.firstFit, ?_, ?_⟩
  · intro address htaken
    exact Pool.taken_mem frameAddress_injective ops hwithin htaken
  · intro address before between after hevents
    exact Pool.no_double_take frameAddress_injective ops hwithin hevents

/-- A usable MiB right after the kernel: its first frame is the first one
handed out. -/
theorem allocator_refines_pool_after_kernel :
    ∃ start final,
      initializeAllocator [⟨0x100000#64, 0x200000#64, 1#32, 1#32⟩] 0x100000#64 0x200000#64 =
        some start ∧
      runChecked call start [.take] = some ([.taken 0x200000#64], final) ∧
      final.freeSet ∪ final.allocSet = start.freeSet ∧
      final.freeFrames = final.freeSet.card := by
  obtain ⟨start, hinit, hfree⟩ := initializeAllocator_above_kernel
  obtain ⟨events, final, hrun, hpool, _, hunion, hcount, _⟩ :=
    allocator_refines_pool _ _ _ start hinit [.take]
  have hbound : 512 < maxFrames := by rw [maxFrames_eq]; omega
  have hmem : ⟨512, hbound⟩ ∈ start.freeSet := (hfree _).mpr ⟨le_rfl, by simp⟩
  have hlow (frame : Frame) (hframe : frame ∈ start.freeSet) : ⟨512, hbound⟩ ≤ frame :=
    Fin.mk_le_of_le_val ((hfree frame).mp hframe).1
  have hfirst : frameAddress ⟨512, hbound⟩ = 0x200000#64 := by
    rw [← BitVec.toNat_inj, frameAddress_toNat]
    rfl
  have htake : Pool.step frameAddress ⟨start.freeSet, ∅⟩ .take = _ :=
    Pool.step_take_least hmem hlow
  rw [runAll_cons, htake, runAll_nil, hfirst] at hpool
  have hevents : [.taken 0x200000#64] = events := congrArg Prod.fst hpool
  exact ⟨start, final, hinit, hevents ▸ hrun, hunion, hcount⟩

/-- The first allocation after an initialization returns the least free
frame. -/
theorem start_takes_least {memoryMap : List MemoryMapEntry} {kernelStart kernelEnd : U64}
    {start : FrameAllocator} {least : Frame}
    (hinit : initializeAllocator memoryMap kernelStart kernelEnd = some start)
    (hmem : least ∈ start.freeSet) (hleast : ∀ frame ∈ start.freeSet, least ≤ frame) :
    ∃ final, runChecked call start [.take] = some ([.taken (frameAddress least)], final) := by
  obtain ⟨final, hrun, _⟩ := run_follows_pool (initializeAllocator_pool hinit) [.take]
  have htake : Pool.step frameAddress ⟨start.freeSet, ∅⟩ .take = _ :=
    Pool.step_take_least hmem hleast
  rw [runAll_cons, htake] at hrun
  exact ⟨final, hrun⟩

/-- What is handed out after an initialization is exactly what it left free:
every run takes only free frames, and taking often enough takes each of
them. -/
theorem taken_iff_free {memoryMap : List MemoryMapEntry} {kernelStart kernelEnd : U64}
    {start : FrameAllocator}
    (hinit : initializeAllocator memoryMap kernelStart kernelEnd = some start) (address : U64) :
    (∃ ops events final, runChecked call start ops = some (events, final) ∧
      .taken address ∈ events) ↔ ∃ frame ∈ start.freeSet, frameAddress frame = address := by
  have hpool := initializeAllocator_pool hinit
  constructor
  · rintro ⟨ops, events, final, hrun, htaken⟩
    obtain ⟨last, hlast, _⟩ := run_follows_pool hpool ops
    rw [hrun] at hlast
    cases hlast
    exact Pool.taken_mem frameAddress_injective ops (free_within start.freeSet) htaken
  · rintro ⟨frame, hfree, rfl⟩
    obtain ⟨final, hrun, _⟩ :=
      run_follows_pool hpool (List.replicate start.freeSet.card .take)
    exact ⟨_, _, final, hrun, Pool.taken_of_mem_free hfree⟩

end FrameAllocator

/-- The page at this address has a byte in `[base_addr, base_addr + length)`. -/
def MemoryMapEntry.MeetsPage (entry : MemoryMapEntry) (page : Nat) : Prop :=
  ∃ byte, page ≤ byte ∧ byte < page + 4096 ∧
    entry.baseAddr.toNat ≤ byte ∧ byte < entry.baseAddr.toNat + entry.length.toNat

/-- The map is unambiguous about every page that initialization releases: where
a usable entry covers a managed page above the first MiB and outside the
rounded kernel range, no other kind of entry has a byte in it. -/
def Unambiguous (memoryMap : List MemoryMapEntry) (kernelStart kernelEnd : U64) : Prop :=
  ∀ usable ∈ memoryMap, ∀ other ∈ memoryMap, other.entryType ≠ 1#32 →
    ∀ frame, 256 ≤ frame → frame < maxFrames →
      ¬ (kernelStart.toNat / 4096 ≤ frame ∧ frame < (kernelEnd.toNat + 4095) / 4096) →
      usable.Covers frame → ¬ other.MeetsPage (4096 * frame)

namespace FrameAllocator

/-- The release pass looks at the usable entries alone, so a page that the map
calls usable and something else at once is handed out like any other. After an
initialization no run hands out a page that meets an entry of another type
exactly if the map has no such page. -/
theorem only_usable_handed_out_iff (memoryMap : List MemoryMapEntry) (kernelStart kernelEnd : U64)
    (start : FrameAllocator)
    (hinit : initializeAllocator memoryMap kernelStart kernelEnd = some start) :
    (∀ ops events final, runChecked call start ops = some (events, final) →
      ∀ address, .taken address ∈ events →
        ∀ entry ∈ memoryMap, entry.entryType ≠ 1#32 → ¬ entry.MeetsPage address.toNat) ↔
      Unambiguous memoryMap kernelStart kernelEnd := by
  obtain ⟨same, hsame, hfree⟩ := initializeAllocator_frees memoryMap kernelStart
    (initializeAllocator_bases hinit) (initializeAllocator_kernelEnd hinit)
  rw [hinit] at hsame
  cases hsame
  constructor
  · intro hruns usable husable other hother htype frame hlow hmanaged hkernel hcovers
    have hmem : ⟨frame, hmanaged⟩ ∈ start.freeSet :=
      (hfree ⟨frame, hmanaged⟩).mpr ⟨⟨usable, husable, hcovers⟩, hlow, hkernel⟩
    obtain ⟨ops, events, final, hrun, htaken⟩ := (taken_iff_free hinit _).mpr ⟨_, hmem, rfl⟩
    have hclear := hruns ops events final hrun _ htaken other hother htype
    rwa [frameAddress_toNat] at hclear
  · intro hmap ops events final hrun address htaken entry hentry htype
    obtain ⟨frame, hmem, rfl⟩ :=
      (taken_iff_free hinit address).mp ⟨ops, events, final, hrun, htaken⟩
    obtain ⟨⟨usable, husable, hcovers⟩, hlow, hkernel⟩ := (hfree frame).mp hmem
    rw [frameAddress_toNat]
    exact hmap usable husable entry hentry htype frame hlow frame.isLt hkernel hcovers

/-- The map of a small machine, reserved memory right behind the usable
memory: nothing but usable memory is handed out. -/
theorem only_usable_handed_out_disjoint :
    ∃ start,
      initializeAllocator [⟨0x300000#64, 0x1000#64, 2#32, 1#32⟩,
        ⟨0x100000#64, 0x200000#64, 1#32, 1#32⟩] 0x100000#64 0x180000#64 = some start ∧
      ∀ ops events final, runChecked call start ops = some (events, final) →
        ∀ address, .taken address ∈ events →
          ¬ MemoryMapEntry.MeetsPage ⟨0x300000#64, 0x1000#64, 2#32, 1#32⟩ address.toNat := by
  obtain ⟨start, hinit, _⟩ := initializeAllocator_spec
    [⟨0x300000#64, 0x1000#64, 2#32, 1#32⟩, ⟨0x100000#64, 0x200000#64, 1#32, 1#32⟩]
    (by decide) (show (0x100000#64 : U64) < 0x180000#64 by decide) (by decide)
  refine ⟨start, hinit, fun ops events final hrun address htaken => ?_⟩
  apply (only_usable_handed_out_iff _ _ _ start hinit).mpr ?_ ops events final hrun address htaken
  · simp
  · decide
  · intro usable husable other hother htype frame _ _ _ hcovers
    rintro ⟨byte, hlow, hhigh, hbase, hlast⟩
    simp only [List.mem_cons, List.not_mem_nil, or_false] at husable hother
    rcases hother with rfl | rfl
    · rcases husable with rfl | rfl
      · exact absurd hcovers.1 (by decide)
      · have hcover := hcovers.2.2.2
        simp only [BitVec.toNat_ofNat] at hbase hcover
        omega
    · exact absurd rfl htype

/-- A reserved page inside a usable region, listed after it: it is the first
frame handed out. -/
theorem reserved_page_handed_out :
    ∃ start final,
      initializeAllocator [⟨0x200000#64, 0x2000#64, 1#32, 1#32⟩,
        ⟨0x200000#64, 0x1000#64, 2#32, 1#32⟩] 0x100000#64 0x180000#64 = some start ∧
      runChecked call start [.take] = some ([.taken 0x200000#64], final) ∧
      MemoryMapEntry.MeetsPage ⟨0x200000#64, 0x1000#64, 2#32, 1#32⟩
        (0x200000#64 : U64).toNat := by
  obtain ⟨start, hinit, hfree⟩ := initializeAllocator_spec
    [⟨0x200000#64, 0x2000#64, 1#32, 1#32⟩, ⟨0x200000#64, 0x1000#64, 2#32, 1#32⟩]
    (by decide) (show (0x100000#64 : U64) < 0x180000#64 by decide) (by decide)
  have hbound : 512 < maxFrames := by rw [maxFrames_eq]; omega
  have hmem : ⟨512, hbound⟩ ∈ start.freeSet := by
    rw [hfree, UsableAfterBoot, pageMeets_iff (by decide)]
    simp [MemoryMapEntry.Covers]
  have hlow (frame : Frame) (hframe : frame ∈ start.freeSet) : ⟨512, hbound⟩ ≤ frame := by
    rw [hfree, UsableAfterBoot] at hframe
    simp only [MemoryMapEntry.Covers, List.mem_cons, List.not_mem_nil, or_false,
      exists_eq_or_imp, exists_eq_left, BitVec.toNat_ofNat] at hframe
    exact Fin.mk_le_of_le_val (by omega)
  have hrun := start_takes_least hinit hmem hlow
  obtain ⟨final, hfinal⟩ := hrun
  have hfirst : frameAddress ⟨512, hbound⟩ = 0x200000#64 := by
    rw [← BitVec.toNat_inj, frameAddress_toNat]
    rfl
  refine ⟨start, final, hinit, by rw [hfinal, hfirst], 0x200000, ?_⟩
  simp

end FrameAllocator

end UnboundOS.Memory
