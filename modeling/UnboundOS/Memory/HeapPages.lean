import UnboundOS.Memory.Heap
import UnboundOS.Memory.MapOutcome

/-!
The books of `KernelHeap::initialize` and `rollback`. Every frame that was free
when the call started is still free, or holds the data of a heap page, or has
become a page table. Each step of the two loops moves one frame between the
first two, `map` moves frames from the first to the last, and nothing takes a
page table back.
-/

namespace UnboundOS.Memory

open RadixForest PageTable FrameAllocator
open SpaceSystem (leaf leaf_of_leafSet)
open Fallible (exec)

/-- What has become of the frames that were free in `start`, with `data` the
frames that hold heap data. -/
structure Account (roots : Set U64) (start : PhysicalMemory) (data : Finset Frame)
    (memory : PhysicalMemory) : Prop where
  origin : start.Safe roots
  safe : memory.Safe roots
  free : memory.allocator.freeSet ⊆ start.allocator.freeSet
  alloc : memory.allocator.allocSet =
    start.allocator.allocSet ∪ (start.allocator.freeSet \ memory.allocator.freeSet)
  held : data ⊆ start.allocator.freeSet \ memory.allocator.freeSet
  walks : ∀ root ∈ roots, ∀ path : List (Fin 512), path.length ≤ 3 → ∀ table,
    walk entryTarget start.tables root path = some table →
    walk entryTarget memory.tables root path = some table
  taken : ∀ frame ∈ start.allocator.freeSet \ memory.allocator.freeSet,
    frame ∈ data ∨ Node entryTarget 3 roots memory.tables (frameAddress frame)
  nodes : ∀ table, Node entryTarget 3 roots memory.tables table →
    Node entryTarget 3 roots start.tables table ∨
      ∃ frame ∈ start.allocator.freeSet \ memory.allocator.freeSet,
        frame ∉ data ∧ table = frameAddress frame
  outside : ∀ table, ¬ Node entryTarget 3 roots memory.tables table →
    memory.tables table = start.tables table

namespace Account

variable {roots : Set U64} {start memory next : PhysicalMemory} {data : Finset Frame}
  {frame : Frame}

theorem opened (hstart : start.Safe roots) : Account roots start ∅ start where
  origin := hstart
  safe := hstart
  free := subset_rfl
  alloc := by rw [Finset.sdiff_self, Finset.union_empty]
  held := Finset.empty_subset _
  walks := fun _ _ _ _ _ hwalk => hwalk
  taken := by
    intro frame hframe
    rw [Finset.sdiff_self] at hframe
    exact absurd hframe (Finset.notMem_empty frame)
  nodes := fun _ hnode => Or.inl hnode
  outside := fun _ _ => rfl

/-- A frame with heap data is no page table. -/
theorem not_node (haccount : Account roots start data memory) (hframe : frame ∈ data) :
    ¬ Node entryTarget 3 roots memory.tables (frameAddress frame) := by
  intro hnode
  rcases haccount.nodes _ hnode with hold | ⟨other, _, hother, heq⟩
  · exact free_not_node haccount.origin.toSound (Finset.mem_sdiff.mp (haccount.held hframe)).1 hold
  · rw [frameAddress_injective heq] at hframe
    exact hother hframe

theorem mem_allocSet (haccount : Account roots start data memory) (hframe : frame ∈ data) :
    frame ∈ memory.allocator.allocSet := by
  rw [haccount.alloc]
  exact Finset.mem_union_right _ (haccount.held hframe)

/-- A free frame is taken for data. -/
theorem take (haccount : Account roots start data memory)
    (hfree : frame ∈ memory.allocator.freeSet) :
    Account roots start (insert frame data)
      ⟨memory.allocator.handOut frame, memory.tables⟩ := by
  have hgone : start.allocator.freeSet \ (memory.allocator.handOut frame).freeSet =
      insert frame (start.allocator.freeSet \ memory.allocator.freeSet) := by
    rw [freeSet_handOut, Finset.sdiff_erase (haccount.free hfree)]
  refine ⟨haccount.origin, handOut_safe haccount.safe hfree, ?_, ?_, ?_, haccount.walks, ?_, ?_,
    haccount.outside⟩
  · exact (freeSet_handOut _ _ ▸ Finset.erase_subset _ _).trans haccount.free
  · simp only [hgone, allocSet_handOut, haccount.alloc, Finset.union_insert]
  · simp only [hgone]
    exact Finset.insert_subset_insert frame haccount.held
  · intro other hother
    simp only [hgone, Finset.mem_insert] at hother
    rcases hother with rfl | hold
    · exact Or.inl (Finset.mem_insert_self _ _)
    · exact (haccount.taken other hold).imp_left Finset.mem_insert_of_mem
  · intro table hnode
    rcases haccount.nodes table hnode with hold | ⟨other, hother, hnot, heq⟩
    · exact Or.inl hold
    · refine Or.inr ⟨other, by simp only [hgone]; exact Finset.mem_insert_of_mem hother, ?_, heq⟩
      rw [Finset.mem_insert]
      rintro (rfl | hdata)
      · exact (Finset.mem_sdiff.mp hother).2 hfree
      · exact hnot hdata

/-- Page tables are added or changed; no frame with data becomes one. -/
theorem grow (haccount : Account roots start data memory) (hgrew : Grew roots memory next) :
    Account roots start data next := by
  have hsplit : start.allocator.freeSet \ next.allocator.freeSet =
      (start.allocator.freeSet \ memory.allocator.freeSet) ∪
        (memory.allocator.freeSet \ next.allocator.freeSet) :=
    (Finset.sdiff_union_sdiff_cancel haccount.free hgrew.free).symm
  refine ⟨haccount.origin, hgrew.safe haccount.safe, hgrew.free.trans haccount.free, ?_, ?_, ?_,
    ?_, ?_, ?_⟩
  · rw [hgrew.alloc, haccount.alloc, hsplit, Finset.union_assoc]
  · rw [hsplit]
    exact haccount.held.trans Finset.subset_union_left
  · intro root hroot path hdepth table hwalk
    exact hgrew.walks root hroot path hdepth table
      (haccount.walks root hroot path hdepth table hwalk)
  · intro frame hframe
    rw [hsplit] at hframe
    rcases Finset.mem_union.mp hframe with hold | hnew
    · exact (haccount.taken frame hold).imp_right hgrew.node
    · exact Or.inr (hgrew.taken frame hnew)
  · intro table hnode
    rw [hsplit]
    rcases hgrew.nodes table hnode with hmemory | ⟨frame, hframe, heq⟩
    · rcases haccount.nodes table hmemory with hstart | ⟨frame, hframe, hnot, heq⟩
      · exact Or.inl hstart
      · exact Or.inr ⟨frame, Finset.mem_union_left _ hframe, hnot, heq⟩
    · refine Or.inr ⟨frame, Finset.mem_union_right _ hframe, fun hdata => ?_, heq⟩
      exact (Finset.mem_sdiff.mp (haccount.held hdata)).2 (Finset.mem_sdiff.mp hframe).1
  · intro table hnot
    rw [hgrew.outside table hnot, haccount.outside table fun hnode => hnot (hgrew.node hnode)]

/-- A frame with data is given back. -/
theorem give (haccount : Account roots start data memory) (hframe : frame ∈ data) :
    Account roots start (data.erase frame)
        ⟨memory.allocator.freeFrame (frameAddress frame), memory.tables⟩ ∧
      (memory.allocator.freeFrame (frameAddress frame)).freeSet =
        insert frame memory.allocator.freeSet := by
  obtain ⟨hfree, halloc, hconsistent⟩ :=
    freeFrame_of_mem haccount.safe.consistent (haccount.mem_allocSet hframe)
  have horigin := (Finset.mem_sdiff.mp (haccount.held hframe)).1
  have hgone : start.allocator.freeSet \
      (memory.allocator.freeFrame (frameAddress frame)).freeSet =
      (start.allocator.freeSet \ memory.allocator.freeSet).erase frame := by
    rw [hfree, Finset.sdiff_insert]
  have hnever : frame ∉ start.allocator.allocSet :=
    Finset.disjoint_left.mp haccount.origin.consistent.disjoint horigin
  have hnull := haccount.safe.nullReserved.of_managed_eq
    (managed_freeFrame haccount.safe.consistent (frameAddress frame))
  refine ⟨⟨haccount.origin, ⟨⟨hconsistent, haccount.safe.forest, ?_⟩, hnull,
    haccount.safe.dereferenceable⟩, ?_, ?_, ?_, haccount.walks, ?_, ?_, haccount.outside⟩, hfree⟩
  · intro table hnode other hother
    rw [hfree, Finset.mem_insert] at hother
    rcases hother with rfl | hold
    · rintro rfl
      exact haccount.not_node hframe hnode
    · exact haccount.safe.reserved table hnode other hold
  · rw [hfree]
    exact Finset.insert_subset horigin haccount.free
  · rw [hgone, halloc, haccount.alloc, Finset.erase_union_distrib,
      Finset.erase_eq_of_notMem hnever]
  · rw [hgone]
    exact Finset.erase_subset_erase frame haccount.held
  · intro other hother
    rw [hgone, Finset.mem_erase] at hother
    exact (haccount.taken other hother.2).imp_left fun hdata =>
      Finset.mem_erase.mpr ⟨hother.1, hdata⟩
  · intro table hnode
    rcases haccount.nodes table hnode with hold | ⟨other, hother, hnot, heq⟩
    · exact Or.inl hold
    · refine Or.inr ⟨other, ?_, fun hdata => hnot (Finset.mem_of_mem_erase hdata), heq⟩
      rw [hgone, Finset.mem_erase]
      refine ⟨?_, hother⟩
      rintro rfl
      exact hnot hframe

end Account

theorem mappable_heapPage {page : Nat} (hpage : page < 4096) {physicalAddress : U64}
    (hphysical : Addressable physicalAddress) : Mappable (heapPage page) physicalAddress := by
  have hnat := heapPage_toNat hpage.le
  exact mappable_low (by omega) (by omega) hphysical

theorem heapPage_inj {page other : Nat} (hpage : page ≤ 4096) (hother : other ≤ 4096) :
    heapPage page = heapPage other ↔ page = other := by
  constructor
  · intro hsame
    have hnat := congrArg BitVec.toNat hsame
    rw [heapPage_toNat hpage, heapPage_toNat hother] at hnat
    omega
  · rintro rfl
    rfl

/-- Heap pages `first`, `first + 1`, … are mapped to the frames of `data`; apart
from that all pages of all spaces are as they were in `start`, and these heap
pages were not mapped there. -/
structure HeapPages (roots : Set U64) (start : PhysicalMemory) (space : AddressSpace)
    (first : Nat) (data : List Frame) (memory : PhysicalMemory) : Prop where
  account : Account roots start data.toFinset memory
  nodup : data.Nodup
  root : space.pml4Phys ∈ roots
  room : first + data.length ≤ 4096
  mapped : ∀ index frame, data[index]? = some frame →
    leaf memory.tables space (heapPage (first + index)) =
      some (makeEntry (frameAddress frame) true false)
  unmapped : ∀ index < data.length, leaf start.tables space (heapPage (first + index)) = none
  others : ∀ other : AddressSpace, other.pml4Phys ∈ roots →
    ∀ page, isCanonical page = true → page % pageSize = 0#64 →
      (other = space → ∀ index < data.length, page ≠ heapPage (first + index)) →
      leaf memory.tables other page = leaf start.tables other page

namespace HeapPages

variable {roots : Set U64} {start memory next : PhysicalMemory} {space : AddressSpace}
  {first : Nat} {data : List Frame} {frame : Frame}

theorem opened (hstart : start.Safe roots) (hroot : space.pml4Phys ∈ roots)
    (hroom : first ≤ 4096) : HeapPages roots start space first [] start where
  account := Account.opened hstart
  nodup := List.nodup_nil
  root := hroot
  room := hroom
  mapped := fun _ _ hframe => absurd hframe (by simp)
  unmapped := fun _ hindex => absurd hindex (Nat.not_lt_zero _)
  others := fun _ _ _ _ _ _ => rfl

/-- One step of `rollback`: the first page is unmapped and its frame given
back. -/
theorem unmapFirst (hheap : HeapPages roots start space first (frame :: data) memory) :
    ∃ next, exec (unmap space.pml4Phys (heapPage first)) memory =
        some (.ok (frameAddress frame), next) ∧
      SameTables roots memory next ∧
      HeapPages roots start space (first + 1) data
        ⟨next.allocator.freeFrame (frameAddress frame), next.tables⟩ ∧
      (next.allocator.freeFrame (frameAddress frame)).freeSet =
        insert frame memory.allocator.freeSet := by
  have hroom := hheap.room
  rw [List.length_cons] at hroom
  have hargs := mappable_heapPage (show first < 4096 by omega) (addressable_frameAddress frame)
  have hmapped : leaf memory.tables space (heapPage first) =
      some (makeEntry (frameAddress frame) true false) := hheap.mapped 0 frame rfl
  rcases unmap_spec hheap.account.safe hheap.root (heapPage first) with
    ⟨_, _, hnone⟩ | ⟨entry, next, hexec, hentry, _, _, _, hleaf, htables, hallocator, hgrew⟩
  · rw [leaf, hnone hargs.canonical hargs.aligned] at hmapped
    cases hmapped
  obtain rfl : entry = makeEntry (frameAddress frame) true false :=
    Option.some.inj (hentry.symm.trans hmapped)
  rw [entryAddress_makeEntry (addressable_frameAddress frame)] at hexec
  obtain ⟨hfresh, hnodup⟩ := List.nodup_cons.mp hheap.nodup
  obtain ⟨haccount, hfree⟩ :=
    (hheap.account.grow hgrew).give
      (show frame ∈ (frame :: data).toFinset by simp)
  rw [List.toFinset_cons, Finset.erase_insert (by simpa using hfresh)] at haccount
  have hafter {other : AddressSpace} (hother : other.pml4Phys ∈ roots) {page : U64}
      (hcanonical : isCanonical page = true) (haligned : page % pageSize = 0#64) :=
    leaf_of_leafSet hargs.canonical hargs.aligned hleaf hother hcanonical haligned
  refine ⟨next, hexec, htables, ⟨haccount, hnodup, hheap.root, by omega, ?_, ?_, ?_⟩,
    by rw [hfree, hallocator]⟩
  · intro index other hother
    have hindex : index < data.length := (List.getElem?_eq_some_iff.mp hother).1
    have hpage := mappable_heapPage (show first + 1 + index < 4096 by omega)
      (addressable_frameAddress frame)
    rw [hafter hheap.root hpage.canonical hpage.aligned, if_neg, Nat.add_assoc, Nat.add_comm 1]
    · exact hheap.mapped (index + 1) other hother
    · rintro ⟨_, hsame⟩
      have := (heapPage_inj (by omega) (by omega)).mp hsame
      omega
  · intro index hindex
    rw [Nat.add_assoc, Nat.add_comm 1]
    exact hheap.unmapped (index + 1) (Nat.succ_lt_succ hindex)
  · intro other hother page hcanonical haligned hoff
    rw [hafter hother hcanonical haligned]
    split
    next hhit =>
      obtain ⟨rfl, rfl⟩ := hhit
      exact (hheap.unmapped 0 (Nat.succ_pos _)).symm
    next hmiss =>
      apply hheap.others other hother page hcanonical haligned
      rintro rfl index hindex rfl
      cases index with
      | zero => exact hmiss ⟨rfl, rfl⟩
      | succ index =>
          apply hoff rfl index (Nat.lt_of_succ_lt_succ hindex)
          rw [Nat.add_assoc, Nat.add_comm 1]

/-- `rollback` over all pages mapped so far. Every page is as it was in
`start`, every data frame is free again, and no page table is gone. -/
theorem rollbackPages (hheap : HeapPages roots start space first data memory) :
    ∃ final, KernelHeap.rollbackPages space.pml4Phys data.length (heapPage first) memory =
        some final ∧
      HeapPages roots start space (first + data.length) [] final ∧
      SameTables roots memory final ∧
      final.allocator.freeSet = memory.allocator.freeSet ∪ data.toFinset := by
  induction data generalizing first memory with
  | nil =>
      refine ⟨memory, rfl, hheap, fun _ _ _ _ => rfl, ?_⟩
      rw [List.toFinset_nil, Finset.union_empty]
  | cons frame data ih =>
      have hroom := hheap.room
      rw [List.length_cons] at hroom
      obtain ⟨next, hexec, htables, hnext, hfree⟩ := hheap.unmapFirst
      obtain ⟨final, hrest, hfinal, hsame, hunion⟩ := ih hnext
      refine ⟨final, ?_, ?_, fun root hroot path hpath => ?_, ?_⟩
      · rw [List.length_cons, KernelHeap.rollbackPages, hexec]
        simp only [Option.bind_eq_bind, Option.bind_some,
          heapPage_succ (show first < 4096 by omega)]
        exact hrest
      · rwa [List.length_cons, Nat.add_comm data.length, ← Nat.add_assoc]
      · exact (hsame root hroot path hpath).trans (htables root hroot path hpath)
      · rw [hunion, hfree, List.toFinset_cons, Finset.insert_union, Finset.union_insert]

/-- The next heap page is not one of those mapped, so it is as in `start`. -/
theorem leaf_next (hheap : HeapPages roots start space 0 data memory)
    (hroom : data.length < 4096) :
    leaf memory.tables space (heapPage data.length) =
      leaf start.tables space (heapPage data.length) := by
  have hargs := mappable_heapPage hroom (addressable_frameAddress ⟨0, by rw [maxFrames_eq]; omega⟩)
  apply hheap.others space hheap.root _ hargs.canonical hargs.aligned
  intro _ index hindex hsame
  have := (heapPage_inj hroom.le (by omega)).mp hsame
  omega

/-- The next page is mapped to a frame just taken. -/
theorem append (hheap : HeapPages roots start space 0 data memory) (hroom : data.length < 4096)
    (hfree : frame ∈ memory.allocator.freeSet)
    (hunmapped : leaf start.tables space (heapPage data.length) = none)
    (hgrew : Grew roots ⟨memory.allocator.handOut frame, memory.tables⟩ next)
    (hleaf : LeafSet roots ⟨memory.allocator.handOut frame, memory.tables⟩ next space.pml4Phys
      (heapPage data.length) (some (makeEntry (frameAddress frame) true false))) :
    HeapPages roots start space 0 (data ++ [frame]) next := by
  have hargs := mappable_heapPage hroom (addressable_frameAddress frame)
  have hfresh : frame ∉ data := by
    intro hdata
    exact (Finset.mem_sdiff.mp (hheap.account.held (List.mem_toFinset.mpr hdata))).2 hfree
  have hset : (data ++ [frame]).toFinset = insert frame data.toFinset := by
    rw [List.toFinset_append, List.toFinset_cons, List.toFinset_nil, Finset.union_comm]
    rfl
  have hafter {other : AddressSpace} (hother : other.pml4Phys ∈ roots) {page : U64}
      (hcanonical : isCanonical page = true) (haligned : page % pageSize = 0#64) :=
    leaf_of_leafSet hargs.canonical hargs.aligned hleaf hother hcanonical haligned
  have hlength : (data ++ [frame]).length = data.length + 1 := by simp
  refine ⟨?_, ?_, hheap.root, by omega, ?_, ?_, ?_⟩
  · rw [hset]
    exact (hheap.account.take hfree).grow hgrew
  · rw [List.nodup_append]
    refine ⟨hheap.nodup, List.nodup_singleton _, ?_⟩
    intro other hother last hlast
    rw [List.mem_singleton.mp hlast]
    rintro rfl
    exact hfresh hother
  · intro index other hother
    have hindex : index < data.length + 1 := hlength ▸ (List.getElem?_eq_some_iff.mp hother).1
    have hpage := mappable_heapPage (show 0 + index < 4096 by omega)
      (addressable_frameAddress frame)
    rw [hafter hheap.root hpage.canonical hpage.aligned]
    rcases Nat.eq_or_lt_of_le (Nat.le_of_lt_succ hindex) with rfl | hless
    · rw [List.getElem?_concat_length, Option.some.injEq] at hother
      rw [if_pos ⟨rfl, by rw [Nat.zero_add]⟩, hother]
    · rw [List.getElem?_append_left hless] at hother
      rw [if_neg]
      · exact hheap.mapped index other hother
      · rintro ⟨_, hsame⟩
        have := (heapPage_inj (by omega) (by omega)).mp hsame
        omega
  · intro index hindex
    rcases Nat.eq_or_lt_of_le (Nat.le_of_lt_succ (hlength ▸ hindex)) with rfl | hless
    · rw [Nat.zero_add]
      exact hunmapped
    · exact hheap.unmapped index hless
  · intro other hother page hcanonical haligned hoff
    rw [hafter hother hcanonical haligned, if_neg]
    · apply hheap.others other hother page hcanonical haligned
      intro hspace index hindex
      exact hoff hspace index (by omega)
    · rintro ⟨rfl, rfl⟩
      apply hoff rfl data.length (by omega)
      rw [Nat.zero_add]

/-- The next page is refused, and the frame taken for it goes back. -/
theorem refuse (hheap : HeapPages roots start space 0 data memory)
    (hfree : frame ∈ memory.allocator.freeSet)
    (hgrew : Grew roots ⟨memory.allocator.handOut frame, memory.tables⟩ next)
    (hsame : SameLeaves roots ⟨memory.allocator.handOut frame, memory.tables⟩ next) :
    HeapPages roots start space 0 data
        ⟨next.allocator.freeFrame (frameAddress frame), next.tables⟩ ∧
      frame ∈ (next.allocator.freeFrame (frameAddress frame)).freeSet := by
  have hfresh : frame ∉ data.toFinset := fun hdata =>
    (Finset.mem_sdiff.mp (hheap.account.held hdata)).2 hfree
  obtain ⟨haccount, hgiven⟩ :=
    ((hheap.account.take hfree).grow hgrew).give (Finset.mem_insert_self _ _)
  rw [Finset.erase_insert hfresh] at haccount
  have hleaf (other : AddressSpace) (hother : other.pml4Phys ∈ roots) (page : U64) :
      leaf next.tables other page = leaf memory.tables other page :=
    hsame _ hother _ rfl _
  refine ⟨⟨haccount, hheap.nodup, hheap.root, hheap.room, ?_, hheap.unmapped, ?_⟩, ?_⟩
  · intro index other hother
    exact (hleaf space hheap.root _).trans (hheap.mapped index other hother)
  · intro other hother page hcanonical haligned hoff
    exact (hleaf other hother page).trans
      (hheap.others other hother page hcanonical haligned hoff)
  · rw [hgiven]
    exact Finset.mem_insert_self _ _

/-- One iteration of the loop of `initialize`. -/
theorem iterate (hheap : HeapPages roots start space 0 data memory) (hroom : data.length < 4096) :
    (memory.allocator.freeSet = ∅ ∧
      memory.allocator.allocateFrame = some (none, memory.allocator)) ∨
    ∃ frame result next, frame ∈ memory.allocator.freeSet ∧
      memory.allocator.allocateFrame =
        some (some (frameAddress frame), memory.allocator.handOut frame) ∧
      exec (map space.pml4Phys (heapPage data.length) (frameAddress frame) true false)
        ⟨memory.allocator.handOut frame, memory.tables⟩ = some (result, next) ∧
      Grew roots ⟨memory.allocator.handOut frame, memory.tables⟩ next ∧
      next.allocator.freeSet.card = memory.allocator.freeSet.card - 1 -
        missing entryTarget memory.tables space.pml4Phys (pagePath (heapPage data.length)) ∧
      ((result = .ok () ∧ leaf start.tables space (heapPage data.length) = none ∧
          missing entryTarget memory.tables space.pml4Phys (pagePath (heapPage data.length)) ≤
            memory.allocator.freeSet.card - 1 ∧
          HeapPages roots start space 0 (data ++ [frame]) next) ∨
        ∃ message, result = .error message ∧
          (leaf start.tables space (heapPage data.length) ≠ none ∨
            memory.allocator.freeSet.card - 1 <
              missing entryTarget memory.tables space.pml4Phys
                (pagePath (heapPage data.length))) ∧
          HeapPages roots start space 0 data
            ⟨next.allocator.freeFrame (frameAddress frame), next.tables⟩ ∧
          frame ∈ (next.allocator.freeFrame (frameAddress frame)).freeSet) := by
  rcases allocateFrame_spec hheap.account.safe.consistent with hempty | ⟨frame, hfree, _, halloc⟩
  · exact Or.inl hempty
  have hcard : (memory.allocator.handOut frame).freeSet.card =
      memory.allocator.freeSet.card - 1 := by
    rw [freeSet_handOut, Finset.card_erase_of_mem hfree]
  obtain ⟨result, next, hexec, hgrew, htaken, houtcome⟩ :=
    map_returns (handOut_safe hheap.account.safe hfree) hheap.root
      (mappable_heapPage hroom (addressable_frameAddress frame)) true false
  simp only [hcard] at htaken houtcome
  have hleaf := hheap.leaf_next hroom
  refine Or.inr ⟨frame, result, next, hfree, halloc, hexec, hgrew, htaken, ?_⟩
  rcases houtcome with ⟨hok, hnone, hfits, hset⟩ | ⟨message, hfail, hcause, hsame⟩
  · have hunmapped := hleaf.symm.trans hnone
    exact Or.inl ⟨hok, hunmapped, hfits, hheap.append hroom hfree hunmapped hgrew hset⟩
  · refine Or.inr ⟨message, hfail, hcause.imp_left fun hmapped => ?_,
      hheap.refuse hfree hgrew hsame⟩
    rw [← hleaf]
    exact hmapped

end HeapPages

end UnboundOS.Memory
