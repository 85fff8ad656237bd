import UnboundOS.Memory.HeapPages

/-!
What `KernelHeap::initialize` returns and what it leaves behind, for every
number of pages and wherever it fails. Either all pages are mapped, or every
page is as before and every data frame is free again. The page tables made on
the way are not undone: they stay, and with them the frames they took.
-/

namespace UnboundOS.Memory

open RadixForest PageTable FrameAllocator
open SpaceSystem (leaf Constructed constructed_zeroed pml4Phys_mem_roots translate_congr
  translate_mapped)
open Fallible (exec)

/-- A frame that was free in `start` is a page table now. -/
def Created (roots : Set U64) (start memory : PhysicalMemory) : Prop :=
  ∃ frame ∈ start.allocator.freeSet, Node entryTarget 3 roots memory.tables (frameAddress frame)

/-- The last-level table of a heap page exists. -/
def HasTable (memory : PhysicalMemory) (space : AddressSpace) (page : Nat) : Prop :=
  (walk entryTarget memory.tables space.pml4Phys (pagePath (heapPage page))).isSome

/-- Mapping `left` heap pages from page `first` on makes a page table: a page
whose last-level table is missing is reached, since all pages before it have one
and are not mapped, and a frame is left besides the one for its data. -/
def MakesTable (memory : PhysicalMemory) (space : AddressSpace) (first left free : Nat) : Prop :=
  ∃ page < left, page + 2 ≤ free ∧ ¬ HasTable memory space (first + page) ∧
    ∀ earlier < page, HasTable memory space (first + earlier) ∧
      leaf memory.tables space (heapPage (first + earlier)) = none

section Created

variable {roots : Set U64} {start memory next : PhysicalMemory} {space : AddressSpace}
  {data : Finset Frame}

theorem created_iff_of_sameTables (htables : SameTables roots memory next) :
    Created roots start next ↔ Created roots start memory := by
  simp only [Created, node_iff_of_walk_eq htables]

/-- A new table takes a frame, and a frame `map` takes becomes a table. -/
theorem created_iff_of_grew (hgrew : Grew roots memory next)
    (hfree : memory.allocator.freeSet ⊆ start.allocator.freeSet) :
    Created roots start next ↔ Created roots start memory ∨
      next.allocator.freeSet.card < memory.allocator.freeSet.card := by
  constructor
  · rintro ⟨frame, hframe, hnode⟩
    rcases hgrew.nodes _ hnode with hold | ⟨other, hother, _⟩
    · exact Or.inl ⟨frame, hframe, hold⟩
    · rw [Finset.mem_sdiff] at hother
      exact Or.inr (Finset.card_lt_card ⟨hgrew.free, fun hback => hother.2 (hback hother.1)⟩)
  · rintro (⟨frame, hframe, hnode⟩ | hfewer)
    · exact ⟨frame, hframe, hgrew.node hnode⟩
    · obtain ⟨frame, hold, hgone⟩ := Finset.exists_mem_notMem_of_card_lt_card hfewer
      exact ⟨frame, hfree hold, hgrew.taken frame (Finset.mem_sdiff.mpr ⟨hold, hgone⟩)⟩

/-- As long as no table has been made, the tables are those of `start`. -/
theorem Account.hasTable_iff (haccount : Account roots start data memory)
    (hcreated : ¬ Created roots start memory) (hroot : space.pml4Phys ∈ roots) (page : Nat) :
    HasTable memory space page ↔ HasTable start space page := by
  constructor
  · intro hmemory
    obtain ⟨table, hwalk⟩ := Option.isSome_iff_exists.mp hmemory
    rcases haccount.nodes table (Node.of_walk hroot le_rfl hwalk) with
      ⟨root, hother, path, hdepth, hstart⟩ | ⟨frame, hframe, _, rfl⟩
    · obtain ⟨rfl, rfl⟩ := haccount.safe.forest.unique hroot hother le_rfl hdepth hwalk
        (haccount.walks root hother path hdepth table hstart)
      exact Option.isSome_iff_exists.mpr ⟨table, hstart⟩
    · exact absurd ⟨frame, (Finset.mem_sdiff.mp hframe).1, Node.of_walk hroot le_rfl hwalk⟩ hcreated
  · intro hstart
    obtain ⟨table, hwalk⟩ := Option.isSome_iff_exists.mp hstart
    exact Option.isSome_iff_exists.mpr ⟨table, haccount.walks _ hroot _ le_rfl table hwalk⟩

/-- With no data left, all frames are back exactly if none became a table. -/
theorem Account.unchanged_iff (haccount : Account roots start ∅ memory) :
    (memory.allocator.freeSet = start.allocator.freeSet ∧
      memory.allocator.freeFrames = start.allocator.freeFrames) ↔ ¬ Created roots start memory := by
  constructor
  · rintro ⟨hsame, _⟩ ⟨frame, hframe, hnode⟩
    rw [← hsame] at hframe
    exact free_not_node haccount.safe.toSound hframe hnode
  · intro hnone
    have hsame : memory.allocator.freeSet = start.allocator.freeSet := by
      apply haccount.free.antisymm
      intro frame hframe
      by_contra hgone
      rcases haccount.taken frame (Finset.mem_sdiff.mpr ⟨hframe, hgone⟩) with hdata | hnode
      · exact Finset.notMem_empty frame hdata
      · exact hnone ⟨frame, hframe, hnode⟩
    exact ⟨hsame, by rw [haccount.safe.consistent.count_eq, haccount.origin.consistent.count_eq,
      hsame]⟩

/-- The first of the pages decides, or the pages after it do. -/
theorem makesTable_succ (first left free : Nat) :
    MakesTable start space first (left + 1) free ↔
      (¬ HasTable start space first ∧ 2 ≤ free) ∨
      (HasTable start space first ∧ leaf start.tables space (heapPage first) = none ∧
        MakesTable start space (first + 1) left (free - 1)) := by
  have hshift (page : Nat) : first + 1 + page = first + (page + 1) := by omega
  constructor
  · rintro ⟨page, hpage, hframes, hmissing, hearlier⟩
    cases page with
    | zero => exact Or.inl ⟨hmissing, hframes⟩
    | succ page =>
        obtain ⟨htable, hleaf⟩ := hearlier 0 (Nat.succ_pos page)
        refine Or.inr ⟨htable, hleaf, page, by omega, by omega, ?_, fun earlier hless => ?_⟩
        · rwa [hshift]
        · rw [hshift]
          exact hearlier (earlier + 1) (Nat.succ_lt_succ hless)
  · rintro (⟨hmissing, hframes⟩ | ⟨htable, hleaf, page, hpage, hframes, hmissing, hearlier⟩)
    · exact ⟨0, Nat.succ_pos left, hframes, hmissing, fun earlier hless =>
        absurd hless (Nat.not_lt_zero earlier)⟩
    · refine ⟨page + 1, by omega, by omega, ?_, fun earlier hless => ?_⟩
      · rwa [← hshift]
      · cases earlier with
        | zero => exact ⟨htable, hleaf⟩
        | succ earlier =>
            rw [← hshift]
            exact hearlier earlier (Nat.lt_of_succ_lt_succ hless)

end Created

/-- What a failed run of the loop leaves, from `memory` with the frames of
`data` mapped and `left` pages to go. -/
structure Undone (roots : Set U64) (start : PhysicalMemory) (space : AddressSpace)
    (data : List Frame) (left : Nat) (memory final : PhysicalMemory) : Prop where
  pages : HeapPages roots start space 0 [] final
  given : ∀ frame ∈ data, frame ∈ final.allocator.freeSet
  later : ∀ address ∈ KernelHeap.dataFrames space.pml4Phys left (heapPage data.length) memory,
    ∃ frame ∈ final.allocator.freeSet, address = frameAddress frame
  kept : Created roots start memory → Created roots start final
  created : ¬ Created roots start memory → (Created roots start final ↔
    MakesTable start space data.length left memory.allocator.freeSet.card)

namespace HeapPages

variable {roots : Set U64} {start memory next : PhysicalMemory} {space : AddressSpace}
  {data : List Frame} {frame : Frame} {left : Nat}

/-- The rollback at the end of a failed run. -/
theorem undo (hheap : HeapPages roots start space 0 data memory) :
    ∃ final, KernelHeap.rollbackPages space.pml4Phys data.length heapStart memory = some final ∧
      HeapPages roots start space 0 [] final ∧
      (Created roots start final ↔ Created roots start memory) ∧
      final.allocator.freeSet = memory.allocator.freeSet ∪ data.toFinset := by
  obtain ⟨final, hexec, hfinal, htables, hfree⟩ := hheap.rollbackPages
  refine ⟨final, hexec, ?_, created_iff_of_sameTables htables, hfree⟩
  exact ⟨hfinal.account, hfinal.nodup, hfinal.root, Nat.zero_le _,
    fun _ _ hframe => absurd hframe (by simp), fun _ hindex => absurd hindex (Nat.not_lt_zero _),
    fun other hother page hcanonical haligned _ =>
      hfinal.others other hother page hcanonical haligned
        fun _ _ hindex => absurd hindex (Nat.not_lt_zero _)⟩

/-- No frame is left for the data of the next page. -/
theorem undone_exhausted (hheap : HeapPages roots start space 0 data memory)
    (hempty : memory.allocator.freeSet = ∅)
    (halloc : memory.allocator.allocateFrame = some (none, memory.allocator)) (left : Nat) :
    ∃ final, KernelHeap.rollbackPages space.pml4Phys data.length heapStart memory = some final ∧
      Undone roots start space data (left + 1) memory final := by
  obtain ⟨final, hexec, hfinal, hcreated, hfree⟩ := hheap.undo
  refine ⟨final, hexec, hfinal, ?_, ?_, hcreated.mpr, fun hnone => ?_⟩
  · intro frame hframe
    rw [hfree]
    exact Finset.mem_union_right _ (List.mem_toFinset.mpr hframe)
  · rw [KernelHeap.dataFrames_exhausted halloc]
    exact fun address haddress => absurd haddress List.not_mem_nil
  · apply iff_of_false (fun hfinal => hnone (hcreated.mp hfinal))
    rintro ⟨page, _, hframes, _⟩
    rw [hempty, Finset.card_empty] at hframes
    omega

/-- Whether the next page makes a table, by the frames `map` takes for it. -/
theorem created_next (hheap : HeapPages roots start space 0 data memory)
    (hfree : frame ∈ memory.allocator.freeSet)
    (hgrew : Grew roots ⟨memory.allocator.handOut frame, memory.tables⟩ next)
    (hcard : next.allocator.freeSet.card = memory.allocator.freeSet.card - 1 -
      missing entryTarget memory.tables space.pml4Phys (pagePath (heapPage data.length))) :
    (Created roots start memory → Created roots start next) ∧
      (¬ Created roots start memory → (Created roots start next ↔
        ¬ HasTable start space data.length ∧ 2 ≤ memory.allocator.freeSet.card)) := by
  have hhanded : (memory.allocator.handOut frame).freeSet.card =
      memory.allocator.freeSet.card - 1 := by
    rw [freeSet_handOut, Finset.card_erase_of_mem hfree]
  have hsubset : (memory.allocator.handOut frame).freeSet ⊆ start.allocator.freeSet := by
    rw [freeSet_handOut]
    exact (Finset.erase_subset _ _).trans hheap.account.free
  have hsame : Created roots start ⟨memory.allocator.handOut frame, memory.tables⟩ ↔
      Created roots start memory := created_iff_of_sameTables fun _ _ _ _ => rfl
  have hiff := created_iff_of_grew hgrew hsubset
  rw [hsame] at hiff
  simp only [hhanded] at hiff
  refine ⟨fun hold => hiff.mpr (Or.inl hold), fun hnone => ?_⟩
  have htable : missing entryTarget memory.tables space.pml4Phys
      (pagePath (heapPage data.length)) = 0 ↔ HasTable start space data.length :=
    (missing_eq_zero_iff entryTarget).trans (hheap.account.hasTable_iff hnone hheap.root _)
  rw [hiff, or_iff_right hnone, ← htable]
  omega

/-- The next page cannot be mapped. -/
theorem undone_refused (hheap : HeapPages roots start space 0 data memory)
    (hfree : frame ∈ memory.allocator.freeSet) {message : String}
    (halloc : memory.allocator.allocateFrame =
      some (some (frameAddress frame), memory.allocator.handOut frame))
    (hexec : exec (map space.pml4Phys (heapPage data.length) (frameAddress frame) true false)
      ⟨memory.allocator.handOut frame, memory.tables⟩ = some (.error message, next))
    (hgrew : Grew roots ⟨memory.allocator.handOut frame, memory.tables⟩ next)
    (hcard : next.allocator.freeSet.card = memory.allocator.freeSet.card - 1 -
      missing entryTarget memory.tables space.pml4Phys (pagePath (heapPage data.length)))
    (hcause : leaf start.tables space (heapPage data.length) ≠ none ∨
      memory.allocator.freeSet.card - 1 <
        missing entryTarget memory.tables space.pml4Phys (pagePath (heapPage data.length)))
    (hback : HeapPages roots start space 0 data
      ⟨next.allocator.freeFrame (frameAddress frame), next.tables⟩)
    (hgiven : frame ∈ (next.allocator.freeFrame (frameAddress frame)).freeSet) (left : Nat) :
    ∃ final, KernelHeap.rollbackPages space.pml4Phys data.length heapStart
        ⟨next.allocator.freeFrame (frameAddress frame), next.tables⟩ = some final ∧
      Undone roots start space data (left + 1) memory final := by
  obtain ⟨final, hundo, hfinal, hcreated, hunion⟩ := hback.undo
  obtain ⟨hkept, hmade⟩ := hheap.created_next hfree hgrew hcard
  refine ⟨final, hundo, hfinal, ?_, ?_, fun hold => hcreated.mpr (hkept hold), fun hnone => ?_⟩
  · intro other hother
    rw [hunion]
    exact Finset.mem_union_right _ (List.mem_toFinset.mpr hother)
  · rw [KernelHeap.dataFrames_refused halloc hexec]
    intro address haddress
    rw [List.mem_singleton.mp haddress]
    exact ⟨frame, by rw [hunion]; exact Finset.mem_union_left _ hgiven, rfl⟩
  · rw [hcreated, makesTable_succ]
    apply (hmade hnone).trans
    refine (or_iff_left ?_).symm
    rintro ⟨htable, hunmapped, _⟩
    rcases hcause with hmapped | hshort
    · exact hmapped hunmapped
    · have hnothing := (missing_eq_zero_iff entryTarget).mpr
        ((hheap.account.hasTable_iff hnone hheap.root _).mpr htable)
      omega

/-- The next page is mapped and the rest of the loop fails. -/
theorem undone_later (hheap : HeapPages roots start space 0 data memory)
    (hroom : data.length < 4096) (hfree : frame ∈ memory.allocator.freeSet)
    (halloc : memory.allocator.allocateFrame =
      some (some (frameAddress frame), memory.allocator.handOut frame))
    (hexec : exec (map space.pml4Phys (heapPage data.length) (frameAddress frame) true false)
      ⟨memory.allocator.handOut frame, memory.tables⟩ = some (.ok (), next))
    (hgrew : Grew roots ⟨memory.allocator.handOut frame, memory.tables⟩ next)
    (hcard : next.allocator.freeSet.card = memory.allocator.freeSet.card - 1 -
      missing entryTarget memory.tables space.pml4Phys (pagePath (heapPage data.length)))
    (hunmapped : leaf start.tables space (heapPage data.length) = none)
    (hfits : missing entryTarget memory.tables space.pml4Phys (pagePath (heapPage data.length)) ≤
      memory.allocator.freeSet.card - 1)
    {final : PhysicalMemory} (hrest : Undone roots start space (data ++ [frame]) left next final) :
    Undone roots start space data (left + 1) memory final := by
  obtain ⟨hkept, hmade⟩ := hheap.created_next hfree hgrew hcard
  have hlength : (data ++ [frame]).length = data.length + 1 := by simp
  obtain ⟨hpages, hgiven, hlater, hkeptRest, hcreatedRest⟩ := hrest
  rw [hlength] at hlater hcreatedRest
  refine ⟨hpages, fun other hother => hgiven other (List.mem_append_left _ hother), ?_,
    fun hold => hkeptRest (hkept hold), fun hnone => ?_⟩
  · rw [KernelHeap.dataFrames_succ halloc hexec (heapPage_succ hroom)]
    intro address haddress
    rcases List.mem_cons.mp haddress with rfl | hmore
    · exact ⟨frame, hgiven frame (by simp), rfl⟩
    · exact hlater address hmore
  · have hmissing := (missing_eq_zero_iff entryTarget).trans
      (hheap.account.hasTable_iff hnone hheap.root data.length)
    rw [makesTable_succ]
    by_cases htable : HasTable start space data.length
    · have hsame : ¬ Created roots start next := fun hnext => ((hmade hnone).mp hnext).1 htable
      rw [hcreatedRest hsame, hcard, hmissing.mpr htable, Nat.sub_zero]
      simp only [htable, hunmapped, not_true_eq_false, false_and, true_and, false_or]
    · have hframes : 2 ≤ memory.allocator.freeSet.card := by
        have := mt hmissing.mp htable
        omega
      exact iff_of_true (hkeptRest ((hmade hnone).mpr ⟨htable, hframes⟩))
        (Or.inl ⟨htable, hframes⟩)

/-- The loop of `initialize` from any point on. -/
theorem mapPages (hheap : HeapPages roots start space 0 data memory) (heap : KernelHeap)
    (hstart : heap.start = heapStart) (left : Nat) (mappedPages : U64)
    (hmapped : mappedPages.toNat = data.length) (hroom : data.length + left ≤ 4096) :
    ∃ result after final,
      heap.mapPages space.pml4Phys left (heapPage data.length) mappedPages memory =
        some (result, after, final) ∧
      ((result = .ok () ∧
          after = {heap with
            mappedPages := mappedPages + BitVec.ofNat 64 left, initialized := true} ∧
          ∃ more : List Frame, more.length = left ∧
            HeapPages roots start space 0 (data ++ more) final) ∨
        ∃ message, result = .error message ∧
          after = {heap with mappedPages := 0#64, initialized := false} ∧
          Undone roots start space data left memory final) := by
  induction left generalizing data memory mappedPages with
  | zero =>
      refine ⟨_, _, memory, rfl, Or.inl ⟨rfl, ?_, [], rfl, ?_⟩⟩
      · rw [BitVec.add_zero]
      · rwa [List.append_nil]
  | succ left ih =>
      have hless : data.length < 4096 := by omega
      rcases hheap.iterate hless with ⟨hempty, halloc⟩ |
        ⟨frame, result, next, hfree, halloc, hexec, hgrew, hcard, hok | hfail⟩
      · obtain ⟨final, hundo, hundone⟩ := hheap.undone_exhausted hempty halloc left
        rw [← hmapped, ← hstart] at hundo
        exact ⟨_, _, final, KernelHeap.mapPages_exhausted heap halloc hundo left,
          Or.inr ⟨_, rfl, rfl, hundone⟩⟩
      · obtain ⟨rfl, hunmapped, hfits, hnext⟩ := hok
        have hcount : checkedAdd mappedPages 1#64 = some (mappedPages + 1#64) :=
          checkedAdd_eq_some (by rw [hmapped]; simp; omega)
        have hlength : (data ++ [frame]).length = data.length + 1 := by simp
        have hmappedNext : (mappedPages + 1#64).toNat = (data ++ [frame]).length := by
          rw [checkedAdd_toNat hcount, hmapped, hlength]
          rfl
        obtain ⟨result, after, final, hrun, houtcome⟩ :=
          ih hnext (mappedPages + 1#64) hmappedNext (by omega)
        rw [hlength] at hrun
        refine ⟨result, after, final, ?_, ?_⟩
        · rw [KernelHeap.mapPages_succ heap halloc hexec hcount (heapPage_succ hless), hrun]
        rcases houtcome with ⟨rfl, rfl, more, rfl, hpages⟩ | ⟨message, rfl, hafter, hundone⟩
        · refine Or.inl ⟨rfl, ?_, frame :: more, rfl, ?_⟩
          · rw [BitVec.add_assoc, show 1#64 + BitVec.ofNat 64 more.length =
              BitVec.ofNat 64 (more.length + 1) by rw [Nat.add_comm, BitVec.ofNat_add]]
          · rwa [List.append_assoc] at hpages
        · exact Or.inr ⟨message, rfl, hafter, hheap.undone_later hless hfree halloc hexec hgrew
            hcard hunmapped hfits hundone⟩
      · obtain ⟨message, rfl, hcause, hback, hgiven⟩ := hfail
        obtain ⟨final, hundo, hundone⟩ :=
          hheap.undone_refused hfree halloc hexec hgrew hcard hcause hback hgiven left
        rw [← hmapped, ← hstart] at hundo
        exact ⟨_, _, final, KernelHeap.mapPages_refused heap halloc hexec hundo left,
          Or.inr ⟨message, rfl, rfl, hundone⟩⟩

end HeapPages

theorem not_created_self {roots : Set U64} {start : PhysicalMemory} (hstart : start.Safe roots) :
    ¬ Created roots start start := by
  rintro ⟨frame, hframe, hnode⟩
  exact free_not_node hstart.toSound hframe hnode

section Call

variable {roots : Set U64} {start final : PhysicalMemory} {space : AddressSpace}

/-- A whole call on a new heap. -/
theorem initializeHeap_outcome (hstart : start.Safe roots) (hroot : space.pml4Phys ∈ roots)
    (pages : U64) :
    ∃ result heap final,
      KernelHeap.new.initializeHeap space.pml4Phys start pages = some (result, heap, final) ∧
      ((result = .ok () ∧ KernelHeap.new.Accepts pages ∧
          heap = {KernelHeap.new with mappedPages := pages, initialized := true} ∧
          ∃ data : List Frame, data.length = pages.toNat ∧
            HeapPages roots start space 0 data final) ∨
        ∃ message, result = .error message ∧ heap = KernelHeap.new ∧
          HeapPages roots start space 0 [] final ∧
          (∀ address ∈ KernelHeap.new.framesTaken space.pml4Phys start pages,
            ∃ frame ∈ final.allocator.freeSet, address = frameAddress frame) ∧
          (Created roots start final ↔ KernelHeap.new.Accepts pages ∧
            MakesTable start space 0 pages.toNat start.allocator.freeSet.card)) := by
  have hopened : HeapPages roots start space 0 [] start := .opened hstart hroot (Nat.zero_le _)
  have hnone := not_created_self hstart
  by_cases haccepts : KernelHeap.new.Accepts pages
  · have hfirst : heapPage ([] : List Frame).length = KernelHeap.new.start := by decide
    have hbound := ((KernelHeap.new_accepts_iff pages).mp haccepts).2
    obtain ⟨result, heap, final, hrun, houtcome⟩ := hopened.mapPages KernelHeap.new rfl pages.toNat
      0#64 rfl (by rw [List.length_nil]; omega)
    rw [hfirst] at hrun
    refine ⟨result, heap, final, ?_, ?_⟩
    · rw [KernelHeap.initializeHeap_accepted haccepts, hrun]
    rcases houtcome with ⟨rfl, rfl, data, hlength, hpages⟩ | ⟨message, rfl, rfl, hundone⟩
    · refine Or.inl ⟨rfl, haccepts, ?_, data, hlength, hpages⟩
      rw [BitVec.zero_add, BitVec.ofNat_toNat, BitVec.setWidth_eq]
    · refine Or.inr ⟨message, rfl, rfl, hundone.pages, ?_, ?_⟩
      · rw [KernelHeap.framesTaken, if_pos haccepts, ← hfirst]
        exact hundone.later
      · rw [hundone.created hnone, List.length_nil]
        exact (and_iff_right haccepts).symm
  · obtain ⟨message, hrun⟩ := KernelHeap.initializeHeap_rejected haccepts space.pml4Phys start
    refine ⟨_, _, start, hrun, Or.inr ⟨message, rfl, rfl, hopened, ?_, ?_⟩⟩
    · rw [KernelHeap.framesTaken, if_neg haccepts]
      exact fun address haddress => absurd haddress List.not_mem_nil
    · exact iff_of_false hnone fun hboth => haccepts hboth.1

/-- A mapped heap page leads to its frame. -/
theorem HeapPages.translate_page {data : List Frame}
    (hheap : HeapPages roots start space 0 data final) {index : Nat} {frame : Frame}
    (hframe : data[index]? = some frame) :
    translate final.tables space.pml4Phys (heapPage index) = some (some (frameAddress frame)) := by
  have hindex : index < data.length := (List.getElem?_eq_some_iff.mp hframe).1
  have hroom := hheap.room
  have haddressable := addressable_frameAddress frame
  have hargs := mappable_heapPage (show index < 4096 by omega) haddressable
  have hpage : pageOf (heapPage index) = heapPage index := by
    rw [pageOf, hargs.aligned, BitVec.sub_zero]
  have hleaf : leaf final.tables space (pageOf (heapPage index)) =
      some (makeEntry (frameAddress frame) true false) := by
    rw [hpage, ← hheap.mapped index frame hframe, Nat.zero_add]
  rw [translate_mapped hheap.account.safe hheap.root hargs.canonical haddressable hleaf,
    hargs.aligned, BitVec.add_zero]

/-- An address outside the mapped heap pages goes where it went. -/
theorem HeapPages.translate_outside {data : List Frame}
    (hheap : HeapPages roots start space 0 data final) {other : AddressSpace}
    (hother : other.pml4Phys ∈ roots) {address : U64}
    (houtside : ¬ (other = space ∧ heapStart.toNat ≤ address.toNat ∧
      address.toNat < heapStart.toNat + 4096 * data.length)) :
    translate final.tables other.pml4Phys address =
      translate start.tables other.pml4Phys address := by
  apply translate_congr hheap.account.origin.toSound hheap.account.safe.toSound hother
    (clear_of_safe hheap.account.origin hother _) (clear_of_safe hheap.account.safe hother _)
  intro hcanonical
  apply hheap.others other hother _ (pageOf_canonical hcanonical) (pageOf_aligned address)
  intro hspace index hindex hsame
  have hroom := hheap.room
  have hnat := congrArg BitVec.toNat hsame
  rw [pageOf_toNat, heapPage_toNat (by omega)] at hnat
  have hheapStart : heapStart.toNat = 0x40000000 := rfl
  exact houtside ⟨hspace, by omega, by omega⟩

end Call

namespace KernelHeap

/-- `initialize` on a new heap maps all pages to frames of their own or changes
no translation at all, and it succeeds at most once. -/
theorem initializeHeap_all_or_nothing (system : SpaceSystem) (hsystem : system.Constructed)
    (space : AddressSpace) (hspace : space ∈ system.spaces) (pages : U64) :
    ∃ result heap final,
      new.initializeHeap space.pml4Phys system.memory pages = some (result, heap, final) ∧
      (result = .ok () →
        1 ≤ pages.toNat ∧ pages.toNat ≤ 4096 ∧ heap.mappedPages = pages ∧
        (∃ data : List Frame, data.length = pages.toNat ∧ data.Nodup ∧
          (∀ index frame, data[index]? = some frame →
            translate final.tables space.pml4Phys (heapStart + BitVec.ofNat 64 (4096 * index)) =
              some (some (frameAddress frame))) ∧
          ∀ frame ∈ data, frame ∈ system.memory.allocator.freeSet ∧
            frame ∈ final.allocator.allocSet ∧
            ¬ Node entryTarget 3 system.roots final.tables (frameAddress frame)) ∧
        (∀ other ∈ system.spaces, ∀ address : U64,
          ¬ (other = space ∧ heapStart.toNat ≤ address.toNat ∧
            address.toNat < heapStart.toNat + 4096 * pages.toNat) →
          translate final.tables other.pml4Phys address =
            translate system.memory.tables other.pml4Phys address) ∧
        ∀ pml4 memory count, ∃ message,
          heap.initializeHeap pml4 memory count = some (.error message, heap, memory)) ∧
      ∀ message, result = .error message →
        (∀ other ∈ system.spaces, ∀ address,
          translate final.tables other.pml4Phys address =
            translate system.memory.tables other.pml4Phys address) ∧
        heap.initialized = false ∧ heap.mappedPages = 0#64 ∧
        ∀ address ∈ new.framesTaken space.pml4Phys system.memory pages,
          ∃ frame, address = frameAddress frame ∧ frame ∈ final.allocator.freeSet ∧
            frame ∉ final.allocator.allocSet := by
  obtain ⟨history, hfollows⟩ := hsystem.follows
  obtain ⟨result, heap, final, hrun, houtcome⟩ :=
    initializeHeap_outcome hfollows.safe (pml4Phys_mem_roots hspace) pages
  refine ⟨result, heap, final, hrun, ?_, ?_⟩
  · rintro rfl
    obtain ⟨_, haccepts, rfl, data, hlength, hpages⟩ | ⟨message, hfail, _⟩ := houtcome
    swap
    · cases hfail
    obtain ⟨hpositive, hbound⟩ := (new_accepts_iff pages).mp haccepts
    refine ⟨hpositive, hbound, rfl, ⟨data, hlength, hpages.nodup, ?_, ?_⟩, ?_, ?_⟩
    · intro index frame hframe
      exact hpages.translate_page hframe
    · intro frame hframe
      have hdata := List.mem_toFinset.mpr hframe
      exact ⟨(Finset.mem_sdiff.mp (hpages.account.held hdata)).1,
        hpages.account.mem_allocSet hdata, hpages.account.not_node hdata⟩
    · intro other hother address houtside
      rw [← hlength] at houtside
      exact hpages.translate_outside (pml4Phys_mem_roots hother) houtside
    · intro pml4 memory count
      apply initializeHeap_rejected
      intro hagain
      exact absurd hagain.uninitialized (by simp)
  · rintro message rfl
    obtain ⟨hok, _⟩ | ⟨_, _, rfl, hpages, hgiven, _⟩ := houtcome
    · cases hok
    refine ⟨fun other hother address => ?_, rfl, rfl, fun address haddress => ?_⟩
    · apply hpages.translate_outside (pml4Phys_mem_roots hother)
      rintro ⟨_, hlow, hhigh⟩
      exact absurd hhigh (Nat.not_lt.mpr hlow)
    · obtain ⟨frame, hfree, heq⟩ := hgiven address haddress
      exact ⟨frame, heq, hfree,
        Finset.disjoint_left.mp hpages.account.safe.consistent.disjoint hfree⟩

/-- Four pages in a space with a zeroed PML4. -/
theorem initializeHeap_all_or_nothing_four_pages :
    ∃ allocator result heap final,
      initializeAllocator [⟨0x100000#64, 0x200000#64, 1#32, 1#32⟩] 0x100000#64 0x200000#64 =
        some allocator ∧
      new.initializeHeap 0x9000#64 ⟨allocator, fun _ _ => 0#64⟩ 4#64 = some (result, heap, final) ∧
      (result = .ok () → heap.mappedPages = 4#64) ∧
      ∀ message, result = .error message → heap.initialized = false := by
  obtain ⟨allocator, hinit, hfree⟩ := initializeAllocator_above_kernel
  have hsystem := constructed_zeroed (initializeAllocator_booting hinit)
    (fun frame hframe => le_trans (by decide) ((hfree frame).mp hframe).1)
  obtain ⟨result, heap, final, hrun, hok, hfail⟩ := initializeHeap_all_or_nothing _ hsystem
    ⟨0x9000#64⟩ (List.mem_singleton_self _) 4#64
  exact ⟨allocator, result, heap, final, hinit, hrun, fun h => (hok h).2.2.1,
    fun message h => (hfail message h).2.1⟩

/-- A failed call gives every frame back exactly if it made no page table. -/
theorem failed_heap_returns_frames_iff (system : SpaceSystem) (hsystem : system.Constructed)
    (space : AddressSpace) (hspace : space ∈ system.spaces) (pages : U64) (message : String)
    (heap : KernelHeap) (final : PhysicalMemory)
    (hfail : new.initializeHeap space.pml4Phys system.memory pages =
      some (.error message, heap, final)) :
    (final.allocator.freeSet = system.memory.allocator.freeSet ∧
      final.allocator.freeFrames = system.memory.allocator.freeFrames) ↔
      ¬ (new.Accepts pages ∧
        MakesTable system.memory space 0 pages.toNat system.memory.allocator.freeSet.card) := by
  obtain ⟨history, hfollows⟩ := hsystem.follows
  obtain ⟨result, heap', final', hrun, houtcome⟩ :=
    initializeHeap_outcome hfollows.safe (pml4Phys_mem_roots hspace) pages
  rw [hfail] at hrun
  cases hrun
  obtain ⟨hok, _⟩ | ⟨_, _, _, hpages, _, hcreated⟩ := houtcome
  · cases hok
  rw [← hcreated]
  exact hpages.account.unchanged_iff

/-- With no free frame the call fails before it makes anything. -/
theorem failed_heap_returns_frames_exhausted :
    ∃ message heap final,
      new.initializeHeap 0x9000#64 ⟨reserved, fun _ _ => 0#64⟩ 1#64 =
        some (.error message, heap, final) ∧
      final.allocator.freeSet = reserved.freeSet ∧
      final.allocator.freeFrames = reserved.freeFrames := by
  obtain ⟨hbooting, hempty⟩ := reserved_booting
  have hsystem : Constructed ⟨⟨reserved, fun _ _ => 0#64⟩, [⟨0x9000#64⟩]⟩ := by
    apply constructed_zeroed hbooting
    intro frame hframe
    rw [hempty] at hframe
    exact absurd hframe (Finset.notMem_empty frame)
  have hrun : new.initializeHeap 0x9000#64 ⟨reserved, fun _ _ => 0#64⟩ 1#64 =
      some (.error "out of physical memory for kernel heap", new,
        ⟨reserved, fun _ _ => 0#64⟩) := by
    rw [initializeHeap_accepted ((new_accepts_iff _).mpr ⟨by decide, by decide⟩)]
    apply mapPages_exhausted
    · exact allocateFrame_empty hbooting.consistent hempty
    · rfl
  refine ⟨_, _, _, hrun, (failed_heap_returns_frames_iff _ hsystem ⟨0x9000#64⟩
    (List.mem_singleton_self _) 1#64 _ _ _ hrun).mpr ?_⟩
  rintro ⟨_, page, _, hframes, _⟩
  have hnone : reserved.freeSet.card = 0 := by rw [hempty, Finset.card_empty]
  have hfew : page + 2 ≤ reserved.freeSet.card := hframes
  omega

/-- Two free frames and a zeroed PML4. The first is taken for the data of the
first page, the second for its PDPT; then no frame is left for the page
directory. The data frame comes back, the PDPT stays. -/
theorem failed_heap_keeps_table :
    ∃ allocator message heap final,
      initializeAllocator [⟨0x200000#64, 0x2000#64, 1#32, 1#32⟩] 0x100000#64 0x200000#64 =
        some allocator ∧
      new.initializeHeap 0x9000#64 ⟨allocator, fun _ _ => 0#64⟩ 1#64 =
        some (.error message, heap, final) ∧
      ¬ (final.allocator.freeSet = allocator.freeSet ∧
        final.allocator.freeFrames = allocator.freeFrames) := by
  obtain ⟨allocator, hinit, hfree⟩ := initializeAllocator_spec
    [⟨0x200000#64, 0x2000#64, 1#32, 1#32⟩] (by decide)
    (show (0x100000#64 : U64) < 0x200000#64 by decide) (by decide)
  have hframes : maxFrames = 1048576 := maxFrames_eq
  have hset : allocator.freeSet =
      Finset.Ico (⟨512, by omega⟩ : Frame) ⟨514, by omega⟩ := by
    ext frame
    rw [hfree, UsableAfterBoot, pageMeets_iff (by decide), Finset.mem_Ico, Fin.le_def, Fin.lt_def]
    simp only [MemoryMapEntry.Covers, List.mem_singleton, exists_eq_left, BitVec.toNat_ofNat,
      true_and]
    omega
  have htwo : allocator.freeSet.card = 2 := by
    simp [hset]
  have hsystem := constructed_zeroed (initializeAllocator_booting hinit)
    (fun frame hframe => ((hfree frame).mp hframe).2.1)
  obtain ⟨history, hfollows⟩ := hsystem.follows
  let start : PhysicalMemory := ⟨allocator, fun _ _ => 0#64⟩
  let space : AddressSpace := ⟨0x9000#64⟩
  have hroot : space.pml4Phys ∈ SpaceSystem.roots ⟨start, [space]⟩ :=
    pml4Phys_mem_roots (List.mem_singleton_self _)
  have hopened : HeapPages (SpaceSystem.roots ⟨start, [space]⟩) start space 0 [] start :=
    .opened hfollows.safe hroot (Nat.zero_le _)
  have hmissing : missing entryTarget start.tables space.pml4Phys (pagePath (heapPage 0)) = 3 :=
    missing_blank (fun _ => rfl) _
  have hcard : start.allocator.freeSet.card = 2 := htwo
  rcases hopened.iterate (by decide) with ⟨hempty, _⟩ |
    ⟨frame, result, next, hmem, halloc, hexec, hgrew, hleft, ⟨_, _, hfits, _⟩ |
      ⟨message, rfl, hcause, hback, hgiven⟩⟩
  · rw [hempty, Finset.card_empty] at hcard
    omega
  · rw [List.length_nil, hmissing] at hfits
    omega
  obtain ⟨final, hundo, hundone⟩ :=
    hopened.undone_refused hmem halloc hexec hgrew hleft hcause hback hgiven 0
  refine ⟨allocator, message, new, final, hinit, ?_, ?_⟩
  · rw [initializeHeap_accepted ((new_accepts_iff _).mpr ⟨by decide, by decide⟩)]
    have hback : rollbackPages space.pml4Phys (0#64 : U64).toNat new.start
        ⟨next.allocator.freeFrame (frameAddress frame), next.tables⟩ = some final := hundo
    exact mapPages_refused new halloc hexec hback 0
  · intro hsame
    refine hundone.pages.account.unchanged_iff.mp hsame
      ((hundone.created (not_created_self hfollows.safe)).mpr ⟨0, Nat.one_pos, hcard.ge, ?_, ?_⟩)
    · intro htable
      have hzero := (missing_eq_zero_iff entryTarget).mpr htable
      rw [List.length_nil, Nat.add_zero, hmissing] at hzero
      omega
    · exact fun earlier hless => absurd hless (Nat.not_lt_zero earlier)

end KernelHeap

end UnboundOS.Memory
