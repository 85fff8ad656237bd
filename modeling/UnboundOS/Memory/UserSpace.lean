import UnboundOS.Memory.UserEntry

/-!
The address space the kernel runs in after the boot, page by page: the identity
map, the user code page, the user stack and the heap, and nothing else. From it
follows what ring 3 can reach: five pages, all inside the kernel image, none of
them a page table, heap memory or a frame that is still to be handed out.
-/

namespace UnboundOS.Memory

open PageTable FrameAllocator RadixForest
open Fallible (exec exec_bind_ok exec_bind_success exec_checked_cases exec_pure)

namespace Boot

/-- The tree of a space shows these pages and nothing else; its tables and the
frames still free are among `frames`, and what is no table is as in `start`. -/
structure Shows (frames : Set Frame) (start : U64 → PageTable) (memory : PhysicalMemory)
    (space : AddressSpace) (pages : U64 → Option Mapping) : Prop where
  maps : Maps {space.pml4Phys} memory space pages
  free : ∀ frame ∈ memory.allocator.freeSet, frame ∈ frames
  tables : ∀ table, Node entryTarget 3 {space.pml4Phys} memory.tables table →
    ∃ frame ∈ frames, table = frameAddress frame
  outside : ∀ table, ¬ Node entryTarget 3 {space.pml4Phys} memory.tables table →
    memory.tables table = start table

namespace Shows

variable {frames : Set Frame} {start : U64 → PageTable} {memory next : PhysicalMemory}
  {space : AddressSpace} {pages : U64 → Option Mapping} {virtualAddress physicalAddress : U64}

/-- Taking frames for tables keeps what is known about frames. -/
theorem grow (hshows : Shows frames start memory space pages)
    (hgrew : Grew {space.pml4Phys} memory next) {after : U64 → Option Mapping}
    (hmaps : Maps {space.pml4Phys} next space after) : Shows frames start next space after where
  maps := hmaps
  free := fun frame hframe => hshows.free frame (hgrew.free hframe)
  tables := by
    intro table hnode
    rcases hgrew.nodes table hnode with hold | ⟨frame, hframe, htable⟩
    · exact hshows.tables table hold
    · exact ⟨frame, hshows.free frame (Finset.mem_sdiff.mp hframe).1, htable⟩
  outside := by
    intro table hnot
    rw [hgrew.outside table hnot, hshows.outside table fun hnode => hnot (hgrew.node hnode)]

theorem map (hshows : Shows frames start memory space pages) {writable user : Bool}
    (hexec : exec (PageTable.map space.pml4Phys virtualAddress physicalAddress writable user)
      memory = some (.ok (), next)) :
    Shows frames start next space
      (Function.update pages virtualAddress (some ⟨physicalAddress, writable, user⟩)) := by
  obtain ⟨hgrew, hargs, hleaf⟩ := map_ok_spec hshows.maps.safe.toSound rfl hexec
  refine hshows.grow hgrew (hshows.maps.record (hgrew.safe hshows.maps.safe) hargs.canonical
    hargs.aligned (some ⟨physicalAddress, writable, user⟩) ?_ hleaf)
  rintro target ⟨⟩
  exact hargs.addressable

theorem unmap (hshows : Shows frames start memory space pages) {result : U64}
    (hexec : exec (PageTable.unmap space.pml4Phys virtualAddress) memory =
      some (.ok result, next)) :
    Shows frames start next space (Function.update pages virtualAddress none) := by
  rcases unmap_spec hshows.maps.safe rfl virtualAddress with
    ⟨_, hfail, _⟩ | ⟨_, _, hunmap, _, hsafe, hcanonical, haligned, hleaf, _, _, hgrew⟩
  · rw [hexec] at hfail
    cases hfail
  · rw [hexec] at hunmap
    cases hunmap
    exact hshows.grow hgrew
      (hshows.maps.record hsafe hcanonical haligned none (by simp) hleaf)

/-- The test mapping leaves no page behind. -/
theorem testMapping (hshows : Shows frames start memory space pages)
    (hnone : pages 0x00400000#64 = none)
    (hexec : exec (Boot.testMapping space.pml4Phys) memory = some (.ok (), next)) :
    Shows frames start next space pages := by
  obtain ⟨_, mapped, hmap, hrest₁⟩ := exec_bind_success hexec
  obtain ⟨_, checked, hcheck, hrest₂⟩ := exec_bind_success hrest₁
  obtain ⟨rfl, _⟩ := checkTranslation_passed hcheck
  obtain ⟨physicalAddress, unmapped, hunmap, hrest⟩ := exec_bind_success hrest₂
  have hback := (hshows.map hmap).unmap hunmap
  rw [Function.update_idem, ← hnone, Function.update_eq_self] at hback
  split at hrest
  · obtain ⟨rfl, _⟩ := checkTranslation_passed hrest
    exact hback
  · cases hrest

theorem mapUserCode (hshows : Shows frames start memory space pages) {userCodePhysical : U64}
    (hexec : exec (Boot.mapUserCode space.pml4Phys userCodePhysical) memory =
      some (.ok (), next)) :
    Shows frames start next space (Function.update pages userCodeVaddr
      (some ⟨userCodePhysical &&& ~~~(pageSize - 1#64), true, true⟩)) :=
  hshows.map (mapUserCode_entry hexec).1

end Shows

/-- The pages after the stack loop, with the number of pages left. -/
def stackPages (userStackPhysical : U64) :
    Nat → U64 → (U64 → Option Mapping) → U64 → Option Mapping
  | 0, _, pages => pages
  | left + 1, page, pages =>
      stackPages userStackPhysical left (page + 1#64)
        (Function.update pages (userStackVaddr + page * pageSize)
          (some ⟨userStackPhysical + page * pageSize, true, true⟩))

theorem checkedAdd_sum {a b c : U64} (hsum : checkedAdd a b = some c) : c = a + b := by
  unfold checkedAdd at hsum
  split at hsum
  · exact (Option.some.inj hsum).symm
  · cases hsum

theorem Shows.mapUserStackPages {frames : Set Frame} {start : U64 → PageTable}
    {memory next : PhysicalMemory}
    {space : AddressSpace} {pages : U64 → Option Mapping} {userStackPhysical : U64} {left : Nat}
    {page : U64} (hshows : Shows frames start memory space pages)
    (hexec : exec (Boot.mapUserStackPages space.pml4Phys userStackPhysical left page) memory =
      some (.ok (), next)) :
    Shows frames start next space (stackPages userStackPhysical left page pages) := by
  induction left generalizing memory page pages with
  | zero =>
      cases hexec
      exact hshows
  | succ left ih =>
      obtain ⟨physicalAddress, _, hphysical, hrest₁⟩ := exec_bind_success hexec
      obtain ⟨_, hvalue, hsum, rfl⟩ := exec_checked_cases hphysical
      cases hvalue
      obtain ⟨virtualAddress, _, hvirtual, hrest₂⟩ := exec_bind_success hrest₁
      obtain ⟨_, hvalue, hsum', rfl⟩ := exec_checked_cases hvirtual
      cases hvalue
      obtain ⟨_, mapped, hmap, hrest⟩ := exec_bind_success hrest₂
      obtain rfl := checkedAdd_sum hsum
      obtain rfl := checkedAdd_sum hsum'
      exact ih (hshows.map hmap) hrest

theorem Shows.mapUserStack {frames : Set Frame} {start : U64 → PageTable}
    {memory next : PhysicalMemory}
    {space : AddressSpace} {pages : U64 → Option Mapping} {userStackPhysical : U64}
    (hshows : Shows frames start memory space pages)
    (hexec : exec (Boot.mapUserStack space.pml4Phys userStackPhysical) memory =
      some (.ok (), next)) :
    Shows frames start next space (stackPages userStackPhysical 4 0#64 pages) := by
  obtain ⟨_, stacked, hpages, hcheck⟩ := exec_bind_success hexec
  obtain ⟨rfl, _⟩ := checkTranslation_passed hcheck
  exact hshows.mapUserStackPages hpages

/-- Every page of the kernel's address space after the boot. -/
def bootPages (userCodePhysical userStackPhysical : U64) (heap : List Frame) (page : U64) :
    Option Mapping :=
  if page % pageSize ≠ 0#64 then none
  else if page < 0x00200000#64 then some ⟨page, true, false⟩
  else if page = userCodeVaddr then
    some ⟨userCodePhysical &&& ~~~(pageSize - 1#64), true, true⟩
  else if userStackVaddr ≤ page ∧ page < userStackTop then
    some ⟨userStackPhysical + (page - userStackVaddr), true, true⟩
  else if heapStart ≤ page then
    heap[(page.toNat - heapStart.toNat) / 4096]?.map fun frame => ⟨frameAddress frame, true, false⟩
  else none

/-- A stack address at a page boundary is one of four. -/
theorem stack_page_cases {page : U64} (haligned : page % pageSize = 0#64)
    (hlow : userStackVaddr ≤ page) (hhigh : page < userStackTop) :
    page = 0x800000#64 ∨ page = 0x801000#64 ∨ page = 0x802000#64 ∨ page = 0x803000#64 := by
  have hmod : page.toNat % 4096 = 0 := congrArg BitVec.toNat haligned
  have hstart : 0x800000 ≤ page.toNat := hlow
  have hfinish : page.toNat < 0x804000 := hhigh
  have hcases : page.toNat = 0x800000 ∨ page.toNat = 0x801000 ∨ page.toNat = 0x802000 ∨
      page.toNat = 0x803000 := by omega
  rcases hcases with h | h | h | h
  · exact .inl (BitVec.eq_of_toNat_eq h)
  · exact .inr (.inl (BitVec.eq_of_toNat_eq h))
  · exact .inr (.inr (.inl (BitVec.eq_of_toNat_eq h)))
  · exact .inr (.inr (.inr (BitVec.eq_of_toNat_eq h)))

/-- Up to the heap. -/
theorem stackPages_eq (userCodePhysical userStackPhysical : U64) :
    stackPages userStackPhysical 4 0#64
        (Function.update (identityPages 0x00200000#64) userCodeVaddr
          (some ⟨userCodePhysical &&& ~~~(pageSize - 1#64), true, true⟩)) =
      bootPages userCodePhysical userStackPhysical [] := by
  funext page
  have hpages : stackPages userStackPhysical 4 0#64
      (Function.update (identityPages 0x00200000#64) userCodeVaddr
        (some ⟨userCodePhysical &&& ~~~(pageSize - 1#64), true, true⟩)) page =
      if page = 0x803000#64 then some ⟨userStackPhysical + 0x3000#64, true, true⟩
      else if page = 0x802000#64 then some ⟨userStackPhysical + 0x2000#64, true, true⟩
      else if page = 0x801000#64 then some ⟨userStackPhysical + 0x1000#64, true, true⟩
      else if page = 0x800000#64 then some ⟨userStackPhysical + 0x0#64, true, true⟩
      else if page = userCodeVaddr then
        some ⟨userCodePhysical &&& ~~~(pageSize - 1#64), true, true⟩
      else identityPages 0x00200000#64 page := by
    simp only [stackPages, Function.update_apply]
    rfl
  rw [hpages, bootPages]
  by_cases haligned : page % pageSize = 0#64
  · rw [if_neg (not_not.mpr haligned)]
    by_cases hstack : userStackVaddr ≤ page ∧ page < userStackTop
    · rcases stack_page_cases haligned hstack.1 hstack.2 with rfl | rfl | rfl | rfl <;>
        simp [userCodeVaddr, userStackVaddr, userStackTop, userStackSize]
    · have hother {address : U64} (haddress : userStackVaddr ≤ address ∧ address < userStackTop) :
          page ≠ address := fun hsame => hstack (hsame ▸ haddress)
      rw [if_neg (hother (by decide)), if_neg (hother (by decide)), if_neg (hother (by decide)),
        if_neg (hother (by decide)), if_neg hstack]
      by_cases hcode : page = userCodeVaddr
      · rw [if_pos hcode, if_neg (by rw [hcode]; decide), if_pos hcode]
      · rw [if_neg hcode, if_neg hcode, identityPages]
        by_cases hlow : page < 0x00200000#64
        · rw [if_pos ⟨hlow, haligned⟩, if_pos hlow]
        · rw [if_neg (fun h => hlow h.1), if_neg hlow]
          simp
  · have hother {address : U64} (haddress : address % pageSize = 0#64) : page ≠ address :=
      fun hsame => haligned (hsame ▸ haddress)
    rw [if_pos haligned, if_neg (hother (by decide)), if_neg (hother (by decide)),
      if_neg (hother (by decide)), if_neg (hother (by decide)), if_neg (hother (by decide)),
      identityPages, if_neg (fun h => haligned h.2)]

/-- The heap pages. -/
theorem bootPages_heapPage (userCodePhysical userStackPhysical : U64) {heap : List Frame}
    {index : Nat} {frame : Frame} (hroom : heap.length ≤ 4096)
    (hframe : heap[index]? = some frame) :
    bootPages userCodePhysical userStackPhysical heap (heapPage index) =
      some ⟨frameAddress frame, true, false⟩ := by
  have hindex : index < heap.length := (List.getElem?_eq_some_iff.mp hframe).1
  have hnat := heapPage_toNat (show index ≤ 4096 by omega)
  have hargs := mappable_heapPage (show index < 4096 by omega) (addressable_frameAddress frame)
  have hstart : heapStart.toNat = 0x40000000 := rfl
  have hlow : ¬ heapPage index < 0x00200000#64 := by
    change ¬ (heapPage index).toNat < 0x200000
    omega
  have hcode : heapPage index ≠ userCodeVaddr := by
    intro hsame
    have hvalue : (heapPage index).toNat = 0x400000 := congrArg BitVec.toNat hsame
    omega
  have hstack : ¬ (userStackVaddr ≤ heapPage index ∧ heapPage index < userStackTop) := by
    rintro ⟨_, hbelow⟩
    have hvalue : (heapPage index).toNat < 0x804000 := hbelow
    omega
  have hheap : heapStart ≤ heapPage index := by
    change heapStart.toNat ≤ (heapPage index).toNat
    omega
  have hdiv : ((heapPage index).toNat - heapStart.toNat) / 4096 = index := by omega
  rw [bootPages, if_neg (not_not.mpr hargs.aligned), if_neg hlow, if_neg hcode, if_neg hstack,
    if_pos hheap, hdiv, hframe]
  rfl

/-- The other pages are as before the heap. -/
theorem bootPages_outside {userCodePhysical userStackPhysical page : U64} {heap : List Frame}
    (hroom : heap.length ≤ 4096) (houtside : ∀ index < heap.length, page ≠ heapPage index) :
    bootPages userCodePhysical userStackPhysical heap page =
      bootPages userCodePhysical userStackPhysical [] page := by
  unfold bootPages
  split
  · rfl
  · rename_i haligned
    have hmod : page.toNat % 4096 = 0 := congrArg BitVec.toNat (not_not.mp haligned)
    have hstart : heapStart.toNat = 0x40000000 := rfl
    refine if_congr Iff.rfl rfl (if_congr Iff.rfl rfl (if_congr Iff.rfl rfl ?_))
    split
    · rename_i hheap
      have hle : heapStart.toNat ≤ page.toNat := hheap
      rw [List.getElem?_eq_none, List.getElem?_nil]
      by_contra hinside
      have hindex : (page.toNat - heapStart.toNat) / 4096 < heap.length := by omega
      apply houtside _ hindex
      apply BitVec.eq_of_toNat_eq
      rw [heapPage_toNat (by omega)]
      omega
    · rfl

theorem Shows.heap {frames : Set Frame} {start : U64 → PageTable} {booted final : PhysicalMemory}
    {space : AddressSpace} {userCodePhysical userStackPhysical : U64} {data : List Frame}
    (hshows : Shows frames start booted space (bootPages userCodePhysical userStackPhysical []))
    (hheap : HeapPages {space.pml4Phys} booted space 0 data final) :
    Shows frames start final space (bootPages userCodePhysical userStackPhysical data) := by
  have hroom : data.length ≤ 4096 := by
    have hroom := hheap.room
    omega
  -- A page is a heap page or as it was.
  have hcases : ∀ page : U64, (∃ index frame, page = heapPage index ∧ data[index]? = some frame) ∨
      ∀ index < data.length, page ≠ heapPage index := by
    intro page
    by_cases hinside : ∃ index < data.length, page = heapPage index
    · obtain ⟨index, hindex, hpage⟩ := hinside
      exact Or.inl ⟨index, data[index], hpage, List.getElem?_eq_getElem hindex⟩
    · push Not at hinside
      exact Or.inr hinside
  refine ⟨⟨hheap.account.safe, rfl, ?_, ?_⟩, ?_, ?_, ?_⟩
  · intro page hcanonical haligned
    rcases hcases page with ⟨index, frame, rfl, hframe⟩ | houtside
    · have hleaf := hheap.mapped index frame hframe
      rw [Nat.zero_add] at hleaf
      rw [hleaf, bootPages_heapPage _ _ hroom hframe]
      rfl
    · have hleaf := hheap.others space rfl page hcanonical haligned
        (fun _ index hindex => by rw [Nat.zero_add]; exact houtside index hindex)
      rw [hleaf, hshows.maps.leaves page hcanonical haligned, bootPages_outside hroom houtside]
  · intro page mapping hmapping
    rcases hcases page with ⟨index, frame, rfl, hframe⟩ | houtside
    · rw [bootPages_heapPage _ _ hroom hframe] at hmapping
      cases hmapping
      exact addressable_frameAddress frame
    · rw [bootPages_outside hroom houtside] at hmapping
      exact hshows.maps.addressable page mapping hmapping
  · intro frame hframe
    exact hshows.free frame (hheap.account.free hframe)
  · intro table hnode
    rcases hheap.account.nodes table hnode with hold | ⟨frame, hframe, _, htable⟩
    · exact hshows.tables table hold
    · exact ⟨frame, hshows.free frame (Finset.mem_sdiff.mp hframe).1, htable⟩
  · intro table hnot
    rw [hheap.account.outside table hnot]
    apply hshows.outside
    rintro ⟨root, hroot, path, hdepth, hwalk⟩
    exact hnot ⟨root, hroot, path, hdepth, hheap.account.walks root hroot path hdepth table hwalk⟩

section Boot

variable {queue : List Frame}

/-- A new space with its identity map. -/
theorem SpaceStage.shows {used limit : Nat} {low : Fin 512 → Option U64}
    {memory next : PhysicalMemory} {growth : Growth} {pages : U64 → Option Mapping}
    (hstage : SpaceStage queue used low limit next growth pages) (hused : used ≤ queue.length)
    (hgrew : Grew {nthFrame queue 6} memory next) :
    Shows {frame | frame ∈ queue} memory.tables next ⟨nthFrame queue 6⟩ pages where
  maps := hstage.built.maps
  free := by
    intro frame hframe
    have hmem := (hstage.built.grown.queued.free frame).mp hframe
    rw [hstage.frames] at hmem
    exact List.mem_of_mem_drop hmem
  tables := by
    rintro table ⟨_, rfl, path, hdepth, hwalk⟩
    rw [hstage.built.grown.tables path hdepth] at hwalk
    obtain ⟨n, hn, rfl⟩ := hstage.early path table hwalk
    exact ⟨queue[n], List.getElem_mem _, nthFrame_eq (by omega)⟩
  outside := hgrew.outside

/-- The address space the boot builds, up to the heap. -/
theorem bootSpace_shows {memory : PhysicalMemory} {userCodePhysical userStackPhysical : U64}
    (hqueue : memory.allocator.Queued queue) (hnone : memory.allocator.allocSet = ∅)
    (hlength : 12 ≤ queue.length) (hcode : userCodePhysical.toNat < 0x200000)
    (haligned : userStackPhysical.toNat % 4096 = 0)
    (hstack : userStackPhysical.toNat + 16384 ≤ 0x200000) :
    ∃ booted created,
      exec (bootSpace userCodePhysical userStackPhysical) memory =
        some (.ok ⟨nthFrame queue 6⟩, booted) ∧
      Spares queue 7 memory.tables created ∧
      Shows {frame | frame ∈ queue} created booted ⟨nthFrame queue 6⟩
        (bootPages userCodePhysical userStackPhysical []) := by
  obtain ⟨booted, growth, pages, hboot, _⟩ :=
    bootSpace_stage hqueue hnone hlength hcode haligned hstack
  have hqueue₀ : memory.allocator.Queued (queue[0] :: queue[1] :: queue[2] :: queue.drop 3) := by
    rw [← List.drop_eq_getElem_cons, ← List.drop_eq_getElem_cons, ← List.drop_eq_getElem_cons]
    exact hqueue
  obtain ⟨first, hfirst, hqueue₁, htables⟩ := frameAllocationTest_spec hqueue₀ hnone
  obtain ⟨second, hsecond, hqueue₂, htested⟩ := virtualMemoryTest_spec (by omega) hqueue₁
  obtain ⟨third, hthird, hbuilt, hcreated⟩ := new_spec (n := 6) hqueue₂ (by omega)
  obtain ⟨fourth, _, hfourth, hstage, hgrew⟩ := identityMap_stage (by omega) hbuilt
  have hshows := hstage.shows (by omega) hgrew
  have hroot := hbuilt.grown.safe.root rfl
  refine ⟨booted, third.tables, hboot, htables ▸ htested.trans hcreated (by omega), ?_⟩
  rw [bootSpace, exec_bind_ok hfirst, exec_bind_ok hsecond, exec_bind_ok hthird,
    exec_bind_ok hfourth, exec_bind_ok (exec_tableAt hroot _)] at hboot
  obtain ⟨_, fifth, htest, hrest₁⟩ := exec_bind_success hboot
  rw [exec_bind_ok (exec_tableAt hroot _)] at hrest₁
  obtain ⟨_, sixth, hcoded, hrest₂⟩ := exec_bind_success hrest₁
  obtain ⟨_, seventh, hstacked, hrest⟩ := exec_bind_success hrest₂
  cases hrest
  have hfinal := ((hshows.testMapping (if_neg (by decide)) htest).mapUserCode hcoded).mapUserStack
    hstacked
  rwa [stackPages_eq] at hfinal

/-- All page tables of a space lie in the first 2 MiB, and no memory above has
been written as a page table. -/
structure TablesLow (start : U64 → PageTable) (memory : PhysicalMemory) (space : AddressSpace) :
    Prop where
  nodes : ∀ table, Node entryTarget 3 {space.pml4Phys} memory.tables table →
    table.toNat < 0x200000
  above : ∀ table : U64, 0x200000 ≤ table.toNat → memory.tables table = start table

/-- With fifteen low frames at the front of the queue a heap of one page table
keeps to the first 2 MiB. -/
theorem tablesLow_of_stage {frames : Set Frame} {start created : U64 → PageTable}
    {memory : PhysicalMemory} {space : AddressSpace} {count : Nat} {growth : Growth}
    {pages shown : U64 → Option Mapping} (hstage : HeapStage queue space count memory growth pages)
    (hshows : Shows frames created memory space shown) (hspares : Spares queue 7 start created)
    (hcount : count ≤ 512) (hlength : 14 < queue.length)
    (hlow : 15 ≤ (queue.filter (fun frame => frame.val < 512)).length) :
    TablesLow start memory space := by
  have hlast : queue[14].val < 512 := (nth_lt_iff hstage.sorted hlength 512).mpr hlow
  have hfirst {n : Nat} (hn : n ≤ 14) : (nthFrame queue n).toNat < 0x200000 := by
    have hfourteen := nthFrame_toNat hlength
    rcases Nat.eq_or_lt_of_le hn with rfl | hless
    · omega
    · have := nthFrame_lt hstage.sorted hless hlength
      omega
  have hnodes : ∀ table, Node entryTarget 3 {space.pml4Phys} memory.tables table →
      table.toNat < 0x200000 := by
    intro table hnode
    obtain ⟨n, hn, rfl⟩ := hstage.node_early hcount hnode
    exact hfirst hn
  refine ⟨hnodes, fun table htable => ?_⟩
  rw [hshows.outside table fun hnode => absurd (hnodes table hnode) (by omega)]
  apply hspares
  rintro n hn rfl
  exact absurd (hfirst (show n ≤ 14 by omega)) (by omega)

/-- The boot with its heap, from a new allocator. -/
theorem boot_shows {memoryMap : List MemoryMapEntry}
    {kernelStart kernelEnd userCodePhysical userStackPhysical pages : U64}
    {allocator : FrameAllocator} (tables : U64 → PageTable)
    (hinit : initializeAllocator memoryMap kernelStart kernelEnd = some allocator)
    (horder : kernelStart < kernelEnd) (hend : kernelEnd ≤ 0x200000#64)
    (huser : UserLinked kernelEnd userCodePhysical userStackPhysical)
    (hpositive : 1 ≤ pages.toNat) (hpages : pages.toNat ≤ 4096)
    (henough : framesUsed pages.toNat ≤
      Set.ncard {frame : Frame | UsableAfterBoot memoryMap kernelStart kernelEnd frame}) :
    ∃ space booted heap final data created,
      exec (bootSpace userCodePhysical userStackPhysical) ⟨allocator, tables⟩ =
        some (.ok space, booted) ∧
      KernelHeap.new.initializeHeap space.pml4Phys booted pages = some (.ok (), heap, final) ∧
      data.length = pages.toNat ∧ data.Nodup ∧
      (∀ frame ∈ data, UsableAfterBoot memoryMap kernelStart kernelEnd frame.val) ∧
      Shows {frame | UsableAfterBoot memoryMap kernelStart kernelEnd frame.val} created final space
        (bootPages userCodePhysical userStackPhysical data) ∧
      (pages.toNat ≤ 512 → 15 ≤ Set.ncard {frame : Frame |
          UsableAfterBoot memoryMap kernelStart kernelEnd frame ∧ frame.val < 512} →
        TablesLow tables final space) := by
  have hend' : kernelEnd.toNat ≤ 0x200000 := hend
  obtain ⟨other, hother, hfree⟩ := initializeAllocator_spec memoryMap
    (initializeAllocator_bases hinit) horder (by omega)
  obtain rfl : other = allocator := Option.some.inj (hother.symm.trans hinit)
  have hboot := initializeAllocator_booting hinit
  have hqueue := queued_sort hboot.consistent (initializeAllocator_nullReserved hinit)
  obtain ⟨hlow, hcode, haligned, hstack⟩ := user_below hend hfree huser
  have husable : {frame : Frame | UsableAfterBoot memoryMap kernelStart kernelEnd frame} =
      {frame | frame ∈ other.freeSet.sort (· ≤ ·)} := by
    ext frame
    simp only [Set.mem_ofPred_eq, Finset.mem_sort, hfree]
  have hbelow : {frame : Frame |
      UsableAfterBoot memoryMap kernelStart kernelEnd frame ∧ frame.val < 512} =
      {frame : Frame | frame ∈ other.freeSet.sort (· ≤ ·) ∧ frame.val < 512} := by
    ext frame
    simp only [Set.mem_ofPred_eq, Finset.mem_sort, hfree]
  have hset : {frame : Frame | UsableAfterBoot memoryMap kernelStart kernelEnd frame} =
      (other.freeSet : Set Frame) := by
    ext frame
    exact (hfree frame).symm
  rw [hset, Set.ncard_coe_finset, ← Finset.length_sort (· ≤ ·)] at henough
  have hused : framesUsed pages.toNat = 14 + pages.toNat + (pages.toNat - 1) / 512 :=
    if_neg (by omega)
  obtain ⟨space, booted, heap, final, hexec, hheap, ⟨_, _, hstage⟩, _⟩ := heap_reachable_iff
    (show (⟨other, tables⟩ : PhysicalMemory).allocator.Queued _ from hqueue) hboot.none_allocated
    hcode haligned hstack hpositive hpages henough
  obtain ⟨_, created, hagain, hspares, hshows⟩ := bootSpace_shows
    (show (⟨other, tables⟩ : PhysicalMemory).allocator.Queued _ from hqueue) hboot.none_allocated
    (by omega) hcode haligned hstack
  rw [hexec] at hagain
  cases hagain
  obtain ⟨result, _, _, hrun, houtcome⟩ := initializeHeap_outcome hshows.maps.safe rfl pages
  rw [hheap] at hrun
  cases hrun
  rcases houtcome with ⟨_, _, _, data, hlength, hdata⟩ | ⟨_, hfail, _⟩
  · have hfinal := hshows.heap hdata
    refine ⟨_, booted, heap, final, data, created, hexec, hheap, hlength, hdata.nodup, ?_, ?_, ?_⟩
    · intro frame hframe
      have hheld := hdata.account.held (List.mem_toFinset.mpr hframe)
      have hmem := hshows.free frame (Finset.mem_sdiff.mp hheld).1
      rw [← husable] at hmem
      exact hmem
    · rwa [husable]
    · intro hfew hcount
      rw [hbelow, ncard_eq_filter hqueue.sorted] at hcount
      exact tablesLow_of_stage hstage hfinal hspares hfew (by omega) hcount
  · cases hfail

/-- The kernel's address space after the boot. For every memory map, every kernel
that ends within the first 2 MiB and every heap of at most 512 pages, with
enough usable memory and fifteen usable frames below 2 MiB: the boot succeeds,
keeping its page tables in the first 2 MiB, which Stage 2 and then the new space
map to themselves; and every canonical address translates and is protected as
`bootPages` says: the first 2 MiB to themselves for the kernel only, the page of
the user code and the four stack pages writable for ring 3, the heap pages to
frames of their own for the kernel only, and nothing else is mapped. -/
theorem boot_address_space (memoryMap : List MemoryMapEntry)
    (kernelStart kernelEnd userCodePhysical userStackPhysical pages : U64)
    (allocator : FrameAllocator) (tables : U64 → PageTable)
    (hinit : initializeAllocator memoryMap kernelStart kernelEnd = some allocator)
    (horder : kernelStart < kernelEnd) (hend : kernelEnd ≤ 0x200000#64)
    (huser : UserLinked kernelEnd userCodePhysical userStackPhysical)
    (hpositive : 1 ≤ pages.toNat) (hpages : pages.toNat ≤ 512)
    (henough : framesUsed pages.toNat ≤
      Set.ncard {frame : Frame | UsableAfterBoot memoryMap kernelStart kernelEnd frame})
    (hlow : 15 ≤ Set.ncard {frame : Frame |
      UsableAfterBoot memoryMap kernelStart kernelEnd frame ∧ frame.val < 512}) :
    ∃ space booted heap final data,
      exec (bootSpace userCodePhysical userStackPhysical) ⟨allocator, tables⟩ =
        some (.ok space, booted) ∧
      KernelHeap.new.initializeHeap space.pml4Phys booted pages = some (.ok (), heap, final) ∧
      data.length = pages.toNat ∧ data.Nodup ∧
      TablesLow tables final space ∧
      ∀ virtualAddress, isCanonical virtualAddress = true →
        PageTable.translate final.tables space.pml4Phys virtualAddress =
          some ((bootPages userCodePhysical userStackPhysical data (pageOf virtualAddress)).map
            fun mapping => mapping.physicalAddress + virtualAddress % pageSize) ∧
        effectivePermissions final.tables space.pml4Phys
            (pagePath virtualAddress ++ [pageSlot virtualAddress]) =
          (bootPages userCodePhysical userStackPhysical data (pageOf virtualAddress)).map
            fun mapping => (mapping.writable, mapping.user) := by
  obtain ⟨space, booted, heap, final, data, _, hexec, hheap, hlength, hnodup, _, hshows, htables⟩ :=
    boot_shows tables hinit horder hend huser hpositive (by omega) henough
  exact ⟨space, booted, heap, final, data, hexec, hheap, hlength, hnodup, htables hpages hlow,
    fun _ hcanonical => ⟨hshows.maps.translate_eq hcanonical,
      hshows.maps.effectivePermissions_eq hcanonical⟩⟩

/-- The kernel's own boot: four heap pages. The user code page is open to ring 3,
the first MiB is not, and no table is above 2 MiB. -/
theorem boot_address_space_four_pages :
    ∃ (space : AddressSpace) (final : PhysicalMemory),
      TablesLow (fun _ _ => 0#64) final space ∧
      effectivePermissions final.tables space.pml4Phys
        (pagePath 0x400010#64 ++ [pageSlot 0x400010#64]) = some (true, true) ∧
      effectivePermissions final.tables space.pml4Phys
        (pagePath 0x100000#64 ++ [pageSlot 0x100000#64]) = some (true, false) := by
  have hframes : maxFrames = 1048576 := maxFrames_eq
  obtain ⟨allocator, hinit, _⟩ := initializeAllocator_spec
    [⟨0x100000#64, 0x1000000#64, 1#32, 1#32⟩] (by decide)
    (show (0x100000#64 : U64) < 0x180000#64 by decide) (by decide)
  obtain ⟨space, _, _, final, data, _, _, _, _, htables, haddress⟩ := boot_address_space _ _
    0x180000#64 0x101000#64 0x110000#64 4#64 allocator (fun _ _ => 0#64) hinit (by decide)
    (by decide) userLinked_sixteen (by decide) (by decide) (by
      simp only [usable_sixteen]
      rw [ncard_between (by omega) (by omega)]
      decide) fifteen_low_sixteen
  exact ⟨space, final, htables, (haddress 0x400010#64 (by decide)).2,
    (haddress 0x100000#64 (by decide)).2⟩

/-- The pages that ring 3 may touch. -/
theorem bootPages_user {userCodePhysical userStackPhysical page : U64} {heap : List Frame}
    {mapping : Mapping}
    (hpage : bootPages userCodePhysical userStackPhysical heap page = some mapping)
    (huser : mapping.user = true) :
    (page = userCodeVaddr ∧
      mapping.physicalAddress = userCodePhysical &&& ~~~(pageSize - 1#64)) ∨
    (userStackVaddr ≤ page ∧ page < userStackTop ∧
      mapping.physicalAddress = userStackPhysical + (page - userStackVaddr)) := by
  unfold bootPages at hpage
  split_ifs at hpage with haligned hlow hcode hstack hheap
  · cases hpage
    cases huser
  · cases hpage
    exact Or.inl ⟨hcode, rfl⟩
  · cases hpage
    exact Or.inr ⟨hstack.1, hstack.2, rfl⟩
  · obtain ⟨frame, _, rfl⟩ := Option.map_eq_some_iff.mp hpage
    cases huser

/-- What ring 3 reaches lies in the kernel image. -/
theorem user_in_kernel
    {kernelStart kernelEnd userCodePhysical userStackPhysical virtualAddress : U64}
    (hend : kernelEnd ≤ 0x200000#64)
    (huser : UserLinked kernelEnd userCodePhysical userStackPhysical)
    (hcodeLow : kernelStart ≤ userCodePhysical) (hstackLow : kernelStart ≤ userStackPhysical)
    {mapping : Mapping}
    (hmapping : (pageOf virtualAddress = userCodeVaddr ∧
        mapping.physicalAddress = userCodePhysical &&& ~~~(pageSize - 1#64)) ∨
      (userStackVaddr ≤ pageOf virtualAddress ∧ pageOf virtualAddress < userStackTop ∧
        mapping.physicalAddress = userStackPhysical + (pageOf virtualAddress - userStackVaddr))) :
    PageMeets ((mapping.physicalAddress + virtualAddress % pageSize).toNat / 4096) kernelStart
      kernelEnd := by
  have hend' : kernelEnd.toNat ≤ 0x200000 := hend
  have hoffset : (virtualAddress % pageSize).toNat < 4096 := by
    rw [BitVec.toNat_umod]
    exact Nat.mod_lt _ (by decide)
  rcases hmapping with ⟨_, hphysical⟩ | ⟨hlow, hhigh, hphysical⟩
  · have hpage := SpaceStage.userCodePage_toNat userCodePhysical
    have hstart : kernelStart.toNat ≤ userCodePhysical.toNat := hcodeLow
    have hfinish : userCodePhysical.toNat < kernelEnd.toNat := huser.code_high
    rw [hphysical, BitVec.toNat_add, hpage]
    exact ⟨userCodePhysical.toNat, by omega, by omega, hstart, hfinish⟩
  · have hstart : kernelStart.toNat ≤ userStackPhysical.toNat := hstackLow
    have hfinish := huser.stack_high
    have hsize : userStackSize.toNat = 16384 := rfl
    have hbase : userStackVaddr.toNat = 0x800000 := rfl
    have hlow' : 0x800000 ≤ (pageOf virtualAddress).toNat := hlow
    have hhigh' : (pageOf virtualAddress).toNat < 0x804000 := hhigh
    have hmod : (pageOf virtualAddress).toNat % 4096 = 0 :=
      congrArg BitVec.toNat (pageOf_aligned virtualAddress)
    have hdiff : (pageOf virtualAddress - userStackVaddr).toNat =
        (pageOf virtualAddress).toNat - 0x800000 := BitVec.toNat_sub_of_le hlow
    have hsum : (mapping.physicalAddress + virtualAddress % pageSize).toNat =
        userStackPhysical.toNat + ((pageOf virtualAddress).toNat - 0x800000) +
          (virtualAddress % pageSize).toNat := by
      rw [hphysical, BitVec.toNat_add, BitVec.toNat_add, hdiff]
      omega
    exact ⟨(mapping.physicalAddress + virtualAddress % pageSize).toNat, by omega, by omega,
      by omega, by omega⟩

/-- Ring 3 is confined. With the user code and stack linked inside the kernel:
after the boot, an address that ring 3 may touch lies in the user code page or
in the user stack, and the frame behind it is no page table of the space, holds
no heap data and will not be handed out by the allocator. -/
theorem ring3_confined (memoryMap : List MemoryMapEntry)
    (kernelStart kernelEnd userCodePhysical userStackPhysical pages : U64)
    (allocator : FrameAllocator) (tables : U64 → PageTable)
    (hinit : initializeAllocator memoryMap kernelStart kernelEnd = some allocator)
    (horder : kernelStart < kernelEnd) (hend : kernelEnd ≤ 0x200000#64)
    (huser : UserLinked kernelEnd userCodePhysical userStackPhysical)
    (hcodeLow : kernelStart ≤ userCodePhysical) (hstackLow : kernelStart ≤ userStackPhysical)
    (hpositive : 1 ≤ pages.toNat) (hpages : pages.toNat ≤ 4096)
    (henough : framesUsed pages.toNat ≤
      Set.ncard {frame : Frame | UsableAfterBoot memoryMap kernelStart kernelEnd frame}) :
    ∃ space booted heap final, ∃ data : List Frame,
      exec (bootSpace userCodePhysical userStackPhysical) ⟨allocator, tables⟩ =
        some (.ok space, booted) ∧
      KernelHeap.new.initializeHeap space.pml4Phys booted pages = some (.ok (), heap, final) ∧
      (∀ index < pages.toNat, ∃ frame ∈ data, PageTable.translate final.tables space.pml4Phys
        (heapPage index) = some (some (frameAddress frame))) ∧
      ∀ virtualAddress writable, isCanonical virtualAddress = true →
        effectivePermissions final.tables space.pml4Phys
          (pagePath virtualAddress ++ [pageSlot virtualAddress]) = some (writable, true) →
        (pageOf virtualAddress = userCodeVaddr ∨
          userStackVaddr ≤ virtualAddress ∧ virtualAddress < userStackTop) ∧
        ∃ physicalAddress, PageTable.translate final.tables space.pml4Phys virtualAddress =
            some (some physicalAddress) ∧
          ∀ frame : Frame, frame.val = physicalAddress.toNat / 4096 →
            frame ∉ final.allocator.freeSet ∧ frame ∉ data ∧
              ¬ Node entryTarget 3 {space.pml4Phys} final.tables (frameAddress frame) := by
  obtain ⟨space, booted, heap, final, data, _, hexec, hheap, hlength, hnodup, husable, hshows, _⟩ :=
    boot_shows tables hinit horder hend huser hpositive hpages henough
  refine ⟨space, booted, heap, final, data, hexec, hheap, ?_, ?_⟩
  · intro index hindex
    have hframe : data[index]? = some data[index] := List.getElem?_eq_getElem (by omega)
    have hargs := mappable_heapPage (show index < 4096 by omega)
      (addressable_frameAddress data[index])
    have hpage : pageOf (heapPage index) = heapPage index := by
      rw [pageOf, hargs.aligned, BitVec.sub_zero]
    refine ⟨data[index], List.getElem_mem _, ?_⟩
    rw [hshows.maps.translate_eq hargs.canonical, hpage, bootPages_heapPage _ _ (by omega) hframe,
      hargs.aligned, Option.map_some, BitVec.add_zero]
  intro virtualAddress writable hcanonical hpermissions
  rw [hshows.maps.effectivePermissions_eq hcanonical] at hpermissions
  obtain ⟨mapping, hmapping, hflags⟩ := Option.map_eq_some_iff.mp hpermissions
  have huserFlag : mapping.user = true := congrArg Prod.snd hflags
  have hcases := bootPages_user hmapping huserFlag
  have hmeets := user_in_kernel hend huser hcodeLow hstackLow hcases
  refine ⟨?_, mapping.physicalAddress + virtualAddress % pageSize, ?_, ?_⟩
  · rcases hcases with ⟨hcode, _⟩ | ⟨hlow, hhigh, _⟩
    · exact Or.inl hcode
    · have hpage := pageOf_toNat virtualAddress
      have hlow' : 0x800000 ≤ (pageOf virtualAddress).toNat := hlow
      have hhigh' : (pageOf virtualAddress).toNat < 0x804000 := hhigh
      refine Or.inr ⟨?_, ?_⟩
      · change 0x800000 ≤ virtualAddress.toNat
        omega
      · change virtualAddress.toNat < 0x804000
        omega
  · rw [hshows.maps.translate_eq hcanonical, hmapping]
    rfl
  · intro frame hframe
    have hnot : ¬ UsableAfterBoot memoryMap kernelStart kernelEnd frame.val := by
      intro hboth
      rw [hframe] at hboth
      exact hboth.2.2 hmeets
    refine ⟨fun hmem => hnot (hshows.free frame hmem), fun hmem => hnot (husable frame hmem), ?_⟩
    intro hnode
    obtain ⟨other, hother, hsame⟩ := hshows.tables _ hnode
    rw [frameAddress_injective hsame] at hnot
    exact hnot hother

/-- The kernel's own boot: the first byte of the user code page. -/
theorem ring3_confined_four_pages :
    ∃ (space : AddressSpace) (final : PhysicalMemory) (physicalAddress : U64),
      PageTable.translate final.tables space.pml4Phys 0x400000#64 = some (some physicalAddress) ∧
      ∀ frame : Frame, frame.val = physicalAddress.toNat / 4096 →
        frame ∉ final.allocator.freeSet := by
  have hframes : maxFrames = 1048576 := maxFrames_eq
  obtain ⟨allocator, hinit, _⟩ := initializeAllocator_spec
    [⟨0x100000#64, 0x1000000#64, 1#32, 1#32⟩] (by decide)
    (show (0x100000#64 : U64) < 0x180000#64 by decide) (by decide)
  have henough : framesUsed (4#64 : U64).toNat ≤ Set.ncard {frame : Frame | UsableAfterBoot
      [⟨0x100000#64, 0x1000000#64, 1#32, 1#32⟩] 0x100000#64 0x180000#64 frame} := by
    simp only [usable_sixteen]
    rw [ncard_between (by omega) (by omega)]
    decide
  obtain ⟨space, _, _, final, _, hexec, hheap, _, hconfined⟩ := ring3_confined _ _ 0x180000#64
    0x101000#64 0x110000#64 4#64 allocator (fun _ _ => 0#64) hinit (by decide) (by decide)
    userLinked_sixteen (by decide) (by decide) (by decide) (by decide) henough
  obtain ⟨other, _, _, after, _, _, hagain, hheap', _, _, _, hshows, _⟩ :=
    boot_shows (fun _ _ => 0#64) hinit (by decide) (by decide) userLinked_sixteen (by decide)
      (by decide) henough
  rw [hexec] at hagain
  cases hagain
  rw [hheap] at hheap'
  cases hheap'
  have hopen := hshows.maps.effectivePermissions_eq (show isCanonical 0x400000#64 = true by decide)
  obtain ⟨_, physicalAddress, htranslate, hframe⟩ :=
    hconfined 0x400000#64 true (by decide) (hopen.trans rfl)
  exact ⟨space, final, physicalAddress, htranslate, fun frame hval => (hframe frame hval).1⟩

end Boot

end Boot

end UnboundOS.Memory
