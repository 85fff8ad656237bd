import UnboundOS.Memory.FrameInit
import UnboundOS.Memory.Heap

/-!
The memory part of the kernel's `_start`, up to the heap: the frame and page
table tests, the kernel's own address space with its identity map of the first
2 MiB, the user code and stack pages, and the heap. Wherever the source halts
after an error, the code here fails; its serial output is left out. The
addresses of the user code and of the user stack come from the linker and are
parameters.
-/

namespace UnboundOS.Memory

open PageTable FrameAllocator RadixForest
open Fallible (exec exec_pure exec_write exec_update exec_checked exec_attempt exec_bind_ok)

namespace Boot

def userCodeVaddr : U64 := 0x0000000000400000#64

def userStackVaddr : U64 := 0x0000000000800000#64

def userStackSize : U64 := 16#64 * 1024#64

def allocate : Paging (Option U64) :=
  Fallible.update fun memory => do
    let (result, allocator) ← memory.allocator.allocateFrame
    some (result, {memory with allocator})

def release (address : U64) : Paging Unit :=
  Fallible.write fun memory => {memory with allocator := memory.allocator.freeFrame address}

/-- `PHYSICAL FRAME ALLOCATION TEST` and `RESERVED FRAME FREE TEST`: the second
and the third frame are never given back. -/
def frameAllocationTest : Paging Unit := do
  let frame1 ← allocate
  let _frame2 ← allocate
  let _frame3 ← allocate
  match frame1 with
  | some frame => release frame
  | none => pure ()
  release 0x00000000#64

/-- `VIRTUAL MEMORY TEST`, in a tree of its own. A failure is only reported. -/
def virtualMemoryTest : Paging Unit := do
  match ← allocate with
  | some pml4Frame => do
      let pml4 ← tableAt pml4Frame
      zero pml4
      Fallible.attempt (map pml4 0x00400000#64 0x00100000#64 true false)
  | none => pure ()

/-- A translation the kernel insists on, with the texts for a wrong result and
for an unmapped page. -/
def checkTranslation (pml4 virtualAddress : U64) (expected : Option U64)
    (wrong unmapped : String) : Paging Unit := do
  let found ← Fallible.update fun memory => do
    let found ← translate memory.tables pml4 virtualAddress
    some (found, memory)
  if found = expected then pure ()
  else
    match found with
    | some _ => throw wrong
    | none => throw unmapped

/-- `TEST MAP` to `POST-UNMAP TRANSLATION TEST`. -/
def testMapping (pml4 : U64) : Paging Unit := do
  map pml4 0x00400000#64 0x00100000#64 true false
  checkTranslation pml4 0x00400000#64 (some 0x00100000#64) "FAIL: WRONG PHYSICAL" "FAIL: UNMAPPED"
  let physicalAddress ← unmap pml4 0x00400000#64
  if physicalAddress = 0x00100000#64 then
    checkTranslation pml4 0x00400000#64 none "FAIL: STILL MAPPED" ""
  else throw "FAIL: WRONG PHYSICAL"

def mapUserCode (pml4 userCodePhysical : U64) : Paging Unit := do
  let userCodePage := userCodePhysical &&& ~~~(pageSize - 1#64)
  map pml4 userCodeVaddr userCodePage true true
  checkTranslation pml4 userCodeVaddr (some userCodePage) "USER CODE TRANSLATION: FAIL"
    "USER CODE TRANSLATION: FAIL: UNMAPPED"

/-- The loop over the stack pages, with the number of pages left. -/
def mapUserStackPages (pml4 userStackPhysical : U64) : Nat → U64 → Paging Unit
  | 0, _ => pure ()
  | left + 1, page => do
      let physicalAddress ← Fallible.checked (checkedAdd userStackPhysical (page * pageSize))
      let virtualAddress ← Fallible.checked (checkedAdd userStackVaddr (page * pageSize))
      map pml4 virtualAddress physicalAddress true true
      mapUserStackPages pml4 userStackPhysical left (page + 1#64)

def mapUserStack (pml4 userStackPhysical : U64) : Paging Unit := do
  mapUserStackPages pml4 userStackPhysical (userStackSize / pageSize).toNat 0#64
  checkTranslation pml4 userStackVaddr (some userStackPhysical) "USER STACK TRANSLATION: FAIL"
    "USER STACK TRANSLATION: FAIL: UNMAPPED"

/-- The address space that is activated as CR3 before the heap is set up. -/
def bootSpace (userCodePhysical userStackPhysical : U64) : Paging AddressSpace := do
  frameAllocationTest
  virtualMemoryTest
  let space ← AddressSpace.new
  space.identityMap 0x00000000#64 0x00200000#64 true
  let pml4 ← tableAt space.pml4Phys
  testMapping pml4
  let userPml4 ← tableAt space.pml4Phys
  mapUserCode userPml4 userCodePhysical
  mapUserStack userPml4 userStackPhysical
  return space

variable {queue : List Frame} {n : Nat}

/-- Nothing is written but the first `count` frames of the queue. -/
def Spares (queue : List Frame) (count : Nat) (before after : U64 → PageTable) : Prop :=
  ∀ table, (∀ n < count, table ≠ nthFrame queue n) → after table = before table

theorem Spares.trans {count more : Nat} {first second third : U64 → PageTable}
    (hfirst : Spares queue count first second) (hsecond : Spares queue more second third)
    (hmore : count ≤ more) : Spares queue more first third := by
  intro table htable
  rw [hsecond table htable, hfirst table fun n hn => htable n (lt_of_lt_of_le hn hmore)]

theorem exec_allocate {memory : PhysicalMemory} {frame : Frame} {frames : List Frame}
    (hqueue : memory.allocator.Queued (frame :: frames)) :
    exec allocate memory = some (.ok (some (frameAddress frame)),
      ⟨memory.allocator.handOut frame, memory.tables⟩) :=
  exec_update (by rw [hqueue.allocateFrame]; rfl)

/-- The frame test keeps the second and the third frame. -/
theorem frameAllocationTest_spec {memory : PhysicalMemory} {first second third : Frame}
    {rest : List Frame} (hqueue : memory.allocator.Queued (first :: second :: third :: rest))
    (hnone : memory.allocator.allocSet = ∅) :
    ∃ next, exec frameAllocationTest memory = some (.ok (), next) ∧
      next.allocator.Queued (first :: rest) ∧ next.tables = memory.tables := by
  have hqueue₁ := hqueue.handOut
  have hqueue₂ := hqueue₁.handOut
  have hqueue₃ := hqueue₂.handOut
  have hlow : first.val ≠ 0 :=
    hqueue.nullReserved.free ((hqueue.free first).mpr List.mem_cons_self)
  have hsorted := hqueue.sorted
  simp only [List.pairwise_cons, List.mem_cons, forall_eq_or_imp] at hsorted
  obtain ⟨⟨hsecond, hthird, hrest⟩, _⟩ := hsorted
  generalize hgiven : ((memory.allocator.handOut first).handOut second).handOut third = given
    at hqueue₃
  have halloc : given.allocSet = {third, second, first} := by
    rw [← hgiven, allocSet_handOut, allocSet_handOut, allocSet_handOut, hnone]
    rfl
  have hmem : first ∈ given.allocSet := by simp [halloc]
  have hback := hqueue₃.freeFrame hmem hrest
  obtain ⟨_, hallocBack, _⟩ := freeFrame_of_mem hqueue₃.consistent hmem
  have hzero : (given.freeFrame (frameAddress first)).freeFrame 0#64 =
      given.freeFrame (frameAddress first) := by
    apply freeFrame_of_not_mem
    intro frame hframe hsame
    have hnat : 0 = 4096 * frame.val := by
      rw [← frameAddress_toNat, ← hsame]
      rfl
    rw [hallocBack, halloc] at hframe
    simp only [Finset.mem_erase, Finset.mem_insert, Finset.mem_singleton] at hframe
    have hsecondVal : first.val < second.val := hsecond
    have hthirdVal : first.val < third.val := hthird
    rcases hframe with ⟨_, rfl | rfl | rfl⟩ <;> omega
  refine ⟨⟨given.freeFrame (frameAddress first), memory.tables⟩, ?_, hback, rfl⟩
  rw [frameAllocationTest, exec_bind_ok (exec_allocate hqueue),
    exec_bind_ok (exec_allocate hqueue₁), exec_bind_ok (exec_allocate hqueue₂)]
  simp only [release, exec_bind_ok (exec_write _ _), exec_write, hgiven, hzero]

/-- The first page of a tree takes three tables. -/
theorem planted_page (root virtualAddress : U64) (hroom : n + 3 ≤ queue.length) :
    Growth.ReadyFor ⟨planted root, queue.drop n⟩ virtualAddress ∧
      Growth.reachPage ⟨planted root, queue.drop n⟩ virtualAddress =
        ⟨Function.update (Function.update (Function.update (planted root)
            (Growth.pdptPath virtualAddress) (some (nthFrame queue n)))
            (Growth.pdPath virtualAddress) (some (nthFrame queue (n + 1))))
            (pagePath virtualAddress) (some (nthFrame queue (n + 2))), queue.drop (n + 3)⟩ := by
  have hpd : Growth.pdPath virtualAddress ≠ Growth.pdptPath virtualAddress := by
    simp [Growth.pdPath, Growth.pdptPath]
  have hpt : pagePath virtualAddress ≠ Growth.pdPath virtualAddress ∧
      pagePath virtualAddress ≠ Growth.pdptPath virtualAddress := by
    simp [Growth.pdPath, Growth.pdptPath, pagePath]
  have hfirst : planted root (Growth.pdptPath virtualAddress) = none := planted_cons _ _ _
  have hsecond : Function.update (planted root) (Growth.pdptPath virtualAddress)
      (some (nthFrame queue n)) (Growth.pdPath virtualAddress) = none := by
    rw [Function.update_of_ne hpd]
    exact planted_cons _ _ _
  have hthird : Function.update (Function.update (planted root) (Growth.pdptPath virtualAddress)
      (some (nthFrame queue n))) (Growth.pdPath virtualAddress) (some (nthFrame queue (n + 1)))
      (pagePath virtualAddress) = none := by
    rw [Function.update_of_ne hpt.1, Function.update_of_ne hpt.2]
    exact planted_cons _ _ _
  have hreach₁ : Growth.reach ⟨planted root, queue.drop n⟩ (Growth.pdptPath virtualAddress) = _ :=
    Growth.reach_nth hfirst rfl (by omega)
  have hreach₂ : Growth.reach ⟨Function.update (planted root) (Growth.pdptPath virtualAddress)
      (some (nthFrame queue n)), queue.drop (n + 1)⟩ (Growth.pdPath virtualAddress) = _ :=
    Growth.reach_nth hsecond rfl (by omega)
  refine ⟨⟨?_, ?_, ?_⟩, ?_⟩
  · exact Growth.ready_nth rfl (show n < queue.length by omega)
  · rw [hreach₁]
    exact Growth.ready_nth rfl (show n + 1 < queue.length by omega)
  · rw [hreach₁, hreach₂]
    exact Growth.ready_nth rfl (show n + 2 < queue.length by omega)
  · rw [Growth.reachPage, hreach₁, hreach₂]
    exact Growth.reach_nth hthird rfl (by omega)

theorem planted_page_tables {root virtualAddress : U64} (hroom : n + 3 ≤ queue.length)
    {path : List (Fin 512)} {table : U64}
    (htable : (Growth.reachPage ⟨planted root, queue.drop n⟩ virtualAddress).table path =
      some table) : table = root ∨ ∃ k < n + 3, table = nthFrame queue k := by
  rw [(planted_page root virtualAddress hroom).2] at htable
  simp only [Function.update_apply, planted] at htable
  split_ifs at htable <;> cases htable
  · exact Or.inr ⟨n + 2, by omega, rfl⟩
  · exact Or.inr ⟨n + 1, by omega, rfl⟩
  · exact Or.inr ⟨n, by omega, rfl⟩
  · exact Or.inl rfl

/-- The page table test takes its root and three tables and gives none back. -/
theorem virtualMemoryTest_spec {memory : PhysicalMemory} (hroom : 6 ≤ queue.length)
    (hqueue : memory.allocator.Queued (queue[0] :: queue.drop 3)) :
    ∃ next, exec virtualMemoryTest memory = some (.ok (), next) ∧
      next.allocator.Queued (queue.drop 6) ∧ Spares queue 6 memory.tables next.tables := by
  have hplanted := Grown.plant hqueue memory.tables
  obtain ⟨hready, hpage⟩ := planted_page (frameAddress queue[0]) 0x00400000#64
    (show 3 + 3 ≤ queue.length from hroom)
  have hargs : Mappable 0x00400000#64 0x00100000#64 :=
    mappable_low (by decide) (by decide) (addressable_low (by decide) (by decide))
  obtain ⟨next, _, _, _, hexec, hgrown, _, _, _, hgrew⟩ :=
    hplanted.map hargs hready (lookup_blank entryTarget_zero _ _) true false
  have hqueued := hgrown.queued
  rw [hpage] at hqueued
  refine ⟨next, ?_, hqueued, fun table htable => ?_⟩
  · rw [virtualMemoryTest, exec_bind_ok (exec_allocate hqueue)]
    simp only [exec_bind_ok (exec_tableAt (hplanted.safe.root rfl) _), zero,
      exec_bind_ok (exec_write _ _)]
    exact exec_attempt hexec
  · have hroot : table ≠ frameAddress queue[0] := by
      rw [← nthFrame_eq (by omega)]
      exact htable 0 (by omega)
    rw [hgrew.outside table]
    · funext slot
      exact fill_other _ slot hroot
    · rintro ⟨_, rfl, path, hdepth, hwalk⟩
      rw [hgrown.tables path hdepth] at hwalk
      rcases planted_page_tables hroom hwalk with hsame | ⟨k, hk, hsame⟩
      · exact hroot hsame
      · exact htable k hk hsame

/-- `AddressSpace::new` on a queue. -/
theorem new_spec {memory : PhysicalMemory} (hqueue : memory.allocator.Queued (queue.drop n))
    (hn : n < queue.length) :
    ∃ next, exec AddressSpace.new memory = some (.ok ⟨nthFrame queue n⟩, next) ∧
      Built next ⟨nthFrame queue n⟩ ⟨planted (nthFrame queue n), queue.drop (n + 1)⟩
        (fun _ => none) ∧
      Spares queue (n + 1) memory.tables next.tables := by
  rw [List.drop_eq_getElem_cons hn] at hqueue
  have hplanted := Grown.plant hqueue memory.tables
  refine ⟨⟨memory.allocator.handOut queue[n],
    fill memory.tables (frameAddress queue[n]) 0#64⟩, ?_, ?_, fun table htable => ?_⟩
  · rw [AddressSpace.new, exec_bind_ok (exec_allocateTableFrame_ok hqueue.allocateFrame),
      exec_bind_ok (exec_tableAt (hplanted.safe.root rfl) _), zero,
      exec_bind_ok (exec_write _ _), exec_pure, nthFrame_eq hn]
  · rw [nthFrame_eq hn]
    refine ⟨hplanted, hplanted.safe, rfl, fun page _ _ => ?_, by simp⟩
    exact lookup_blank entryTarget_zero _ _
  · have hother := htable n (Nat.lt_succ_self n)
    rw [nthFrame_eq hn] at hother
    funext slot
    exact fill_other _ slot hother

/-- The kernel's address space once its identity map stands. `used` frames of
the queue are gone, `low` are the page tables of the first GiB, and from
`limit` on nothing is mapped. -/
structure SpaceStage (queue : List Frame) (used : Nat) (low : Fin 512 → Option U64) (limit : Nat)
    (memory : PhysicalMemory) (growth : Growth) (pages : U64 → Option Mapping) : Prop where
  built : Built memory ⟨nthFrame queue 6⟩ growth pages
  frames : growth.frames = queue.drop used
  pdpt : growth.table [0] = some (nthFrame queue 7)
  pd : growth.table [0, 0] = some (nthFrame queue 8)
  pt : ∀ index, growth.table [0, 0, index] = low index
  heapPd : growth.table [0, 1] = none
  heapPt : ∀ index, growth.table [0, 1, index] = none
  early : ∀ path table, growth.table path = some table → ∃ n < used, table = nthFrame queue n
  identity : ∀ page : U64, page.toNat < 0x200000 → page.toNat % 4096 = 0 →
    (pages page).map (·.physicalAddress) = some page
  above : ∀ page mapping, 0x200000 ≤ page.toNat → pages page = some mapping →
    mapping.physicalAddress.toNat < 0x200000
  unmapped : ∀ page : U64, limit ≤ page.toNat → pages page = none

/-- The stage after `identity_map`. -/
theorem identityMap_stage {memory : PhysicalMemory} (hlength : 10 ≤ queue.length)
    (hbuilt : Built memory ⟨nthFrame queue 6⟩ ⟨planted (nthFrame queue 6), queue.drop 7⟩
      (fun _ => none)) :
    ∃ next growth,
      exec (AddressSpace.identityMap ⟨nthFrame queue 6⟩ 0x00000000#64 0x00200000#64 true) memory =
        some (.ok (), next) ∧
      SpaceStage queue 10 (Function.update (fun _ => none) 0 (some (nthFrame queue 9))) 0x200000
        next growth (identityPages 0x00200000#64) ∧
      Grew {nthFrame queue 6} memory next := by
  obtain ⟨hready, hpage⟩ := planted_page (n := 7) (nthFrame queue 6) 0#64 (by omega)
  obtain ⟨next, _, _, _, hexec, hnext, _, hgrew⟩ := hbuilt.identityMap hready
  have hearly (path : List (Fin 512)) (table : U64)
      (htable : (Growth.reachPage ⟨planted (nthFrame queue 6), queue.drop 7⟩ 0#64).table path =
        some table) : ∃ n < 10, table = nthFrame queue n := by
    rcases planted_page_tables hlength htable with hroot | hlater
    · exact ⟨6, by omega, hroot⟩
    · exact hlater
  have hpath : pagePath 0#64 = [0, 0, 0] := pagePath_low 0 0 rfl
  have hpdpt : Growth.pdptPath 0#64 = [0] := congrArg (List.take 1) hpath
  have hpd : Growth.pdPath 0#64 = [0, 0] := congrArg (List.take 2) hpath
  rw [hpage, hpath, hpdpt, hpd] at hnext hearly
  refine ⟨next, _, hexec, ⟨hnext, rfl, ?_, ?_, ?_, ?_, ?_, hearly, ?_, ?_, ?_⟩, hgrew⟩
  · simp
  · simp
  · intro index
    by_cases hzero : index = 0
    · rw [hzero]
      simp
    · rw [Function.update_of_ne hzero]
      simp [hzero, planted_cons]
  · simp [planted_cons]
  · intro index
    simp [planted_cons]
  · intro page hlow haligned
    have hless : page < 0x00200000#64 := hlow
    have hpage : page % pageSize = 0#64 := by
      rw [← BitVec.toNat_inj, BitVec.toNat_umod]
      exact haligned
    rw [identityPages, if_pos ⟨hless, hpage⟩]
    rfl
  · intro page mapping habove hmapping
    rw [identityPages, if_neg (fun h => absurd h.1 (BitVec.not_lt.mpr habove))] at hmapping
    cases hmapping
  · intro page habove
    exact if_neg (fun h => absurd h.1 (BitVec.not_lt.mpr habove))

namespace SpaceStage

variable {used : Nat} {low : Fin 512 → Option U64} {limit : Nat} {memory : PhysicalMemory}
  {growth : Growth} {pages : U64 → Option Mapping}

/-- A page above the identity map, mapped to memory below 2 MiB. -/
structure Window (virtualAddress physicalAddress : U64) (index : Fin 512) : Prop where
  path : pagePath virtualAddress = [0, 0, index]
  above : 0x200000 ≤ virtualAddress.toNat
  args : Mappable virtualAddress physicalAddress
  physical : physicalAddress.toNat < 0x200000

variable {virtualAddress physicalAddress : U64} {index : Fin 512}

/-- Mapping such a page, whatever becomes of its page table. -/
theorem record (hstage : SpaceStage queue used low limit memory growth pages)
    (hwindow : Window virtualAddress physicalAddress index) (hlimit : limit ≤ virtualAddress.toNat)
    (writable user : Bool) {taken : Nat} {table : Option U64}
    (hready : growth.ReadyFor virtualAddress)
    (hgrown : growth.reachPage virtualAddress =
      ⟨Function.update growth.table [0, 0, index] table, queue.drop taken⟩)
    (htaken : used ≤ taken)
    (htable : ∀ target, table = some target → ∃ n < taken, target = nthFrame queue n) :
    ∃ next grown,
      exec (map (nthFrame queue 6) virtualAddress physicalAddress writable user) memory =
        some (.ok (), next) ∧
      SpaceStage queue taken (Function.update low index table) (virtualAddress.toNat + 1) next
        grown (Function.update pages virtualAddress (some ⟨physicalAddress, writable, user⟩)) := by
  have habove := hwindow.above
  obtain ⟨next, _, _, _, hexec, hnext, _⟩ := hstage.built.map hwindow.args hready
    (hstage.unmapped _ hlimit) writable user
  rw [hgrown] at hnext
  have hother {page : U64} (hne : page.toNat ≠ virtualAddress.toNat) : page ≠ virtualAddress :=
    fun hsame => hne (congrArg BitVec.toNat hsame)
  refine ⟨next, _, hexec, ⟨hnext, rfl, ?_, ?_, ?_, ?_, ?_, ?_, ?_, ?_, ?_⟩⟩
  · simpa using hstage.pdpt
  · simpa using hstage.pd
  · intro other
    by_cases hsame : other = index
    · rw [hsame]
      simp
    · rw [Function.update_of_ne hsame]
      simpa [hsame] using hstage.pt other
  · simpa using hstage.heapPd
  · intro other
    simpa using hstage.heapPt other
  · intro path target (htarget : Function.update growth.table [0, 0, index] table path = _)
    by_cases hsame : path = [0, 0, index]
    · rw [hsame, Function.update_self] at htarget
      exact htable target htarget
    · rw [Function.update_of_ne hsame] at htarget
      obtain ⟨n, hn, heq⟩ := hstage.early path target htarget
      exact ⟨n, lt_of_lt_of_le hn htaken, heq⟩
  · intro page hlow haligned
    rw [Function.update_of_ne (hother (by omega))]
    exact hstage.identity page hlow haligned
  · intro page mapping hpage hmapping
    by_cases hsame : page = virtualAddress
    · rw [hsame, Function.update_self] at hmapping
      cases hmapping
      exact hwindow.physical
    · rw [Function.update_of_ne hsame] at hmapping
      exact hstage.above page mapping hpage hmapping
  · intro page hpage
    rw [Function.update_of_ne (hother (by omega))]
    exact hstage.unmapped page (by omega)

/-- The page table exists already. -/
theorem map_existing (hstage : SpaceStage queue used low limit memory growth pages)
    (hwindow : Window virtualAddress physicalAddress index) (hlimit : limit ≤ virtualAddress.toNat)
    (writable user : Bool) {table : U64} (htable : low index = some table) :
    ∃ next grown,
      exec (map (nthFrame queue 6) virtualAddress physicalAddress writable user) memory =
        some (.ok (), next) ∧
      SpaceStage queue used low (virtualAddress.toNat + 1) next grown
        (Function.update pages virtualAddress (some ⟨physicalAddress, writable, user⟩)) := by
  have hcomplete : growth.Complete virtualAddress (nthFrame queue 7) (nthFrame queue 8) table := by
    constructor
    · exact (congrArg growth.table (congrArg (List.take 1) hwindow.path)).trans hstage.pdpt
    · exact (congrArg growth.table (congrArg (List.take 2) hwindow.path)).trans hstage.pd
    · rw [hwindow.path, hstage.pt, htable]
  have hgrown : growth.reachPage virtualAddress =
      ⟨Function.update growth.table [0, 0, index] (low index), queue.drop used⟩ := by
    rw [hcomplete.reachPage_eq, ← hstage.pt index, Function.update_eq_self, ← hstage.frames]
  have hnext := hstage.record hwindow hlimit writable user hcomplete.readyFor hgrown le_rfl
    fun target htarget => hstage.early [0, 0, index] target (by rw [hstage.pt, htarget])
  rwa [Function.update_eq_self] at hnext

/-- The page table has to be made. -/
theorem map_fresh (hstage : SpaceStage queue used low limit memory growth pages)
    (hwindow : Window virtualAddress physicalAddress index) (hlimit : limit ≤ virtualAddress.toNat)
    (writable user : Bool) (htable : low index = none) (hused : used < queue.length) :
    ∃ next grown,
      exec (map (nthFrame queue 6) virtualAddress physicalAddress writable user) memory =
        some (.ok (), next) ∧
      SpaceStage queue (used + 1) (Function.update low index (some (nthFrame queue used)))
        (virtualAddress.toNat + 1) next grown
        (Function.update pages virtualAddress (some ⟨physicalAddress, writable, user⟩)) := by
  have hpdpt : growth.table (Growth.pdptPath virtualAddress) = some (nthFrame queue 7) :=
    (congrArg growth.table (congrArg (List.take 1) hwindow.path)).trans hstage.pdpt
  have hpd : growth.table (Growth.pdPath virtualAddress) = some (nthFrame queue 8) :=
    (congrArg growth.table (congrArg (List.take 2) hwindow.path)).trans hstage.pd
  have hpt : growth.table (pagePath virtualAddress) = none := by
    rw [hwindow.path, hstage.pt, htable]
  have hready : growth.ReadyFor virtualAddress := by
    constructor
    · exact Growth.ready_nth hstage.frames hused
    · rw [Growth.reach_of_some hpdpt]
      exact Growth.ready_nth hstage.frames hused
    · rw [Growth.reach_of_some hpdpt, Growth.reach_of_some hpd]
      exact Growth.ready_nth hstage.frames hused
  apply hstage.record hwindow hlimit writable user hready
  · rw [Growth.reachPage, Growth.reach_of_some hpdpt, Growth.reach_of_some hpd,
      Growth.reach_nth hpt hstage.frames hused, hwindow.path]
  · exact Nat.le_succ used
  · intro target htarget
    exact ⟨used, Nat.lt_succ_self used, (Option.some.inj htarget).symm⟩

/-- A translation that finds what the kernel expects changes nothing. -/
theorem checkTranslation (hstage : SpaceStage queue used low limit memory growth pages)
    (hwindow : Window virtualAddress physicalAddress index) {expected : Option U64}
    (hexpected : (pages virtualAddress).map (·.physicalAddress) = expected)
    (wrong unmapped : String) :
    exec (Boot.checkTranslation (nthFrame queue 6) virtualAddress expected wrong unmapped) memory =
      some (.ok (), memory) := by
  have htranslate := hstage.built.maps.translate_page hwindow.args.canonical hwindow.args.aligned
  rw [hexpected] at htranslate
  rw [Boot.checkTranslation, exec_bind_ok (exec_update (by rw [htranslate]; rfl)), if_pos rfl,
    exec_pure]

/-- The page mapped last is unmapped again. -/
theorem unmap (hstage : SpaceStage queue used low (virtualAddress.toNat + 1) memory growth pages)
    (hwindow : Window virtualAddress physicalAddress index) {mapping : Mapping}
    (hmapped : pages virtualAddress = some mapping) :
    ∃ next, exec (PageTable.unmap (nthFrame queue 6) virtualAddress) memory =
        some (.ok mapping.physicalAddress, next) ∧
      SpaceStage queue used low virtualAddress.toNat next growth
        (Function.update pages virtualAddress none) := by
  have habove := hwindow.above
  obtain ⟨next, hexec, hnext⟩ :=
    hstage.built.unmap hwindow.args.canonical hwindow.args.aligned hmapped
  have hother {page : U64} (hne : page.toNat ≠ virtualAddress.toNat) : page ≠ virtualAddress :=
    fun hsame => hne (congrArg BitVec.toNat hsame)
  refine ⟨next, hexec, ⟨hnext, hstage.frames, hstage.pdpt, hstage.pd, hstage.pt, hstage.heapPd,
    hstage.heapPt, hstage.early, ?_, ?_, ?_⟩⟩
  · intro page hlow haligned
    rw [Function.update_of_ne (hother (by omega))]
    exact hstage.identity page hlow haligned
  · intro page target hpage htarget
    exact hstage.above page target hpage (of_update_none htarget).2
  · intro page hpage
    by_cases hsame : page = virtualAddress
    · rw [hsame, Function.update_self]
    · have hne : page.toNat ≠ virtualAddress.toNat := fun h => hsame (BitVec.eq_of_toNat_eq h)
      rw [Function.update_of_ne hsame]
      exact hstage.unmapped page (by omega)

/-- The test mapping at `0x400000` leaves a page table behind. -/
theorem testMapping (hstage : SpaceStage queue used low limit memory growth pages)
    (hlimit : limit ≤ 0x400000) (htable : low 2 = none) (hused : used < queue.length) :
    ∃ next grown mapped, exec (Boot.testMapping (nthFrame queue 6)) memory = some (.ok (), next) ∧
      SpaceStage queue (used + 1) (Function.update low 2 (some (nthFrame queue used))) 0x400000
        next grown mapped := by
  have hwindow : Window 0x00400000#64 0x00100000#64 2 :=
    ⟨pagePath_low 0 2 rfl, by decide, mappable_low (by decide) (by decide)
      (addressable_low (by decide) (by decide)), by decide⟩
  obtain ⟨first, grown, hexec, hfirst⟩ :=
    hstage.map_fresh hwindow hlimit true false htable hused
  obtain ⟨second, hunmap, hsecond⟩ := hfirst.unmap hwindow (Function.update_self _ _ _)
  refine ⟨second, grown, _, ?_, hsecond⟩
  rw [Boot.testMapping, exec_bind_ok hexec,
    exec_bind_ok (hfirst.checkTranslation hwindow (by rw [Function.update_self]; rfl) _ _),
    exec_bind_ok hunmap, if_pos rfl,
    hsecond.checkTranslation hwindow (by rw [Function.update_self]; rfl)]

theorem userCodePage_toNat (address : U64) :
    (address &&& ~~~(pageSize - 1#64)).toNat = address.toNat / 2 ^ 12 * 2 ^ 12 :=
  and_high_toNat address _ 12 (by decide)

theorem mapUserCode (hstage : SpaceStage queue used low limit memory growth pages)
    (hlimit : limit ≤ 0x400000) {table : U64} (htable : low 2 = some table)
    {userCodePhysical : U64} (hcode : userCodePhysical.toNat < 0x200000) :
    ∃ next grown mapped,
      exec (Boot.mapUserCode (nthFrame queue 6) userCodePhysical) memory = some (.ok (), next) ∧
      SpaceStage queue used low 0x400001 next grown mapped := by
  have hpage := userCodePage_toNat userCodePhysical
  have hwindow : Window userCodeVaddr (userCodePhysical &&& ~~~(pageSize - 1#64)) 2 :=
    ⟨pagePath_low 0 2 rfl, by decide, mappable_low (by decide) (by decide)
      (addressable_low (by omega) (by omega)), by omega⟩
  obtain ⟨next, grown, hexec, hnext⟩ :=
    hstage.map_existing hwindow hlimit true true htable
  refine ⟨next, grown, _, ?_, hnext⟩
  rw [Boot.mapUserCode, exec_bind_ok hexec,
    hnext.checkTranslation hwindow (by rw [Function.update_self]; rfl)]

/-- The pages of the user stack, as far as `mapUserStackPages` has come. -/
theorem stackWindow {userStackPhysical : U64} (haligned : userStackPhysical.toNat % 4096 = 0)
    (hstack : userStackPhysical.toNat + 16384 ≤ 0x200000) {page : Nat} (hpage : page < 4) :
    ∃ physicalAddress virtualAddress,
      checkedAdd userStackPhysical (BitVec.ofNat 64 page * pageSize) = some physicalAddress ∧
      checkedAdd userStackVaddr (BitVec.ofNat 64 page * pageSize) = some virtualAddress ∧
      Window virtualAddress physicalAddress 4 ∧
      virtualAddress.toNat = 0x800000 + 4096 * page := by
  have hoffset : (BitVec.ofNat 64 page * pageSize).toNat = 4096 * page := by
    rw [BitVec.toNat_mul, BitVec.toNat_ofNat, show pageSize.toNat = 4096 from rfl]
    omega
  have hvaddr : userStackVaddr.toNat = 0x800000 := rfl
  have hphysical := checkedAdd_eq_some (a := userStackPhysical)
    (b := BitVec.ofNat 64 page * pageSize) (by omega)
  have hvirtual := checkedAdd_eq_some (a := userStackVaddr)
    (b := BitVec.ofNat 64 page * pageSize) (by omega)
  have hphysicalNat := checkedAdd_toNat hphysical
  have hvirtualNat := checkedAdd_toNat hvirtual
  refine ⟨_, _, hphysical, hvirtual, ⟨?_, by omega, ?_, by omega⟩, by omega⟩
  · apply pagePath_low 0 4
    rw [hvirtualNat, hvaddr, hoffset, Fin.val_zero, show (4 : Fin 512).val = 4 from rfl]
    omega
  · exact mappable_low (by omega) (by omega) (addressable_low (by omega) (by omega))

/-- The stack pages after the first find their page table. -/
theorem mapUserStackPages {userStackPhysical : U64}
    (haligned : userStackPhysical.toNat % 4096 = 0)
    (hstack : userStackPhysical.toNat + 16384 ≤ 0x200000) {table : U64}
    (htable : low 4 = some table) (left page : Nat) (hpage : page + left ≤ 4)
    (hstage : SpaceStage queue used low limit memory growth pages)
    (hlimit : limit ≤ 0x800000 + 4096 * page) :
    ∃ next grown mapped last, exec (Boot.mapUserStackPages (nthFrame queue 6) userStackPhysical left
        (BitVec.ofNat 64 page)) memory = some (.ok (), next) ∧
      SpaceStage queue used low last next grown mapped ∧ last ≤ 0x800000 + 4096 * (page + left) ∧
      ∀ other : U64, other.toNat < 0x800000 + 4096 * page → mapped other = pages other := by
  induction left generalizing page memory growth pages limit with
  | zero => exact ⟨memory, growth, pages, limit, rfl, hstage, hlimit, fun _ _ => rfl⟩
  | succ left ih =>
      obtain ⟨physicalAddress, virtualAddress, hphysical, hvirtual, hwindow, hnat⟩ :=
        stackWindow haligned hstack (show page < 4 by omega)
      obtain ⟨next, grown, hexec, hnext⟩ :=
        hstage.map_existing hwindow (by omega) true true htable
      obtain ⟨final, grownFinal, mapped, last, hrest, hfinal, hlast, hsame⟩ :=
        ih (page + 1) (by omega) hnext (by omega)
      refine ⟨final, grownFinal, mapped, last, ?_, hfinal, by omega, ?_⟩
      · rw [Boot.mapUserStackPages, exec_bind_ok (exec_checked hphysical _),
          exec_bind_ok (exec_checked hvirtual _), exec_bind_ok hexec, ← hrest]
        rw [BitVec.ofNat_add]
      · intro other hother
        rw [hsame other (by omega), Function.update_of_ne]
        rintro rfl
        omega

/-- The user stack takes one page table. -/
theorem mapUserStack (hstage : SpaceStage queue used low limit memory growth pages)
    (hlimit : limit ≤ 0x800000) (htable : low 4 = none) (hused : used < queue.length)
    {userStackPhysical : U64} (haligned : userStackPhysical.toNat % 4096 = 0)
    (hstack : userStackPhysical.toNat + 16384 ≤ 0x200000) :
    ∃ next grown mapped last,
      exec (Boot.mapUserStack (nthFrame queue 6) userStackPhysical) memory = some (.ok (), next) ∧
      SpaceStage queue (used + 1) (Function.update low 4 (some (nthFrame queue used))) last next
        grown mapped ∧ last ≤ 0x40000000 := by
  obtain ⟨physicalAddress, virtualAddress, hphysical, hvirtual, hwindow, hnat⟩ :=
    stackWindow haligned hstack (show 0 < 4 by omega)
  have hfirstPhysical : physicalAddress = userStackPhysical := by
    have hsum := checkedAdd_toNat hphysical
    exact BitVec.eq_of_toNat_eq hsum
  have hfirstVirtual : virtualAddress = userStackVaddr := BitVec.eq_of_toNat_eq hnat
  obtain ⟨first, grown, hexec, hfirst⟩ :=
    hstage.map_fresh hwindow (by omega) true true htable hused
  obtain ⟨next, grownNext, mapped, last, hrest, hnext, hlast, hsame⟩ :=
    mapUserStackPages haligned hstack (Function.update_self 4 _ low) 3 1 le_rfl hfirst (by omega)
  refine ⟨next, grownNext, mapped, last, ?_, hnext, by omega⟩
  have hpages : exec (Boot.mapUserStackPages (nthFrame queue 6) userStackPhysical
      (userStackSize / pageSize).toNat 0#64) memory = some (.ok (), next) := by
    change exec (Boot.mapUserStackPages _ _ 4 (BitVec.ofNat 64 0)) memory = _
    rw [Boot.mapUserStackPages, exec_bind_ok (exec_checked hphysical _),
      exec_bind_ok (exec_checked hvirtual _), exec_bind_ok hexec, ← hrest]
    rfl
  rw [hfirstVirtual, hfirstPhysical] at hwindow hsame
  have hmapped : mapped userStackVaddr = some ⟨userStackPhysical, true, true⟩ := by
    rw [hsame userStackVaddr (by decide), Function.update_self]
  rw [Boot.mapUserStack, exec_bind_ok hpages,
    hnext.checkTranslation hwindow (by rw [hmapped]; rfl)]

end SpaceStage

/-- Where the linker puts the user code and the user stack: before the end of
the kernel, the stack on a page boundary. -/
structure UserLinked (kernelEnd userCodePhysical userStackPhysical : U64) : Prop where
  code_high : userCodePhysical < kernelEnd
  stack_aligned : userStackPhysical % pageSize = 0#64
  stack_high : userStackPhysical.toNat + userStackSize.toNat ≤ kernelEnd.toNat

/-- Up to the heap the boot takes twelve frames: two that are never given back,
four for the test tree, the PML4, three tables for the identity map, one for
the test mapping and the user code, and one for the user stack. -/
theorem bootSpace_stage {memory : PhysicalMemory} {userCodePhysical userStackPhysical : U64}
    (hqueue : memory.allocator.Queued queue) (hnone : memory.allocator.allocSet = ∅)
    (hlength : 12 ≤ queue.length) (hcode : userCodePhysical.toNat < 0x200000)
    (haligned : userStackPhysical.toNat % 4096 = 0)
    (hstack : userStackPhysical.toNat + 16384 ≤ 0x200000) :
    ∃ next growth pages,
      exec (bootSpace userCodePhysical userStackPhysical) memory =
        some (.ok ⟨nthFrame queue 6⟩, next) ∧
      HeapStage queue ⟨nthFrame queue 6⟩ 0 next growth pages := by
  have hsorted := hqueue.sorted
  have hqueue₀ : memory.allocator.Queued (queue[0] :: queue[1] :: queue[2] :: queue.drop 3) := by
    rw [← List.drop_eq_getElem_cons, ← List.drop_eq_getElem_cons, ← List.drop_eq_getElem_cons]
    exact hqueue
  obtain ⟨first, hfirst, hqueue₁, _⟩ := frameAllocationTest_spec hqueue₀ hnone
  obtain ⟨second, hsecond, hqueue₂, _⟩ := virtualMemoryTest_spec (by omega) hqueue₁
  obtain ⟨third, hthird, hbuilt, _⟩ := new_spec (n := 6) hqueue₂ (by omega)
  obtain ⟨fourth, _, hfourth, hstage₁, _⟩ := identityMap_stage (by omega) hbuilt
  obtain ⟨fifth, _, _, hfifth, hstage₂⟩ := hstage₁.testMapping (by omega)
    (Function.update_of_ne (by decide) _ _) (by omega)
  obtain ⟨sixth, _, _, hsixth, hstage₃⟩ := hstage₂.mapUserCode le_rfl
    (Function.update_self _ _ _) hcode
  have hfresh : Function.update (Function.update (fun _ => none) 0 (some (nthFrame queue 9))) 2
      (some (nthFrame queue 10)) (4 : Fin 512) = none := by
    rw [Function.update_of_ne (by decide), Function.update_of_ne (by decide)]
  obtain ⟨next, growth, pages, last, hnext, hstage, hlast⟩ := hstage₃.mapUserStack (by omega)
    hfresh (by omega) haligned hstack
  refine ⟨next, growth, pages, ?_, ⟨hstage.built, hsorted, rfl, hstage.frames, hstage.pdpt,
    hstage.heapPd, fun index => ?_, fun path table htable _ => hstage.early path table htable,
    hstage.identity, ?_, ?_⟩⟩
  · have hroot := hstage.built.grown.safe.root rfl
    rw [bootSpace, exec_bind_ok hfirst, exec_bind_ok hsecond, exec_bind_ok hthird,
      exec_bind_ok hfourth, exec_bind_ok (exec_tableAt hroot _), exec_bind_ok hfifth,
      exec_bind_ok (exec_tableAt hroot _), exec_bind_ok hsixth, exec_bind_ok hnext, exec_pure]
  · rw [if_neg (Nat.not_lt_zero _)]
    exact hstage.heapPt index
  · intro page mapping habove hmapping
    exact Or.inl (hstage.above page mapping habove hmapping)
  · intro page hpage
    have hstart : heapStart.toNat = 0x40000000 := rfl
    exact hstage.unmapped page (by omega)

/-- In an ascending list, the `n`-th frame is below a bound iff more than `n`
frames are. -/
theorem nth_lt_iff (hsorted : queue.Pairwise (· < ·)) (hn : n < queue.length) (bound : Nat) :
    queue[n].val < bound ↔ n + 1 ≤ (queue.filter (fun frame => frame.val < bound)).length := by
  have hmono (i j : Nat) (hij : i ≤ j) (hj : j < queue.length) :
      queue[i].val ≤ queue[j].val := by
    rcases Nat.eq_or_lt_of_le hij with rfl | hless
    · exact le_rfl
    · exact (List.pairwise_iff_getElem.mp hsorted i j (by omega) hj hless).le
  constructor
  · intro hlow
    have hall : (queue.take (n + 1)).filter (fun frame => frame.val < bound) =
        queue.take (n + 1) := by
      apply List.filter_eq_self.mpr
      intro frame hframe
      obtain ⟨i, hi, rfl⟩ := List.mem_take_iff_getElem.mp hframe
      exact decide_eq_true (lt_of_le_of_lt (hmono i n (by omega) hn) hlow)
    have hsub := ((List.take_sublist (n + 1) queue).filter
      (fun frame => frame.val < bound)).length_le
    rw [hall, List.length_take] at hsub
    omega
  · intro hcount
    by_contra hhigh
    have hnone : (queue.drop n).filter (fun frame => frame.val < bound) = [] := by
      apply List.filter_eq_nil_iff.mpr
      intro frame hframe
      obtain ⟨i, hi, rfl⟩ := List.mem_drop_iff_getElem.mp hframe
      have hle := hmono n (n + i) (by omega) (by omega)
      simp only [decide_eq_true_eq, not_lt]
      omega
    have hsplit : queue.filter (fun frame => frame.val < bound) =
        (queue.take n).filter (fun frame => frame.val < bound) := by
      conv_lhs => rw [← List.take_append_drop n queue, List.filter_append, hnone, List.append_nil]
    rw [hsplit] at hcount
    have hle := List.length_filter_le (fun frame : Frame => frame.val < bound) (queue.take n)
    rw [List.length_take] at hle
    omega

theorem ncard_eq_filter (hsorted : queue.Pairwise (· < ·)) (bound : Nat) :
    Set.ncard {frame : Frame | frame ∈ queue ∧ frame.val < bound} =
      (queue.filter (fun frame => frame.val < bound)).length := by
  have hnodup : (queue.filter (fun frame => frame.val < bound)).Nodup :=
    (hsorted.imp (fun h => h.ne)).filter _
  rw [← List.toFinset_card_of_nodup hnodup, ← Set.ncard_coe_finset]
  congr 1
  ext frame
  simp

/-- The heap of the boot: `initialize` succeeds, and its `map` calls find all
their page tables exactly if the page tables of the heap pages lie in the first
2 MiB. -/
theorem heap_reachable_iff {memory : PhysicalMemory} {userCodePhysical userStackPhysical : U64}
    (hqueue : memory.allocator.Queued queue) (hnone : memory.allocator.allocSet = ∅)
    (hcode : userCodePhysical.toNat < 0x200000) (haligned : userStackPhysical.toNat % 4096 = 0)
    (hstack : userStackPhysical.toNat + 16384 ≤ 0x200000) {pages : U64}
    (hpositive : 1 ≤ pages.toNat) (hpages : pages.toNat ≤ 4096)
    (henough : framesUsed pages.toNat ≤ queue.length) :
    ∃ space booted heap final,
      exec (bootSpace userCodePhysical userStackPhysical) memory = some (.ok space, booted) ∧
      KernelHeap.new.initializeHeap space.pml4Phys booted pages = some (.ok (), heap, final) ∧
      (∃ growth mapped, HeapStage queue space pages.toNat final growth mapped) ∧
      ((∀ call ∈ KernelHeap.mapCalls space.pml4Phys pages.toNat heapStart booted,
          KernelHeap.TablesReachable space.pml4Phys call) ↔
        ∀ page < pages.toNat, (nthFrame queue (14 + 513 * (page / 512))).toNat < 0x200000) := by
  have hused : framesUsed pages.toNat = 14 + pages.toNat + (pages.toNat - 1) / 512 :=
    if_neg (by omega)
  obtain ⟨booted, growth, mapped, hboot, hstage⟩ :=
    bootSpace_stage hqueue hnone (by omega) hcode haligned hstack
  have hstart : heapPage 0 = heapStart := by decide
  obtain ⟨⟨final, grown, full, hfinal, hlast⟩, hcalls⟩ := hstage.mapPages KernelHeap.new
    pages.toNat 0#64 (show (0#64 : U64).toNat = 0 from rfl) (by omega) (by rwa [Nat.zero_add])
  rw [hstart] at hfinal hcalls
  rw [Nat.zero_add] at hlast
  have hchecks : KernelHeap.new.initializeHeap (nthFrame queue 6) booted pages =
      KernelHeap.new.mapPages (nthFrame queue 6) pages.toNat heapStart 0#64 booted :=
    KernelHeap.initializeHeap_accepted
      ((KernelHeap.new_accepts_iff pages).mpr ⟨hpositive, by omega⟩) _ _
  refine ⟨_, booted, _, final, hboot, hchecks.trans hfinal, ⟨grown, full, hlast⟩, ?_⟩
  rw [hcalls]
  constructor
  · intro hall page hpage
    exact hall page (Nat.zero_le _) (by omega)
  · intro hall page _ hpage
    exact hall page (by omega)

/-- Ascending frames from 256 on. -/
theorem nth_ge (hsorted : queue.Pairwise (· < ·)) (hlow : ∀ frame ∈ queue, 256 ≤ frame.val)
    (hn : n < queue.length) : 256 + n ≤ queue[n].val := by
  induction n with
  | zero => exact hlow _ (List.getElem_mem hn)
  | succ n ih =>
      have hless : queue[n].val < queue[n + 1].val :=
        List.pairwise_iff_getElem.mp hsorted n (n + 1) (by omega) hn (by omega)
      have hprevious := ih (by omega)
      omega

/-- The page tables of a heap lie in the first 2 MiB exactly if one page table
is enough and fifteen frames are low. -/
theorem tables_low_iff (hsorted : queue.Pairwise (· < ·))
    (hlow : ∀ frame ∈ queue, 256 ≤ frame.val) {pages : Nat} (hpositive : 1 ≤ pages)
    (henough : framesUsed pages ≤ queue.length) :
    (∀ page < pages, (nthFrame queue (14 + 513 * (page / 512))).toNat < 0x200000) ↔
      pages ≤ 512 ∧ 15 ≤ (queue.filter (fun frame => frame.val < 512)).length := by
  have hused : framesUsed pages = 14 + pages + (pages - 1) / 512 := if_neg (by omega)
  have hfirst : 14 < queue.length := by omega
  have hbound {n : Nat} (hn : n < queue.length) :
      (nthFrame queue n).toNat < 0x200000 ↔ queue[n].val < 512 := by
    rw [nthFrame_toNat hn]
    omega
  constructor
  · intro hall
    constructor
    · by_contra hmany
      have hsecond : 527 < queue.length := by omega
      have htable := (hbound hsecond).mp (hall 512 (by omega))
      have hge := nth_ge hsorted hlow hsecond
      omega
    · exact (nth_lt_iff hsorted hfirst 512).mp ((hbound hfirst).mp (hall 0 (by omega)))
  · rintro ⟨hfew, hcount⟩ page hpage
    rw [show page / 512 = 0 by omega]
    exact (hbound hfirst).mpr ((nth_lt_iff hsorted hfirst 512).mpr hcount)

/-- What the boot needs to know of the linked addresses and the free frames. -/
theorem user_below {memoryMap : List MemoryMapEntry}
    {kernelStart kernelEnd userCodePhysical userStackPhysical : U64} {allocator : FrameAllocator}
    (hend : kernelEnd ≤ 0x200000#64)
    (hfree : ∀ frame : Frame, frame ∈ allocator.freeSet ↔
      UsableAfterBoot memoryMap kernelStart kernelEnd frame)
    (huser : UserLinked kernelEnd userCodePhysical userStackPhysical) :
    (∀ frame ∈ allocator.freeSet.sort (· ≤ ·), 256 ≤ frame.val) ∧
      userCodePhysical.toNat < 0x200000 ∧ userStackPhysical.toNat % 4096 = 0 ∧
      userStackPhysical.toNat + 16384 ≤ 0x200000 := by
  have hend' : kernelEnd.toNat ≤ 0x200000 := hend
  refine ⟨fun frame hframe => ?_, ?_, congrArg BitVec.toNat huser.stack_aligned, ?_⟩
  · exact ((hfree frame).mp ((Finset.mem_sort _).mp hframe)).2.1
  · exact lt_of_lt_of_le huser.code_high hend'
  · exact le_trans huser.stack_high hend'

/-- Page-table reachability. For every memory map, every kernel that ends within
the first 2 MiB and every heap size `initialize` accepts, with enough usable
memory: the address space of the boot is built, the heap is mapped, and all page
tables that the `map` calls of the heap dereference are mapped to themselves in
the active tree if and only if the heap has at most 512 pages and at least
fifteen usable frames lie below 2 MiB. -/
theorem page_tables_reachable_iff (memoryMap : List MemoryMapEntry)
    (kernelStart kernelEnd userCodePhysical userStackPhysical pages : U64)
    (allocator : FrameAllocator) (tables : U64 → PageTable)
    (hinit : initializeAllocator memoryMap kernelStart kernelEnd = some allocator)
    (horder : kernelStart < kernelEnd) (hend : kernelEnd ≤ 0x200000#64)
    (huser : UserLinked kernelEnd userCodePhysical userStackPhysical)
    (hpositive : 1 ≤ pages.toNat) (hpages : pages.toNat ≤ 4096)
    (henough : framesUsed pages.toNat ≤
      Set.ncard {frame : Frame | UsableAfterBoot memoryMap kernelStart kernelEnd frame}) :
    ∃ space booted heap final,
      exec (bootSpace userCodePhysical userStackPhysical) ⟨allocator, tables⟩ =
        some (.ok space, booted) ∧
      KernelHeap.new.initializeHeap space.pml4Phys booted pages = some (.ok (), heap, final) ∧
      ((∀ call ∈ KernelHeap.mapCalls space.pml4Phys pages.toNat heapStart booted,
          KernelHeap.TablesReachable space.pml4Phys call) ↔
        pages.toNat ≤ 512 ∧
          15 ≤ Set.ncard {frame : Frame |
            UsableAfterBoot memoryMap kernelStart kernelEnd frame ∧ frame.val < 512}) := by
  have hend' : kernelEnd.toNat ≤ 0x200000 := hend
  obtain ⟨other, hother, hfree⟩ := initializeAllocator_spec memoryMap
    (initializeAllocator_bases hinit) horder (by omega)
  obtain rfl : other = allocator := Option.some.inj (hother.symm.trans hinit)
  have hboot := initializeAllocator_booting hinit
  have hqueue := queued_sort hboot.consistent (initializeAllocator_nullReserved hinit)
  let memory : PhysicalMemory := ⟨other, tables⟩
  obtain ⟨hlow, hcode, haligned, hstack⟩ := user_below hend hfree huser
  have husable : {frame : Frame | UsableAfterBoot memoryMap kernelStart kernelEnd frame} =
      (other.freeSet : Set Frame) := by
    ext frame
    exact (hfree frame).symm
  have hbelow : {frame : Frame |
      UsableAfterBoot memoryMap kernelStart kernelEnd frame ∧ frame.val < 512} =
      {frame : Frame | frame ∈ other.freeSet.sort (· ≤ ·) ∧ frame.val < 512} := by
    ext frame
    simp only [Set.mem_ofPred_eq, Finset.mem_sort, hfree]
  rw [husable, Set.ncard_coe_finset, ← Finset.length_sort (· ≤ ·)] at henough
  obtain ⟨space, booted, heap, final, hexec, hheap, _, hcalls⟩ := heap_reachable_iff
    (show memory.allocator.Queued _ from hqueue) hboot.none_allocated hcode haligned hstack
    hpositive hpages henough
  refine ⟨space, booted, heap, final, hexec, hheap, ?_⟩
  rw [hcalls, hbelow, ncard_eq_filter hqueue.sorted]
  exact tables_low_iff hqueue.sorted hlow hpositive henough

theorem ncard_between {low high : Nat} (hlow : low < maxFrames) (hhigh : high < maxFrames) :
    Set.ncard {frame : Frame | low ≤ frame.val ∧ frame.val < high} = high - low := by
  have hset : {frame : Frame | low ≤ frame.val ∧ frame.val < high} =
      (Finset.Ico ⟨low, hlow⟩ ⟨high, hhigh⟩ : Finset Frame) := by
    ext frame
    simp [Fin.le_def, Fin.lt_def]
  rw [hset, Set.ncard_coe_finset, Fin.card_Ico]

/-- 16 MiB from 1 MiB on, with a kernel of 512 KiB. -/
theorem usable_sixteen (frame : Nat) :
    UsableAfterBoot [⟨0x100000#64, 0x1000000#64, 1#32, 1#32⟩] 0x100000#64 0x180000#64 frame ↔
      384 ≤ frame ∧ frame < 4352 := by
  rw [UsableAfterBoot, pageMeets_iff (by decide)]
  simp only [List.mem_singleton, exists_eq_left, MemoryMapEntry.Covers, true_and,
    BitVec.toNat_ofNat]
  omega

theorem userLinked_sixteen : UserLinked 0x180000#64 0x101000#64 0x110000#64 :=
  ⟨by decide, by decide, by decide⟩

theorem fifteen_low_sixteen : 15 ≤ Set.ncard {frame : Frame | UsableAfterBoot
    [⟨0x100000#64, 0x1000000#64, 1#32, 1#32⟩] 0x100000#64 0x180000#64 frame ∧
      frame.val < 512} := by
  have hframes : maxFrames = 1048576 := maxFrames_eq
  have hbelow : {frame : Frame | UsableAfterBoot [⟨0x100000#64, 0x1000000#64, 1#32, 1#32⟩]
      0x100000#64 0x180000#64 frame ∧ frame.val < 512} =
      {frame : Frame | 384 ≤ frame.val ∧ frame.val < 512} := by
    ext frame
    simp only [Set.mem_ofPred_eq, usable_sixteen]
    omega
  rw [hbelow, ncard_between (by omega) (by omega)]
  omega

/-- The four heap pages of the kernel's own boot test. -/
theorem page_tables_reachable_four_pages :
    ∃ allocator space booted heap final,
      initializeAllocator [⟨0x100000#64, 0x1000000#64, 1#32, 1#32⟩] 0x100000#64 0x180000#64 =
        some allocator ∧
      exec (bootSpace 0x101000#64 0x110000#64) ⟨allocator, fun _ _ => 0#64⟩ =
        some (.ok space, booted) ∧
      KernelHeap.new.initializeHeap space.pml4Phys booted 4#64 = some (.ok (), heap, final) ∧
      ∀ call ∈ KernelHeap.mapCalls space.pml4Phys 4 heapStart booted,
        KernelHeap.TablesReachable space.pml4Phys call := by
  have hframes : maxFrames = 1048576 := maxFrames_eq
  obtain ⟨allocator, hinit, _⟩ := initializeAllocator_spec
    [⟨0x100000#64, 0x1000000#64, 1#32, 1#32⟩] (by decide)
    (show (0x100000#64 : U64) < 0x180000#64 by decide) (by decide)
  obtain ⟨space, booted, heap, final, hexec, hheap, hcalls⟩ := page_tables_reachable_iff _ _
    0x180000#64 0x101000#64 0x110000#64 4#64 allocator (fun _ _ => 0#64) hinit (by decide)
    (by decide) userLinked_sixteen (by decide) (by decide) (by
      simp only [usable_sixteen]
      rw [ncard_between (by omega) (by omega)]
      decide)
  exact ⟨allocator, space, booted, heap, final, hinit, hexec, hheap,
    hcalls.mpr ⟨by decide, fifteen_low_sixteen⟩⟩

/-- A heap of 513 pages is accepted and mapped, but its second page table is
not reachable when `map` zeroes it. -/
theorem second_heap_table_unreachable :
    ∃ allocator space booted heap final,
      initializeAllocator [⟨0x100000#64, 0x1000000#64, 1#32, 1#32⟩] 0x100000#64 0x180000#64 =
        some allocator ∧
      exec (bootSpace 0x101000#64 0x110000#64) ⟨allocator, fun _ _ => 0#64⟩ =
        some (.ok space, booted) ∧
      KernelHeap.new.initializeHeap space.pml4Phys booted 513#64 = some (.ok (), heap, final) ∧
      ∃ call ∈ KernelHeap.mapCalls space.pml4Phys 513 heapStart booted,
        ¬ KernelHeap.TablesReachable space.pml4Phys call := by
  have hframes : maxFrames = 1048576 := maxFrames_eq
  obtain ⟨allocator, hinit, hfree⟩ := initializeAllocator_spec
    [⟨0x100000#64, 0x1000000#64, 1#32, 1#32⟩] (by decide)
    (show (0x100000#64 : U64) < 0x180000#64 by decide) (by decide)
  have hboot := initializeAllocator_booting hinit
  have hqueue := queued_sort hboot.consistent (initializeAllocator_nullReserved hinit)
  let memory : PhysicalMemory := ⟨allocator, fun _ _ => 0#64⟩
  obtain ⟨hlow, hcode, haligned, hstack⟩ := user_below (by decide) hfree userLinked_sixteen
  have hlength : (allocator.freeSet.sort (· ≤ ·)).length = 3968 := by
    have hset : (allocator.freeSet : Set Frame) =
        {frame : Frame | 384 ≤ frame.val ∧ frame.val < 4352} := by
      ext frame
      rw [Finset.mem_coe, hfree, usable_sixteen]
      rfl
    rw [Finset.length_sort, ← Set.ncard_coe_finset, hset, ncard_between (by omega) (by omega)]
  have henough : framesUsed (513#64 : U64).toNat ≤ (allocator.freeSet.sort (· ≤ ·)).length := by
    rw [hlength]
    decide
  obtain ⟨space, booted, heap, final, hexec, hheap, _, hcalls⟩ := heap_reachable_iff
    (show memory.allocator.Queued _ from hqueue) hboot.none_allocated hcode haligned hstack
    (by decide) (by decide) henough
  refine ⟨allocator, space, booted, heap, final, hinit, hexec, hheap, ?_⟩
  by_contra hnone
  push Not at hnone
  have hfew := ((tables_low_iff hqueue.sorted hlow (by decide) henough).mp (hcalls.mp hnone)).1
  exact absurd hfew (by decide)

end Boot

end UnboundOS.Memory
