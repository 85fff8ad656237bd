import UnboundOS.Memory.TableFrames

/-!
`memory/heap.rs`. `initialize` maps one frame after another behind the heap's
start address; when that fails it unmaps what it had mapped and gives the
frames back. Which page tables the `map` calls of one `initialize` touch is
read off a trace of these calls.
-/

namespace UnboundOS.Memory

open RadixForest PageTable FrameAllocator
open Fallible (exec)

def heapStart : U64 := 0x0000000040000000#64

def heapSize : U64 := 16#64 * 1024#64 * 1024#64

structure KernelHeap where
  start : U64
  size : U64
  mappedPages : U64
  initialized : Bool

namespace KernelHeap

def new : KernelHeap where
  start := heapStart
  size := heapSize
  mappedPages := 0#64
  initialized := false

/-- The loop of `rollback`. A page that cannot be unmapped is skipped. -/
def rollbackPages (pml4 : U64) : Nat → U64 → PhysicalMemory → Checked PhysicalMemory
  | 0, _, memory => some memory
  | pages + 1, virtualAddress, memory => do
      let (result, memory) ← exec (unmap pml4 virtualAddress) memory
      let memory :=
        match result with
        | .ok physicalAddress =>
            {memory with allocator := memory.allocator.freeFrame physicalAddress}
        | .error _ => memory
      let virtualAddress ← checkedAdd virtualAddress pageSize
      rollbackPages pml4 pages virtualAddress memory

def rollback (self : KernelHeap) (pml4 : U64) (memory : PhysicalMemory) (pages : U64) :
    Checked (KernelHeap × PhysicalMemory) := do
  let memory ← rollbackPages pml4 pages.toNat self.start memory
  some ({self with mappedPages := 0#64, initialized := false}, memory)

/-- The loop of `initialize`, with the number of pages still to map. -/
def mapPages (self : KernelHeap) (pml4 : U64) : Nat → U64 → U64 → PhysicalMemory →
    Checked (Except String Unit × KernelHeap × PhysicalMemory)
  | 0, _, mappedPages, memory =>
      some (.ok (), {self with mappedPages, initialized := true}, memory)
  | pages + 1, virtualAddress, mappedPages, memory => do
      let (frame, allocator) ← memory.allocator.allocateFrame
      let memory := {memory with allocator}
      match frame with
      | none => do
          let (self, memory) ← self.rollback pml4 memory mappedPages
          some (.error "out of physical memory for kernel heap", self, memory)
      | some physicalAddress => do
          let (result, memory) ←
            exec (map pml4 virtualAddress physicalAddress true false) memory
          match result with
          | .ok () => do
              let mappedPages ← checkedAdd mappedPages 1#64
              let virtualAddress ← checkedAdd virtualAddress pageSize
              self.mapPages pml4 pages virtualAddress mappedPages memory
          | .error error => do
              let memory := {memory with allocator := memory.allocator.freeFrame physicalAddress}
              let (self, memory) ← self.rollback pml4 memory mappedPages
              some (.error error, self, memory)

def initializeHeap (self : KernelHeap) (pml4 : U64) (memory : PhysicalMemory) (pages : U64) :
    Checked (Except String Unit × KernelHeap × PhysicalMemory) :=
  if self.initialized then some (.error "kernel heap already initialized", self, memory)
  else if pages = 0#64 then some (.error "kernel heap page count is zero", self, memory)
  else if 2 ^ 64 ≤ pages.toNat * pageSize.toNat then
    some (.error "kernel heap size overflow", self, memory)
  else if self.size < pages * pageSize then
    some (.error "kernel heap exceeds configured size", self, memory)
  else self.mapPages pml4 pages.toNat self.start 0#64 memory

/-- The data frame of one iteration of that loop, with the memory its `map`
call starts from. -/
def frameTaken (memory : PhysicalMemory) : Option (U64 × PhysicalMemory) := do
  let (frame, allocator) ← memory.allocator.allocateFrame
  let physicalAddress ← frame
  some (physicalAddress, {memory with allocator})

/-- Where the loop goes on after that call, if the call succeeds. -/
def pageMapped (pml4 virtualAddress physicalAddress : U64) (memory : PhysicalMemory) :
    Option (U64 × PhysicalMemory) := do
  let (result, mapped) ← exec (map pml4 virtualAddress physicalAddress true false) memory
  match result with
  | .ok () => do
      let next ← checkedAdd virtualAddress pageSize
      some (next, mapped)
  | .error _ => none

/-- The `map` calls of the loop: the memory each one starts from and the page it
maps. -/
def mapCalls (pml4 : U64) : Nat → U64 → PhysicalMemory → List (PhysicalMemory × U64)
  | 0, _, _ => []
  | pages + 1, virtualAddress, memory =>
      (frameTaken memory).elim [] fun (physicalAddress, taken) =>
        (taken, virtualAddress) ::
          (pageMapped pml4 virtualAddress physicalAddress taken).elim [] fun (next, mapped) =>
            mapCalls pml4 pages next mapped

/-- The data frames the loop takes. -/
def dataFrames (pml4 : U64) : Nat → U64 → PhysicalMemory → List U64
  | 0, _, _ => []
  | pages + 1, virtualAddress, memory =>
      (frameTaken memory).elim [] fun (physicalAddress, taken) =>
        physicalAddress ::
          (pageMapped pml4 virtualAddress physicalAddress taken).elim [] fun (next, mapped) =>
            dataFrames pml4 pages next mapped

/-- The checks `initialize` makes before it maps anything. -/
structure Accepts (heap : KernelHeap) (pages : U64) : Prop where
  uninitialized : heap.initialized = false
  nonzero : pages ≠ 0#64
  no_overflow : pages.toNat * pageSize.toNat < 2 ^ 64
  fits : pages * pageSize ≤ heap.size

instance (heap : KernelHeap) (pages : U64) : Decidable (heap.Accepts pages) :=
  decidable_of_iff (heap.initialized = false ∧ pages ≠ 0#64 ∧
      pages.toNat * pageSize.toNat < 2 ^ 64 ∧ pages * pageSize ≤ heap.size)
    ⟨fun ⟨huninitialized, hnonzero, hoverflow, hfits⟩ =>
      ⟨huninitialized, hnonzero, hoverflow, hfits⟩,
      fun haccepts => ⟨haccepts.uninitialized, haccepts.nonzero, haccepts.no_overflow,
        haccepts.fits⟩⟩

theorem initializeHeap_accepted {self : KernelHeap} {pages : U64} (haccepts : self.Accepts pages)
    (pml4 : U64) (memory : PhysicalMemory) :
    self.initializeHeap pml4 memory pages =
      self.mapPages pml4 pages.toNat self.start 0#64 memory := by
  rw [initializeHeap, if_neg (by simp [haccepts.uninitialized]), if_neg haccepts.nonzero,
    if_neg (Nat.not_le.mpr haccepts.no_overflow), if_neg (BitVec.not_lt.mpr haccepts.fits)]

theorem initializeHeap_rejected {self : KernelHeap} {pages : U64} (hrejects : ¬ self.Accepts pages)
    (pml4 : U64) (memory : PhysicalMemory) :
    ∃ message, self.initializeHeap pml4 memory pages = some (.error message, self, memory) := by
  rw [initializeHeap]
  split
  · exact ⟨_, rfl⟩
  next hinitialized =>
    split
    · exact ⟨_, rfl⟩
    next hnonzero =>
      split
      · exact ⟨_, rfl⟩
      next hoverflow =>
        split
        · exact ⟨_, rfl⟩
        next hsize =>
          exact absurd ⟨Bool.eq_false_iff.mpr hinitialized, hnonzero, Nat.not_le.mp hoverflow,
            BitVec.not_lt.mp hsize⟩ hrejects

theorem new_accepts_iff (pages : U64) :
    new.Accepts pages ↔ 1 ≤ pages.toNat ∧ pages.toNat ≤ 4096 := by
  have hsize : pageSize.toNat = 4096 := rfl
  have hheap : new.size.toNat = 0x1000000 := rfl
  have hzero : pages = 0#64 ↔ pages.toNat = 0 := by rw [← BitVec.toNat_inj, BitVec.toNat_ofNat]
  have hproduct : (pages * pageSize).toNat = pages.toNat * 4096 % 2 ^ 64 := by
    rw [BitVec.toNat_mul, hsize]
  constructor
  · rintro ⟨_, hnonzero, hoverflow, hfits⟩
    rw [ne_eq, hzero] at hnonzero
    rw [hsize] at hoverflow
    rw [BitVec.le_def, hproduct, hheap] at hfits
    omega
  · rintro ⟨hpositive, hbound⟩
    refine ⟨rfl, by rw [ne_eq, hzero]; omega, by rw [hsize]; omega, ?_⟩
    rw [BitVec.le_def, hproduct, hheap]
    omega

/-- The data frames an `initialize` call takes, whether it succeeds or not. -/
def framesTaken (self : KernelHeap) (pml4 : U64) (memory : PhysicalMemory) (pages : U64) :
    List U64 :=
  if self.Accepts pages then dataFrames pml4 pages.toNat self.start memory else []

section Iteration

variable {pml4 virtualAddress physicalAddress next : U64} {memory mapped final : PhysicalMemory}
  {allocator : FrameAllocator}

theorem rollback_eq (self : KernelHeap) {pages : U64}
    (hpages : rollbackPages pml4 pages.toNat self.start memory = some final) :
    self.rollback pml4 memory pages =
      some ({self with mappedPages := 0#64, initialized := false}, final) := by
  rw [rollback, hpages]
  rfl

/-- No frame is left for the data of a page. -/
theorem mapPages_exhausted (self : KernelHeap) {mappedPages : U64}
    (halloc : memory.allocator.allocateFrame = some (none, memory.allocator))
    (hundo : rollbackPages pml4 mappedPages.toNat self.start memory = some final) (pages : Nat) :
    self.mapPages pml4 (pages + 1) virtualAddress mappedPages memory =
      some (.error "out of physical memory for kernel heap",
        {self with mappedPages := 0#64, initialized := false}, final) := by
  rw [mapPages, halloc]
  simp only [Option.bind_eq_bind, Option.bind_some, rollback_eq self hundo]

/-- A page cannot be mapped: its data frame goes back before the rollback. -/
theorem mapPages_refused (self : KernelHeap) {mappedPages : U64} {message : String}
    (halloc : memory.allocator.allocateFrame = some (some physicalAddress, allocator))
    (hexec : exec (map pml4 virtualAddress physicalAddress true false)
      ⟨allocator, memory.tables⟩ = some (.error message, mapped))
    (hundo : rollbackPages pml4 mappedPages.toNat self.start
      ⟨mapped.allocator.freeFrame physicalAddress, mapped.tables⟩ = some final) (pages : Nat) :
    self.mapPages pml4 (pages + 1) virtualAddress mappedPages memory =
      some (.error message, {self with mappedPages := 0#64, initialized := false}, final) := by
  rw [mapPages, halloc]
  simp only [Option.bind_eq_bind, Option.bind_some, hexec, rollback_eq self hundo]

/-- One iteration that succeeds. -/
theorem mapPages_succ (self : KernelHeap) {mappedPages count : U64}
    (halloc : memory.allocator.allocateFrame = some (some physicalAddress, allocator))
    (hexec : exec (map pml4 virtualAddress physicalAddress true false)
      ⟨allocator, memory.tables⟩ = some (.ok (), mapped))
    (hcount : checkedAdd mappedPages 1#64 = some count)
    (hnext : checkedAdd virtualAddress pageSize = some next) (pages : Nat) :
    self.mapPages pml4 (pages + 1) virtualAddress mappedPages memory =
      self.mapPages pml4 pages next count mapped := by
  rw [mapPages, halloc]
  simp only [Option.bind_eq_bind, Option.bind_some, hexec, hcount, hnext]

theorem frameTaken_eq
    (halloc : memory.allocator.allocateFrame = some (some physicalAddress, allocator)) :
    frameTaken memory = some (physicalAddress, ⟨allocator, memory.tables⟩) := by
  rw [frameTaken, halloc]
  rfl

theorem pageMapped_eq
    (hexec : exec (map pml4 virtualAddress physicalAddress true false) memory =
      some (.ok (), mapped))
    (hnext : checkedAdd virtualAddress pageSize = some next) :
    pageMapped pml4 virtualAddress physicalAddress memory = some (next, mapped) := by
  rw [pageMapped, hexec]
  simp only [Option.bind_eq_bind, Option.bind_some, hnext]

/-- A loop that succeeds has mapped its first page. -/
theorem mapPages_ok {self heap : KernelHeap} {pages : Nat} {mappedPages : U64}
    (hpages : self.mapPages pml4 (pages + 1) virtualAddress mappedPages memory =
      some (.ok (), heap, final)) :
    ∃ physicalAddress taken mapped next count,
      frameTaken memory = some (physicalAddress, taken) ∧
      exec (map pml4 virtualAddress physicalAddress true false) taken = some (.ok (), mapped) ∧
      checkedAdd virtualAddress pageSize = some next ∧
      self.mapPages pml4 pages next count mapped = some (.ok (), heap, final) := by
  rw [mapPages] at hpages
  obtain ⟨⟨frame, allocator⟩, halloc, hpages⟩ := Option.bind_eq_some_iff.mp hpages
  cases frame with
  | none =>
      obtain ⟨_, _, hfail⟩ := Option.bind_eq_some_iff.mp hpages
      cases hfail
  | some physicalAddress =>
      obtain ⟨⟨result, mapped⟩, hmap, hpages⟩ := Option.bind_eq_some_iff.mp hpages
      cases result with
      | error message =>
          obtain ⟨_, _, hfail⟩ := Option.bind_eq_some_iff.mp hpages
          cases hfail
      | ok value =>
          obtain ⟨count, _, hpages⟩ := Option.bind_eq_some_iff.mp hpages
          obtain ⟨next, hnext, hrest⟩ := Option.bind_eq_some_iff.mp hpages
          exact ⟨physicalAddress, _, mapped, next, count, frameTaken_eq halloc, hmap, hnext, hrest⟩

theorem mapCalls_succ
    (halloc : memory.allocator.allocateFrame = some (some physicalAddress, allocator))
    (hexec : exec (map pml4 virtualAddress physicalAddress true false)
      ⟨allocator, memory.tables⟩ = some (.ok (), mapped))
    (hnext : checkedAdd virtualAddress pageSize = some next) (pages : Nat) :
    mapCalls pml4 (pages + 1) virtualAddress memory =
      (⟨allocator, memory.tables⟩, virtualAddress) :: mapCalls pml4 pages next mapped := by
  rw [mapCalls, frameTaken_eq halloc]
  simp only [Option.elim_some, pageMapped_eq hexec hnext]

theorem dataFrames_succ
    (halloc : memory.allocator.allocateFrame = some (some physicalAddress, allocator))
    (hexec : exec (map pml4 virtualAddress physicalAddress true false)
      ⟨allocator, memory.tables⟩ = some (.ok (), mapped))
    (hnext : checkedAdd virtualAddress pageSize = some next) (pages : Nat) :
    dataFrames pml4 (pages + 1) virtualAddress memory =
      physicalAddress :: dataFrames pml4 pages next mapped := by
  rw [dataFrames, frameTaken_eq halloc]
  simp only [Option.elim_some, pageMapped_eq hexec hnext]

theorem dataFrames_exhausted
    (halloc : memory.allocator.allocateFrame = some (none, memory.allocator)) (pages : Nat) :
    dataFrames pml4 (pages + 1) virtualAddress memory = [] := by
  have hnone : frameTaken memory = none := by
    rw [frameTaken, halloc]
    rfl
  rw [dataFrames, hnone]
  rfl

theorem dataFrames_refused {message : String}
    (halloc : memory.allocator.allocateFrame = some (some physicalAddress, allocator))
    (hexec : exec (map pml4 virtualAddress physicalAddress true false)
      ⟨allocator, memory.tables⟩ = some (.error message, mapped)) (pages : Nat) :
    dataFrames pml4 (pages + 1) virtualAddress memory = [physicalAddress] := by
  have hnone : pageMapped pml4 virtualAddress physicalAddress ⟨allocator, memory.tables⟩ =
      none := by
    rw [pageMapped, hexec]
    rfl
  rw [dataFrames, frameTaken_eq halloc]
  simp only [Option.elim_some, hnone, Option.elim_none]

end Iteration

/-- Every page table that a `map` call dereferences is mapped to itself in the
tree it starts from. -/
def TablesReachable (pml4 : U64) (call : PhysicalMemory × U64) : Prop :=
  ∀ table ∈ touched true false pml4 (pagePath call.2) call.1,
    translate call.1.tables pml4 table = some (some table)

end KernelHeap

/-- The address of the `n`-th frame of a queue. -/
def nthFrame (queue : List Frame) (n : Nat) : U64 :=
  (queue[n]?.map frameAddress).getD 0#64

section Queue

variable {queue : List Frame} {n m : Nat}

theorem nthFrame_eq (hn : n < queue.length) : nthFrame queue n = frameAddress queue[n] := by
  rw [nthFrame, List.getElem?_eq_getElem hn]
  rfl

theorem nthFrame_toNat (hn : n < queue.length) :
    (nthFrame queue n).toNat = 4096 * queue[n].val := by
  rw [nthFrame_eq hn, frameAddress_toNat]

theorem nthFrame_lt (hsorted : queue.Pairwise (· < ·)) (hless : n < m) (hm : m < queue.length) :
    (nthFrame queue n).toNat < (nthFrame queue m).toNat := by
  have hn : n < queue.length := hless.trans hm
  have hframe : queue[n] < queue[m] := List.pairwise_iff_getElem.mp hsorted n m hn hm hless
  have hval : queue[n].val < queue[m].val := hframe
  rw [nthFrame_toNat hn, nthFrame_toNat hm]
  omega

theorem nthFrame_ne (hsorted : queue.Pairwise (· < ·)) (hne : n ≠ m) (hn : n < queue.length)
    (hm : m < queue.length) : nthFrame queue n ≠ nthFrame queue m := by
  intro hsame
  have hnat := congrArg BitVec.toNat hsame
  rcases Nat.lt_or_gt_of_ne hne with hless | hless
  · exact (nthFrame_lt hsorted hless hm).ne hnat
  · exact (nthFrame_lt hsorted hless hn).ne hnat.symm

theorem nthFrame_addressable (hn : n < queue.length) : Addressable (nthFrame queue n) := by
  rw [nthFrame_eq hn]
  exact addressable_frameAddress _

theorem nthFrame_low (hn : n < queue.length) :
    (nthFrame queue n).toNat < 2 ^ 32 ∧ (nthFrame queue n).toNat % 4096 = 0 := by
  have hbound := lt_of_lt_of_eq queue[n].isLt maxFrames_eq
  rw [nthFrame_toNat hn]
  omega

/-- A missing table comes from the front of the queue. -/
theorem Growth.reach_nth {growth : Growth} {path : List (Fin 512)}
    (htable : growth.table path = none) (hframes : growth.frames = queue.drop n)
    (hn : n < queue.length) :
    growth.reach path =
      ⟨Function.update growth.table path (some (nthFrame queue n)), queue.drop (n + 1)⟩ := by
  rw [List.drop_eq_getElem_cons hn] at hframes
  rw [Growth.reach_of_none htable hframes, nthFrame_eq hn]

theorem Growth.ready_nth {growth : Growth} {path : List (Fin 512)}
    (hframes : growth.frames = queue.drop n) (hn : n < queue.length) : growth.Ready path := by
  intro _ hnil
  rw [hframes, List.drop_eq_nil_iff] at hnil
  omega

end Queue

/-- A frame handed out for data leaves the tree and the pages alone. -/
theorem Built.handOut {memory : PhysicalMemory} {space : AddressSpace} {growth : Growth}
    {pages : U64 → Option Mapping} (hbuilt : Built memory space growth pages)
    {frame : Frame} {rest : List Frame} (hframes : growth.frames = frame :: rest) :
    memory.allocator.allocateFrame =
        some (some (frameAddress frame), memory.allocator.handOut frame) ∧
      Built ⟨memory.allocator.handOut frame, memory.tables⟩ space ⟨growth.table, rest⟩ pages := by
  have hqueue : memory.allocator.Queued (frame :: rest) := hframes ▸ hbuilt.grown.queued
  have hsafe := handOut_safe hbuilt.grown.safe ((hqueue.free frame).mpr List.mem_cons_self)
  exact ⟨hqueue.allocateFrame, ⟨hsafe, hqueue.handOut, hbuilt.grown.tables⟩,
    hsafe, rfl, hbuilt.maps.leaves, hbuilt.maps.addressable⟩

/-- Frames taken from the queue once `pages` heap pages are mapped. Twelve are
gone before the heap; the first page also takes a page directory and a page
table, and every 512 pages take one more page table. -/
def framesUsed (pages : Nat) : Nat :=
  if pages = 0 then 12 else 14 + pages + (pages - 1) / 512

/-- The boot address space while the heap is being mapped, with `count` heap
pages done and all frames taken from `queue`. -/
structure HeapStage (queue : List Frame) (space : AddressSpace) (count : Nat)
    (memory : PhysicalMemory) (growth : Growth) (pages : U64 → Option Mapping) : Prop where
  built : Built memory space growth pages
  sorted : queue.Pairwise (· < ·)
  root : space.pml4Phys = nthFrame queue 6
  frames : growth.frames = queue.drop (framesUsed count)
  pdpt : growth.table [0] = some (nthFrame queue 7)
  pd : growth.table [0, 1] = if count = 0 then none else some (nthFrame queue 13)
  pt : ∀ index : Fin 512, growth.table [0, 1, index] =
    if 512 * index.val < count then some (nthFrame queue (14 + 513 * index.val)) else none
  early : ∀ path table, growth.table path = some table → path.take 2 ≠ [0, 1] →
    ∃ n < 12, table = nthFrame queue n
  identity : ∀ page : U64, page.toNat < 0x200000 → page.toNat % 4096 = 0 →
    (pages page).map (·.physicalAddress) = some page
  above : ∀ page mapping, 0x200000 ≤ page.toNat → pages page = some mapping →
    mapping.physicalAddress.toNat < 0x200000 ∨
      ∃ earlier < count, mapping.physicalAddress = nthFrame queue (framesUsed earlier)
  unmapped : ∀ page : U64, heapStart.toNat + 4096 * count ≤ page.toNat → pages page = none

namespace HeapStage

variable {queue : List Frame} {space : AddressSpace} {count n : Nat} {memory : PhysicalMemory}
  {growth : Growth} {pages : U64 → Option Mapping}

/-- A frame of the queue that holds no heap data is reachable exactly if it lies
in the first 2 MiB: above, an address is unmapped, or mapped to the kernel, or
mapped to heap data. -/
theorem translate_iff (hstage : HeapStage queue space count memory growth pages)
    (hn : n < queue.length) (hdata : ∀ earlier < count, framesUsed earlier ≠ n)
    (hcount : framesUsed count ≤ queue.length) :
    translate memory.tables space.pml4Phys (nthFrame queue n) = some (some (nthFrame queue n)) ↔
      (nthFrame queue n).toNat < 0x200000 := by
  obtain ⟨hlow, haligned⟩ := nthFrame_low hn
  have hargs := mappable_low hlow haligned (nthFrame_addressable hn)
  rw [hstage.built.maps.translate_page hargs.canonical hargs.aligned, Option.some.injEq]
  constructor
  · intro hsame
    by_contra habove
    obtain ⟨mapping, hmapping, hphysical⟩ := Option.map_eq_some_iff.mp hsame
    rcases hstage.above _ mapping (not_lt.mp habove) hmapping with hkernel | ⟨earlier, hless, heq⟩
    · rw [hphysical] at hkernel
      exact habove hkernel
    · have hused : framesUsed earlier < queue.length := by
        refine lt_of_lt_of_le ?_ hcount
        simp only [framesUsed]
        split <;> split <;> omega
      rw [hphysical] at heq
      exact nthFrame_ne hstage.sorted (hdata earlier hless) hused hn heq.symm
  · intro hless
    exact hstage.identity _ hless haligned

/-- Below 512 pages the tree has its tables in the first fifteen frames. -/
theorem node_early (hstage : HeapStage queue space count memory growth pages)
    (hcount : count ≤ 512) {table : U64}
    (hnode : Node entryTarget 3 {space.pml4Phys} memory.tables table) :
    ∃ n ≤ 14, table = nthFrame queue n := by
  obtain ⟨_, rfl, path, hdepth, hwalk⟩ := hnode
  rw [hstage.built.grown.tables path hdepth] at hwalk
  by_cases hheap : path.take 2 = [0, 1]
  · have hcases : path = [0, 1] ∨ ∃ index, path = [0, 1, index] := by
      rw [← List.take_append_drop 2 path, hheap]
      have hlast : (path.drop 2).length ≤ 1 := by
        rw [List.length_drop]
        omega
      match path.drop 2, hlast with
      | [], _ => exact Or.inl rfl
      | [index], _ => exact Or.inr ⟨index, rfl⟩
    rcases hcases with rfl | ⟨index, rfl⟩
    · rw [hstage.pd] at hwalk
      exact ⟨13, by omega, (Option.some.inj (Option.ite_none_left_eq_some.mp hwalk).2).symm⟩
    · rw [hstage.pt] at hwalk
      obtain ⟨hindex, htable⟩ := Option.ite_none_right_eq_some.mp hwalk
      rw [show index.val = 0 by omega] at htable
      exact ⟨14, le_rfl, (Option.some.inj htable).symm⟩
  · obtain ⟨n, hn, htable⟩ := hstage.early path table hwalk hheap
    exact ⟨n, by omega, htable⟩

theorem framesUsed_le (hless : n < count) : framesUsed n + 1 ≤ framesUsed count := by
  simp only [framesUsed]
  split <;> split <;> omega

end HeapStage

/-- The address of a heap page. -/
def heapPage (page : Nat) : U64 :=
  heapStart + BitVec.ofNat 64 (4096 * page)

theorem heapPage_toNat {page : Nat} (hpage : page ≤ 4096) :
    (heapPage page).toNat = 0x40000000 + 4096 * page := by
  have hstart : heapStart.toNat = 0x40000000 := rfl
  rw [heapPage, BitVec.toNat_add, BitVec.toNat_ofNat, hstart]
  omega

theorem heapPage_succ {page : Nat} (hpage : page < 4096) :
    checkedAdd (heapPage page) pageSize = some (heapPage (page + 1)) := by
  have hsize : pageSize.toNat = 4096 := rfl
  have hnat := heapPage_toNat hpage.le
  rw [checkedAdd_eq_some (by omega), Option.some.injEq, ← BitVec.toNat_inj, BitVec.toNat_add,
    hnat, hsize, heapPage_toNat hpage]
  omega

/-- The page tables of the heap are entries of the second page directory. -/
theorem pagePath_heapPage {page : Nat} (hpage : page < 4096) :
    pagePath (heapPage page) = [0, 1, Fin.ofNat 512 (page / 512)] := by
  apply pagePath_low
  rw [heapPage_toNat hpage.le, Fin.val_one, Fin.val_ofNat]
  omega

theorem pdptPath_heapPage {page : Nat} (hpage : page < 4096) :
    Growth.pdptPath (heapPage page) = [0] :=
  congrArg (List.take 1) (pagePath_heapPage hpage)

theorem pdPath_heapPage {page : Nat} (hpage : page < 4096) :
    Growth.pdPath (heapPage page) = [0, 1] :=
  congrArg (List.take 2) (pagePath_heapPage hpage)

theorem heapTable_val {page : Nat} (hpage : page < 4096) :
    (Fin.ofNat 512 (page / 512)).val = page / 512 := by
  rw [Fin.val_ofNat]
  omega

namespace HeapStage

variable {queue : List Frame} {space : AddressSpace} {count n : Nat} {memory : PhysicalMemory}
  {growth : Growth} {pages : U64 → Option Mapping}

/-- The tree once the data frame of the next page has been taken. -/
abbrev dataTaken (queue : List Frame) (count : Nat) (growth : Growth) : Growth :=
  ⟨growth.table, queue.drop (framesUsed count + 1)⟩

/-- The tree with the next page mapped. -/
structure Extended (queue : List Frame) (count : Nat) (growth : Growth) : Prop where
  ready : (dataTaken queue count growth).ReadyFor (heapPage count)
  frames : ((dataTaken queue count growth).reachPage (heapPage count)).frames =
    queue.drop (framesUsed (count + 1))
  pdpt : ((dataTaken queue count growth).reachPage (heapPage count)).table [0] =
    some (nthFrame queue 7)
  pd : ((dataTaken queue count growth).reachPage (heapPage count)).table [0, 1] =
    some (nthFrame queue 13)
  pt : ∀ index : Fin 512,
    ((dataTaken queue count growth).reachPage (heapPage count)).table [0, 1, index] =
      if 512 * index.val < count + 1 then some (nthFrame queue (14 + 513 * index.val)) else none

/-- The page table of a page that starts a new block of 512. -/
theorem update_pt {table : List (Fin 512) → Option U64} (hcount : count < 4096)
    (hstart : count % 512 = 0)
    (hpt : ∀ index : Fin 512, table [0, 1, index] =
      if 512 * index.val < count then some (nthFrame queue (14 + 513 * index.val)) else none)
    (index : Fin 512) :
    Function.update table [0, 1, Fin.ofNat 512 (count / 512)]
        (some (nthFrame queue (14 + 513 * (count / 512)))) [0, 1, index] =
      if 512 * index.val < count + 1 then some (nthFrame queue (14 + 513 * index.val))
      else none := by
  have hval := heapTable_val hcount
  by_cases hnew : index = Fin.ofNat 512 (count / 512)
  · rw [hnew, Function.update_self, hval, if_pos (by omega)]
  · have hne : index.val ≠ count / 512 := fun h => hnew (Fin.ext (h.trans hval.symm))
    rw [Function.update_of_ne (by simpa using hnew), hpt index]
    exact if_congr (by omega) rfl rfl

/-- The first page: page directory and page table are missing. -/
theorem extended_first (hstage : HeapStage queue space 0 memory growth pages)
    (hroom : framesUsed 1 ≤ queue.length) : Extended queue 0 growth := by
  have hlength : 15 ≤ queue.length := hroom
  have hused : framesUsed 0 = 12 := rfl
  have hpath := pagePath_heapPage (show 0 < 4096 by omega)
  have hpdptPath := pdptPath_heapPage (show 0 < 4096 by omega)
  have hpdPath := pdPath_heapPage (show 0 < 4096 by omega)
  have hpdpt : (dataTaken queue 0 growth).table [0] = some (nthFrame queue 7) := hstage.pdpt
  have hpd : (dataTaken queue 0 growth).table [0, 1] = none := hstage.pd
  have hreach := Growth.reach_nth (n := 13) hpd rfl (by omega)
  have hpt : Function.update (dataTaken queue 0 growth).table [0, 1]
      (some (nthFrame queue 13)) [0, 1, Fin.ofNat 512 (0 / 512)] = none := by
    rw [Function.update_of_ne (by simp)]
    exact hstage.pt _
  have hgrowth : (dataTaken queue 0 growth).reachPage (heapPage 0) =
      ⟨Function.update (Function.update growth.table [0, 1] (some (nthFrame queue 13)))
        [0, 1, Fin.ofNat 512 (0 / 512)] (some (nthFrame queue 14)), queue.drop 15⟩ := by
    rw [Growth.reachPage, hpdptPath, hpdPath, hpath, Growth.reach_of_some hpdpt, hreach]
    exact Growth.reach_nth hpt rfl (by omega)
  refine ⟨⟨?_, ?_, ?_⟩, ?_, ?_, ?_, ?_⟩
  · exact Growth.ready_nth rfl (by omega)
  · rw [hpdptPath, Growth.reach_of_some hpdpt]
    exact Growth.ready_nth rfl (by omega)
  · rw [hpdptPath, hpdPath, Growth.reach_of_some hpdpt, hreach]
    exact Growth.ready_nth rfl (by omega)
  · rw [hgrowth]
    rfl
  · rw [hgrowth]
    simpa using hpdpt
  · rw [hgrowth]
    simp
  · intro index
    rw [hgrowth]
    apply update_pt (by omega) rfl
    intro other
    rw [Function.update_of_ne (by simp)]
    exact hstage.pt other

/-- A later page that starts a block of 512: only the page table is missing. -/
theorem extended_block (hstage : HeapStage queue space count memory growth pages)
    (hpos : 0 < count) (hcount : count < 4096) (hstart : count % 512 = 0)
    (hroom : framesUsed (count + 1) ≤ queue.length) : Extended queue count growth := by
  have hpath := pagePath_heapPage hcount
  have hpdptPath := pdptPath_heapPage hcount
  have hpdPath := pdPath_heapPage hcount
  have hused : framesUsed count = 14 + count + (count - 1) / 512 := if_neg hpos.ne'
  have husedNext : framesUsed (count + 1) = 14 + (count + 1) + count / 512 := rfl
  have hpdpt : (dataTaken queue count growth).table [0] = some (nthFrame queue 7) := hstage.pdpt
  have hpd : (dataTaken queue count growth).table [0, 1] = some (nthFrame queue 13) :=
    hstage.pd.trans (if_neg hpos.ne')
  have hpt : (dataTaken queue count growth).table [0, 1, Fin.ofNat 512 (count / 512)] = none := by
    apply (hstage.pt _).trans
    rw [heapTable_val hcount, if_neg (by omega)]
  have hindex : framesUsed count + 1 = 14 + 513 * (count / 512) := by omega
  have hgrowth : (dataTaken queue count growth).reachPage (heapPage count) =
      ⟨Function.update growth.table [0, 1, Fin.ofNat 512 (count / 512)]
        (some (nthFrame queue (14 + 513 * (count / 512)))),
        queue.drop (framesUsed count + 1 + 1)⟩ := by
    rw [Growth.reachPage, hpdptPath, hpdPath, hpath, Growth.reach_of_some hpdpt,
      Growth.reach_of_some hpd, Growth.reach_nth hpt rfl (by omega), hindex]
  refine ⟨⟨?_, ?_, ?_⟩, ?_, ?_, ?_, ?_⟩
  · exact Growth.ready_nth rfl (by omega)
  · rw [hpdptPath, Growth.reach_of_some hpdpt]
    exact Growth.ready_nth rfl (by omega)
  · rw [hpdptPath, hpdPath, Growth.reach_of_some hpdpt, Growth.reach_of_some hpd]
    exact Growth.ready_nth rfl (by omega)
  · rw [hgrowth, show framesUsed count + 1 + 1 = framesUsed (count + 1) by omega]
  · rw [hgrowth]
    simpa using hpdpt
  · rw [hgrowth]
    simpa using hpd
  · intro index
    rw [hgrowth]
    exact update_pt hcount hstart hstage.pt index

/-- A page within a block: all its tables exist. -/
theorem extended_within (hstage : HeapStage queue space count memory growth pages)
    (hcount : count < 4096) (hstart : count % 512 ≠ 0) : Extended queue count growth := by
  have hpos : 0 < count := by omega
  have hused : framesUsed count = 14 + count + (count - 1) / 512 := if_neg hpos.ne'
  have husedNext : framesUsed (count + 1) = 14 + (count + 1) + count / 512 := rfl
  have hpd : (dataTaken queue count growth).table [0, 1] = some (nthFrame queue 13) :=
    hstage.pd.trans (if_neg hpos.ne')
  have hcomplete : (dataTaken queue count growth).Complete (heapPage count)
      (nthFrame queue 7) (nthFrame queue 13) (nthFrame queue (14 + 513 * (count / 512))) := by
    constructor
    · rw [pdptPath_heapPage hcount]
      exact hstage.pdpt
    · rw [pdPath_heapPage hcount, hpd]
    · rw [pagePath_heapPage hcount]
      apply (hstage.pt _).trans
      rw [heapTable_val hcount, if_pos (by omega)]
  refine ⟨hcomplete.readyFor, ?_, ?_, ?_, ?_⟩
  · rw [hcomplete.reachPage_eq, show framesUsed (count + 1) = framesUsed count + 1 by omega]
  · rw [hcomplete.reachPage_eq]
    exact hstage.pdpt
  · rw [hcomplete.reachPage_eq, hpd]
  · intro index
    rw [hcomplete.reachPage_eq]
    apply (hstage.pt index).trans
    exact if_congr (by omega) rfl rfl

theorem extended (hstage : HeapStage queue space count memory growth pages) (hcount : count < 4096)
    (hroom : framesUsed (count + 1) ≤ queue.length) : Extended queue count growth := by
  by_cases hstart : count % 512 = 0
  · rcases Nat.eq_zero_or_pos count with rfl | hpos
    · exact hstage.extended_first hroom
    · exact hstage.extended_block hpos hcount hstart hroom
  · exact hstage.extended_within hcount hstart

theorem framesUsed_ne_table (page earlier : Nat) :
    framesUsed earlier ≠ 14 + 513 * (page / 512) := by
  simp only [framesUsed]
  split <;> omega

theorem framesUsed_ne_early (earlier : Nat) (hn : n < 12 ∨ n = 13) : framesUsed earlier ≠ n := by
  simp only [framesUsed]
  split <;> omega

/-- The tables on the way to a heap page are reachable exactly if its page
table lies in the first 2 MiB: the others were taken before it. -/
theorem touched_reachable_iff (hstage : HeapStage queue space count memory growth pages)
    (hroom : framesUsed (count + 1) ≤ queue.length) :
    (∀ table ∈ [space.pml4Phys, nthFrame queue 7, nthFrame queue 13,
        nthFrame queue (14 + 513 * (count / 512))],
      translate memory.tables space.pml4Phys table = some (some table)) ↔
      (nthFrame queue (14 + 513 * (count / 512))).toNat < 0x200000 := by
  have hused := framesUsed_le (Nat.lt_add_one count)
  have husedNext : framesUsed (count + 1) = 14 + (count + 1) + count / 512 := rfl
  have hlength : 14 + 513 * (count / 512) < queue.length := by omega
  have hlast := hstage.translate_iff hlength
    (fun earlier _ => framesUsed_ne_table count earlier) (by omega)
  have hearly (early : Nat) (hindex : early < 12 ∨ early = 13)
      (hless : (nthFrame queue (14 + 513 * (count / 512))).toNat < 0x200000) :
      translate memory.tables space.pml4Phys (nthFrame queue early) =
        some (some (nthFrame queue early)) := by
    apply (hstage.translate_iff (by omega)
      (fun earlier _ => framesUsed_ne_early earlier hindex) (by omega)).mpr
    exact (nthFrame_lt hstage.sorted (by omega) hlength).trans hless
  constructor
  · intro hall
    exact hlast.mp (hall _ (by simp))
  · intro hless table htable
    simp only [List.mem_cons, List.not_mem_nil, or_false] at htable
    rcases htable with rfl | rfl | rfl | rfl
    · have hroot := hearly 6 (by omega) hless
      rwa [← hstage.root] at hroot
    · exact hearly 7 (by omega) hless
    · exact hearly 13 (by omega) hless
    · exact hlast.mpr hless

/-- One iteration of the heap loop. The data frame comes from the queue and
`map` succeeds. -/
theorem step (hstage : HeapStage queue space count memory growth pages) (hcount : count < 4096)
    (hroom : framesUsed (count + 1) ≤ queue.length) :
    ∃ allocator next grown mapped,
      memory.allocator.allocateFrame =
        some (some (nthFrame queue (framesUsed count)), allocator) ∧
      exec (map space.pml4Phys (heapPage count) (nthFrame queue (framesUsed count)) true false)
        ⟨allocator, memory.tables⟩ = some (.ok (), next) ∧
      HeapStage queue space (count + 1) next grown mapped ∧
      (KernelHeap.TablesReachable space.pml4Phys (⟨allocator, memory.tables⟩, heapPage count) ↔
        (nthFrame queue (14 + 513 * (count / 512))).toNat < 0x200000) := by
  have hstart : heapStart.toNat = 0x40000000 := rfl
  have hpage := heapPage_toNat hcount.le
  have hused : framesUsed count < queue.length :=
    lt_of_lt_of_le (framesUsed_le (Nat.lt_add_one count)) hroom
  have hframes : growth.frames = queue[framesUsed count] :: queue.drop (framesUsed count + 1) := by
    rw [hstage.frames, List.drop_eq_getElem_cons hused]
  obtain ⟨halloc, hbefore⟩ := hstage.built.handOut hframes
  have hextended := hstage.extended hcount hroom
  have hargs : Mappable (heapPage count) (nthFrame queue (framesUsed count)) :=
    mappable_low (by omega) (by omega) (nthFrame_addressable hused)
  have hfree : pages (heapPage count) = none := hstage.unmapped _ (by omega)
  obtain ⟨next, pdpt, pd, pt, hexec, hnext, htouched, hcomplete, _⟩ :=
    hbefore.map hargs hextended.ready hfree true false
  have hother {page : U64} (hne : page.toNat ≠ 0x40000000 + 4096 * count) :
      page ≠ heapPage count := by
    rintro rfl
    exact hne hpage
  refine ⟨_, next, _, _, ?_, hexec, ⟨hnext, hstage.sorted, hstage.root, hextended.frames,
    hextended.pdpt, hextended.pd, hextended.pt, ?_, ?_, ?_, ?_⟩, ?_⟩
  · rw [halloc, nthFrame_eq hused]
  · intro path table htable hother
    by_cases hfirst : path = [0]
    · rw [hfirst, hextended.pdpt] at htable
      exact ⟨7, by omega, (Option.some.inj htable).symm⟩
    · rw [Growth.reachPage_table_other] at htable
      · exact hstage.early path table htable hother
      · rw [pdptPath_heapPage hcount]
        exact hfirst
      · rw [pdPath_heapPage hcount]
        rintro rfl
        exact hother rfl
      · rw [pagePath_heapPage hcount]
        rintro rfl
        exact hother rfl
  · intro page hlow haligned
    rw [Function.update_of_ne (hother (by omega))]
    exact hstage.identity page hlow haligned
  · intro page mapping habove hmapping
    by_cases hsame : page = heapPage count
    · rw [hsame, Function.update_self] at hmapping
      cases hmapping
      exact Or.inr ⟨count, Nat.lt_succ_self count, rfl⟩
    · rw [Function.update_of_ne hsame] at hmapping
      rcases hstage.above page mapping habove hmapping with hkernel | ⟨earlier, hless, hdata⟩
      · exact Or.inl hkernel
      · exact Or.inr ⟨earlier, Nat.lt_succ_of_lt hless, hdata⟩
  · intro page hpast
    rw [Function.update_of_ne (hother (by omega))]
    exact hstage.unmapped page (by omega)
  · have hpdpt := hcomplete.pdpt
    have hpd := hcomplete.pd
    have hpt := hcomplete.pt
    rw [pdptPath_heapPage hcount, hextended.pdpt] at hpdpt
    rw [pdPath_heapPage hcount, hextended.pd] at hpd
    rw [pagePath_heapPage hcount, hextended.pt, heapTable_val hcount, if_pos (by omega)] at hpt
    cases hpdpt
    cases hpd
    cases hpt
    rw [KernelHeap.TablesReachable, htouched]
    exact hstage.touched_reachable_iff hroom

/-- The whole heap loop, from any stage on: it succeeds with all pages done, and
all its `map` calls find their tables exactly if the page tables of all pages to
map lie in the first 2 MiB. -/
theorem mapPages (heap : KernelHeap) (left : Nat) (mappedPages : U64)
    (hmapped : mappedPages.toNat = count)
    (hstage : HeapStage queue space count memory growth pages) (hcount : count + left ≤ 4096)
    (hroom : framesUsed (count + left) ≤ queue.length) :
    (∃ final grown mapped, heap.mapPages space.pml4Phys left (heapPage count) mappedPages memory =
        some (.ok (), {heap with
          mappedPages := mappedPages + BitVec.ofNat 64 left, initialized := true}, final) ∧
      HeapStage queue space (count + left) final grown mapped) ∧
    ((∀ call ∈ KernelHeap.mapCalls space.pml4Phys left (heapPage count) memory,
        KernelHeap.TablesReachable space.pml4Phys call) ↔
      ∀ page, count ≤ page → page < count + left →
        (nthFrame queue (14 + 513 * (page / 512))).toNat < 0x200000) := by
  induction left generalizing count mappedPages memory growth pages with
  | zero =>
      constructor
      · refine ⟨memory, growth, pages, ?_, hstage⟩
        rw [KernelHeap.mapPages, BitVec.add_zero]
      · constructor
        · intro _ page hlow hhigh
          omega
        · intro _ call hcall
          cases hcall
  | succ left ih =>
      have hnextRoom : framesUsed (count + 1) ≤ queue.length := by
        refine le_trans ?_ hroom
        simp only [framesUsed]
        split <;> split <;> omega
      obtain ⟨allocator, next, grown, mapped, halloc, hexec, hnext, hreachable⟩ :=
        hstage.step (by omega) hnextRoom
      have hpages : checkedAdd mappedPages 1#64 = some (mappedPages + 1#64) :=
        checkedAdd_eq_some (by rw [hmapped]; simp; omega)
      have hsucc := heapPage_succ (show count < 4096 by omega)
      have hcountNext : (mappedPages + 1#64).toNat = count + 1 := by
        rw [checkedAdd_toNat hpages, hmapped]
        rfl
      obtain ⟨⟨final, grown, mapped, hfinal, hlast⟩, hcalls⟩ := ih (mappedPages + 1#64)
        hcountNext hnext (by omega) (by rwa [Nat.add_assoc, Nat.add_comm 1 left])
      constructor
      · refine ⟨final, grown, mapped, ?_, by rwa [← Nat.add_right_comm, Nat.add_assoc] at hlast⟩
        rw [KernelHeap.mapPages_succ heap halloc hexec hpages hsucc, hfinal, BitVec.add_assoc,
          show 1#64 + BitVec.ofNat 64 left = BitVec.ofNat 64 (left + 1) by
            rw [Nat.add_comm, BitVec.ofNat_add]]
      · rw [KernelHeap.mapCalls_succ halloc hexec hsucc, List.forall_mem_cons, hreachable, hcalls]
        constructor
        · rintro ⟨hfirst, hlater⟩ page hlow hhigh
          rcases Nat.eq_or_lt_of_le hlow with rfl | hless
          · exact hfirst
          · exact hlater page hless (by omega)
        · intro hall
          exact ⟨hall count le_rfl (by omega),
            fun page hlow hhigh => hall page (by omega) (by omega)⟩

end HeapStage

end UnboundOS.Memory
