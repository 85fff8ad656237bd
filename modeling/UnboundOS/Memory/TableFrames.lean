import UnboundOS.Memory.AddressSpace

/-!
Which frames become page tables. The allocator hands out the lowest free frame,
so the free frames in ascending order are a queue, and `map` takes a table from
its front for every path of the tree that does not exist yet. A `Growth` is
this view of one tree; the specifications below say that `map`, `unmap` and
`identity_map` succeed on a tree with enough frames, and how the tree and its
pages look afterwards.
-/

namespace UnboundOS.Memory

open RadixForest PageTable FrameAllocator
open Fallible (exec exec_pure exec_bind_ok)

namespace FrameAllocator

/-- The free frames, in the order in which they are handed out. -/
structure Queued (allocator : FrameAllocator) (frames : List Frame) : Prop where
  consistent : allocator.Consistent
  nullReserved : allocator.NullReserved
  sorted : frames.Pairwise (· < ·)
  free : ∀ frame, frame ∈ allocator.freeSet ↔ frame ∈ frames

variable {allocator : FrameAllocator} {frame : Frame} {frames : List Frame}

theorem queued_sort (hallocator : allocator.Consistent) (hnull : allocator.NullReserved) :
    allocator.Queued (allocator.freeSet.sort (· ≤ ·)) where
  consistent := hallocator
  nullReserved := hnull
  sorted := (Finset.sortedLT_sort _).pairwise
  free := fun _ => (Finset.mem_sort _).symm

theorem Queued.allocateFrame (hqueue : allocator.Queued (frame :: frames)) :
    allocator.allocateFrame = some (some (frameAddress frame), allocator.handOut frame) := by
  have hmem : frame ∈ allocator.freeSet := (hqueue.free frame).mpr List.mem_cons_self
  rcases allocateFrame_spec hqueue.consistent with ⟨hempty, _⟩ | ⟨first, hfirst, hleast, halloc⟩
  · rw [hempty] at hmem
    exact absurd hmem (Finset.notMem_empty _)
  · have hle : first ≤ frame := hleast frame hmem
    have hge : frame ≤ first := by
      rcases List.mem_cons.mp ((hqueue.free first).mp hfirst) with rfl | hlater
      · exact le_rfl
      · exact (List.rel_of_pairwise_cons hqueue.sorted hlater).le
    rw [halloc, le_antisymm hle hge]

theorem Queued.handOut (hqueue : allocator.Queued (frame :: frames)) :
    (allocator.handOut frame).Queued frames where
  consistent :=
    handOut_consistent hqueue.consistent ((hqueue.free frame).mpr List.mem_cons_self)
  nullReserved := hqueue.nullReserved.of_managed_eq
    (managed_handOut ((hqueue.free frame).mpr List.mem_cons_self))
  sorted := hqueue.sorted.of_cons
  free := by
    intro other
    rw [freeSet_handOut, Finset.mem_erase, hqueue.free, List.mem_cons]
    constructor
    · rintro ⟨hne, rfl | hmem⟩
      · exact absurd rfl hne
      · exact hmem
    · intro hmem
      exact ⟨(List.rel_of_pairwise_cons hqueue.sorted hmem).ne', Or.inr hmem⟩

/-- A frame that comes back below all free frames is the next to be handed
out. -/
theorem Queued.freeFrame (hqueue : allocator.Queued frames) (hmem : frame ∈ allocator.allocSet)
    (hlow : ∀ other ∈ frames, frame < other) :
    (allocator.freeFrame (frameAddress frame)).Queued (frame :: frames) := by
  obtain ⟨hfree, _, hconsistent⟩ := freeFrame_of_mem hqueue.consistent hmem
  refine ⟨hconsistent, hqueue.nullReserved.of_managed_eq (managed_freeFrame hqueue.consistent _),
    List.pairwise_cons.mpr ⟨hlow, hqueue.sorted⟩, fun other => ?_⟩
  rw [hfree, Finset.mem_insert, hqueue.free, List.mem_cons]

end FrameAllocator

/-- The tables of one tree by their paths, and the frames to come. -/
structure Growth where
  table : List (Fin 512) → Option U64
  frames : List Frame

namespace Growth

variable {growth : Growth} {path other : List (Fin 512)} {table : U64}

/-- The table of the path exists or can be made. -/
def Ready (self : Growth) (path : List (Fin 512)) : Prop :=
  self.table path = none → self.frames ≠ []

/-- Make the table of a path unless it exists. -/
def reach (self : Growth) (path : List (Fin 512)) : Growth :=
  match self.table path, self.frames with
  | none, frame :: rest => ⟨Function.update self.table path (some (frameAddress frame)), rest⟩
  | _, _ => self

theorem reach_of_some (htable : growth.table path = some table) : growth.reach path = growth := by
  rw [reach, htable]

theorem reach_of_none {frame : Frame} {rest : List Frame} (htable : growth.table path = none)
    (hframes : growth.frames = frame :: rest) :
    growth.reach path = ⟨Function.update growth.table path (some (frameAddress frame)), rest⟩ := by
  rw [reach, htable, hframes]

theorem reach_table_other (hne : other ≠ path) : (growth.reach path).table other =
    growth.table other := by
  rw [reach]
  split
  · exact Function.update_of_ne hne _ _
  · rfl

theorem reach_table_of_some (htable : growth.table other = some table) :
    (growth.reach path).table other = some table := by
  by_cases hsame : other = path
  · rw [hsame] at htable ⊢
    rw [reach_of_some htable, htable]
  · rw [reach_table_other hsame, htable]

/-- The paths of the PDPT and the page directory of an address. -/
def pdptPath (virtualAddress : U64) : List (Fin 512) := [(indexes virtualAddress).1]

def pdPath (virtualAddress : U64) : List (Fin 512) :=
  [(indexes virtualAddress).1, (indexes virtualAddress).2.1]

/-- The tables on the way to a page exist or can be made, one after another. -/
structure ReadyFor (growth : Growth) (virtualAddress : U64) : Prop where
  pdpt : growth.Ready (pdptPath virtualAddress)
  pd : (growth.reach (pdptPath virtualAddress)).Ready (pdPath virtualAddress)
  pt : ((growth.reach (pdptPath virtualAddress)).reach (pdPath virtualAddress)).Ready
    (pagePath virtualAddress)

def reachPage (self : Growth) (virtualAddress : U64) : Growth :=
  ((self.reach (pdptPath virtualAddress)).reach (pdPath virtualAddress)).reach
    (pagePath virtualAddress)

theorem reachPage_table_other {virtualAddress : U64} (hpdpt : path ≠ pdptPath virtualAddress)
    (hpd : path ≠ pdPath virtualAddress) (hpt : path ≠ pagePath virtualAddress) :
    (growth.reachPage virtualAddress).table path = growth.table path := by
  rw [reachPage, reach_table_other hpt, reach_table_other hpd, reach_table_other hpdpt]

/-- All tables on the way to a page exist. -/
structure Complete (growth : Growth) (virtualAddress pdpt pd pt : U64) : Prop where
  pdpt : growth.table (pdptPath virtualAddress) = some pdpt
  pd : growth.table (pdPath virtualAddress) = some pd
  pt : growth.table (pagePath virtualAddress) = some pt

variable {virtualAddress : U64} {pdpt pd pt : U64}

theorem Complete.reachPage_eq (hcomplete : growth.Complete virtualAddress pdpt pd pt) :
    growth.reachPage virtualAddress = growth := by
  rw [reachPage, reach_of_some hcomplete.pdpt, reach_of_some hcomplete.pd,
    reach_of_some hcomplete.pt]

theorem Complete.readyFor (hcomplete : growth.Complete virtualAddress pdpt pd pt) :
    growth.ReadyFor virtualAddress := by
  have hready {path : List (Fin 512)} {table : U64} (htable : growth.table path = some table) :
      growth.Ready path := fun hnone => by rw [htable] at hnone; cases hnone
  constructor
  · exact hready hcomplete.pdpt
  · rw [reach_of_some hcomplete.pdpt]
    exact hready hcomplete.pd
  · rw [reach_of_some hcomplete.pdpt, reach_of_some hcomplete.pd]
    exact hready hcomplete.pt

/-- Pages with one last-level table share the whole way. -/
theorem Complete.congr (hcomplete : growth.Complete virtualAddress pdpt pd pt) {other : U64}
    (hpath : pagePath other = pagePath virtualAddress) : growth.Complete other pdpt pd pt := by
  have hpdpt : pdptPath other = pdptPath virtualAddress := congrArg (List.take 1) hpath
  have hpd : pdPath other = pdPath virtualAddress := congrArg (List.take 2) hpath
  constructor
  · rw [hpdpt, hcomplete.pdpt]
  · rw [hpd, hcomplete.pd]
  · rw [hpath, hcomplete.pt]

end Growth

/-- The tables `map` dereferences below a table, in order. A table that cannot
be made ends the way down. -/
def touched (writable user : Bool) : U64 → List (Fin 512) → PhysicalMemory → List U64
  | table, [], _ => [table]
  | table, index :: rest, memory =>
      table ::
        match exec (level table index writable user) memory with
        | some (.ok next, reached) => touched writable user next rest reached
        | _ => []

theorem touched_cons {writable user : Bool} {table next : U64} {index : Fin 512}
    {rest : List (Fin 512)} {memory reached : PhysicalMemory}
    (hexec : exec (level table index writable user) memory = some (.ok next, reached)) :
    touched writable user table (index :: rest) memory =
      table :: touched writable user next rest reached := by
  rw [touched, hexec]

/-- A tree of its root only. -/
def planted (root : U64) (path : List (Fin 512)) : Option U64 :=
  if path = [] then some root else none

theorem planted_cons (root : U64) (index : Fin 512) (rest : List (Fin 512)) :
    planted root (index :: rest) = none :=
  if_neg (List.cons_ne_nil _ _)

/-- Physical memory holds the tree of a growth, alone. -/
structure Grown (memory : PhysicalMemory) (root : U64) (growth : Growth) : Prop where
  safe : memory.Safe {root}
  queued : memory.allocator.Queued growth.frames
  tables : ∀ path : List (Fin 512), path.length ≤ 3 →
    walk entryTarget memory.tables root path = growth.table path

namespace Grown

variable {memory : PhysicalMemory} {root : U64} {growth : Growth}

/-- A zeroed frame from the queue is the root of an empty tree. -/
theorem plant {allocator : FrameAllocator} {frame : Frame} {frames : List Frame}
    (hqueue : allocator.Queued (frame :: frames)) (tables : U64 → PageTable) :
    Grown ⟨allocator.handOut frame, fill tables (frameAddress frame) 0#64⟩ (frameAddress frame)
      ⟨planted (frameAddress frame), frames⟩ := by
  have hempty : SpaceSystem.Follows ⟨⟨allocator, tables⟩, []⟩ [] :=
    SpaceSystem.untouched_follows hqueue.consistent hqueue.nullReserved
      (fun space hspace => absurd hspace List.not_mem_nil)
  have hfollows := SpaceSystem.plant_follows hempty
    ((hqueue.free frame).mpr List.mem_cons_self)
  have hroots : SpaceSystem.roots
      ⟨⟨allocator.handOut frame, fill tables (frameAddress frame) 0#64⟩,
        [⟨frameAddress frame⟩]⟩ = {frameAddress frame} := by
    ext root
    simp [SpaceSystem.roots, eq_comm]
  constructor
  · rw [← hroots]
    exact hfollows.safe
  · exact hqueue.handOut
  · intro path _
    exact walk_blank entryTarget_zero path

variable {path : List (Fin 512)} {parent : U64} {writable user : Bool}

/-- One level of the way down. -/
theorem level (hgrown : Grown memory root growth)
    (hdescent : Descent memory {root} root path parent writable user) (hdepth : path.length < 3)
    (index : Fin 512) (hready : growth.Ready (path ++ [index])) :
    ∃ table next, exec (PageTable.level parent index writable user) memory =
        some (.ok table, next) ∧
      Grown next root (growth.reach (path ++ [index])) ∧
      (growth.reach (path ++ [index])).table (path ++ [index]) = some table ∧
      Descent next {root} root (path ++ [index]) table writable user ∧
      SameLeaves {root} memory next ∧ Grew {root} memory next := by
  have hroot : root ∈ ({root} : Set U64) := rfl
  have hlength : (path ++ [index]).length ≤ 3 := by
    rw [List.length_append, List.length_singleton]
    omega
  have hstep : entryTarget (memory.tables parent index) = growth.table (path ++ [index]) := by
    rw [← hgrown.tables _ hlength, walk_snoc, hdescent.reached, Option.bind_some]
  cases htable : growth.table (path ++ [index]) with
  | some table =>
      have hpresent : ¬ memory.tables parent index &&& presentFlag = 0#64 := by
        rw [← entryTarget_eq_none_iff, hstep, htable]
        exact Option.some_ne_none table
      have haddress : entryAddress (memory.tables parent index) = table := by
        rw [htable, entryTarget_of_present hpresent] at hstep
        exact Option.some.inj hstep
      have hvalid : Dereferenceable (entryAddress (memory.tables parent index)) := by
        rw [haddress]
        refine hgrown.safe.dereferenceable table (Node.of_walk hroot hlength ?_)
        rw [hgrown.tables _ hlength, htable]
      obtain ⟨next, hexec, hnext, hsame, htables, hallocator, hgrew⟩ :=
        level_present hdescent hroot hdepth hpresent hvalid
      rw [haddress] at hexec hnext
      rw [Growth.reach_of_some htable]
      refine ⟨table, next, hexec, ⟨hgrew.safe hgrown.safe, ?_, ?_⟩, htable, hnext, hsame, hgrew⟩
      · rw [hallocator]
        exact hgrown.queued
      · intro path' hpath'
        rw [htables root hroot path' hpath', hgrown.tables path' hpath']
  | none =>
      have hpresent : memory.tables parent index &&& presentFlag = 0#64 := by
        rw [← entryTarget_eq_none_iff, hstep, htable]
      obtain ⟨frame, rest, hframes⟩ := List.exists_cons_of_ne_nil (hready htable)
      have hqueue : memory.allocator.Queued (frame :: rest) := hframes ▸ hgrown.queued
      have hfree : frame ∈ memory.allocator.freeSet := (hqueue.free frame).mpr List.mem_cons_self
      obtain ⟨next, hexec, hnext, hsame, hlinked, hallocator, hgrew⟩ :=
        level_absent hdescent hroot hdepth hpresent hfree hqueue.allocateFrame
          (hgrown.safe.nullReserved.free hfree)
      rw [Growth.reach_of_none htable hframes]
      refine ⟨frameAddress frame, next, hexec, ⟨hgrew.safe hgrown.safe, ?_, ?_⟩, ?_, hnext, hsame,
        hgrew⟩
      · rw [hallocator]
        exact hqueue.handOut
      · intro path' hpath'
        rw [hlinked root hroot path' hpath']
        by_cases hnew : path' = path ++ [index]
        · rw [if_pos ⟨rfl, hnew⟩, hnew]
          simp only [Function.update_self]
        · rw [if_neg (fun h => hnew h.2), hgrown.tables path' hpath']
          exact (Function.update_of_ne hnew _ _).symm
      · exact Function.update_self _ _ _

/-- `map` succeeds on an unmapped page as long as the frames last, and takes
the missing tables from the queue. -/
theorem map (hgrown : Grown memory root growth) {virtualAddress physicalAddress : U64}
    (hargs : Mappable virtualAddress physicalAddress) (hready : growth.ReadyFor virtualAddress)
    (hfree : lookup entryTarget memory.tables root (pagePath virtualAddress)
      (pageSlot virtualAddress) = none) (writable user : Bool) :
    ∃ next pdpt pd pt,
      exec (PageTable.map root virtualAddress physicalAddress writable user) memory =
        some (.ok (), next) ∧
      Grown next root (growth.reachPage virtualAddress) ∧
      LeafSet {root} memory next root virtualAddress
        (some (makeEntry physicalAddress writable user)) ∧
      touched writable user root (pagePath virtualAddress) memory = [root, pdpt, pd, pt] ∧
      (growth.reachPage virtualAddress).Complete virtualAddress pdpt pd pt ∧
      Grew {root} memory next := by
  have hroot : root ∈ ({root} : Set U64) := rfl
  have hstart := Descent.start hgrown.safe.toSound root writable user
  obtain ⟨pdpt, first, hfirst, hgrown₁, htable₁, hdescent₁, hsame₁, hgrew₁⟩ :=
    hgrown.level hstart (by decide) (indexes virtualAddress).1 hready.pdpt
  obtain ⟨pd, second, hsecond, hgrown₂, htable₂, hdescent₂, hsame₂, hgrew₂⟩ :=
    hgrown₁.level hdescent₁ (by simp) (indexes virtualAddress).2.1 hready.pd
  obtain ⟨pt, third, hthird, hgrown₃, htable₃, hdescent₃, hsame₃, hgrew₃⟩ :=
    hgrown₂.level hdescent₂ (by simp) (indexes virtualAddress).2.2.1 hready.pt
  have hreached : Descent third {root} root (pagePath virtualAddress) pt writable user := hdescent₃
  have hsame := (hsame₁.trans hsame₂).trans hsame₃
  have habsent : third.tables pt (pageSlot virtualAddress) &&& presentFlag = 0#64 := by
    by_contra hpresent
    have hlookup := lookup_of_present hreached.reached hpresent
    rw [hsame root hroot _ rfl, hfree] at hlookup
    cases hlookup
  obtain ⟨hsound, hleaf, htables⟩ := writeLeaf_spec (makeEntry physicalAddress writable user)
    hreached hroot (notHuge_makeEntry _ _ _) (fun _ bound hgrants => within_makeEntry _ hgrants)
  have hgrew : Grew {root} third ⟨third.allocator, write third.tables pt (pageSlot virtualAddress)
      (makeEntry physicalAddress writable user)⟩ :=
    .of_write rfl hsound htables (hreached.node hroot le_rfl)
  have hdescend : exec (descend writable user root (pagePath virtualAddress)) memory =
      some (.ok pt, third) := by
    rw [pagePath, descend, exec_bind_ok hfirst, descend, exec_bind_ok hsecond, descend,
      exec_bind_ok hthird, descend, exec_pure]
  refine ⟨_, pdpt, pd, pt, ?_, ⟨hgrew.safe hgrown₃.safe, hgrown₃.queued, ?_⟩, ?_, ?_,
    ⟨?_, ?_, htable₃⟩, ((hgrew₁.trans hgrew₂).trans hgrew₃).trans hgrew⟩
  · rw [map_eq_descend hargs, exec_bind_ok hdescend, exec_setLeaf_absent habsent]
  · intro path hpath
    rw [htables root hroot path hpath, hgrown₃.tables path hpath]
    rfl
  · intro root' hroot' path hpath slot
    rw [hleaf root' hroot' path hpath slot, entryTarget_makeEntry hargs.addressable,
      hsame root' hroot' path hpath slot]
    rfl
  · rw [pagePath, touched_cons hfirst, touched_cons hsecond, touched_cons hthird, touched]
  · exact Growth.reach_table_of_some (Growth.reach_table_of_some htable₁)
  · exact Growth.reach_table_of_some htable₂

end Grown

/-- A space with its tree and its pages. -/
structure Built (memory : PhysicalMemory) (space : AddressSpace) (growth : Growth)
    (pages : U64 → Option Mapping) : Prop where
  grown : Grown memory space.pml4Phys growth
  maps : Maps {space.pml4Phys} memory space pages

namespace Built

variable {memory : PhysicalMemory} {space : AddressSpace} {growth : Growth}
  {pages : U64 → Option Mapping}

theorem map (hbuilt : Built memory space growth pages) {virtualAddress physicalAddress : U64}
    (hargs : Mappable virtualAddress physicalAddress) (hready : growth.ReadyFor virtualAddress)
    (hfree : pages virtualAddress = none) (writable user : Bool) :
    ∃ next pdpt pd pt,
      exec (PageTable.map space.pml4Phys virtualAddress physicalAddress writable user) memory =
        some (.ok (), next) ∧
      Built next space (growth.reachPage virtualAddress) (Function.update pages virtualAddress
        (some ⟨physicalAddress, writable, user⟩)) ∧
      touched writable user space.pml4Phys (pagePath virtualAddress) memory =
        [space.pml4Phys, pdpt, pd, pt] ∧
      (growth.reachPage virtualAddress).Complete virtualAddress pdpt pd pt ∧
      Grew {space.pml4Phys} memory next := by
  have hleaf := hbuilt.maps.leaves virtualAddress hargs.canonical hargs.aligned
  rw [hfree] at hleaf
  obtain ⟨next, pdpt, pd, pt, hexec, hgrown, hset, htouched⟩ :=
    hbuilt.grown.map hargs hready hleaf writable user
  refine ⟨next, pdpt, pd, pt, hexec, ⟨hgrown, ?_⟩, htouched⟩
  refine hbuilt.maps.record hgrown.safe hargs.canonical hargs.aligned
    (some ⟨physicalAddress, writable, user⟩) ?_ hset
  rintro target ⟨⟩
  exact hargs.addressable

theorem unmap (hbuilt : Built memory space growth pages) {virtualAddress : U64}
    (hcanonical : isCanonical virtualAddress = true) (haligned : virtualAddress % pageSize = 0#64)
    {mapping : Mapping} (hmapped : pages virtualAddress = some mapping) :
    ∃ next, exec (PageTable.unmap space.pml4Phys virtualAddress) memory =
        some (.ok mapping.physicalAddress, next) ∧
      Built next space growth (Function.update pages virtualAddress none) := by
  have hroot : space.pml4Phys ∈ ({space.pml4Phys} : Set U64) := rfl
  have hleaf := hbuilt.maps.leaves virtualAddress hcanonical haligned
  rw [hmapped, SpaceSystem.leaf] at hleaf
  rcases unmap_spec hbuilt.grown.safe hroot virtualAddress with
    ⟨_, _, hnone⟩ | ⟨entry, next, hexec, hentry, hsafe, _, _, hset, htables, hallocator, _⟩
  · rw [hnone hcanonical haligned] at hleaf
    cases hleaf
  · rw [hentry] at hleaf
    obtain rfl : entry = mapping.entry := Option.some.inj hleaf
    rw [Mapping.entry, entryAddress_makeEntry (hbuilt.maps.addressable _ _ hmapped)] at hexec
    refine ⟨next, hexec, ⟨hsafe, ?_, ?_⟩,
      hbuilt.maps.record hsafe hcanonical haligned none (by simp) hset⟩
    · rw [hallocator]
      exact hbuilt.grown.queued
    · intro path hpath
      rw [htables _ hroot path hpath, hbuilt.grown.tables path hpath]

end Built

/-- The indices of an address below 512 GiB. -/
theorem pagePath_low {virtualAddress : U64} (pd pt : Fin 512)
    (haddress : virtualAddress.toNat / 2 ^ 21 = 512 * pd.val + pt.val) :
    pagePath virtualAddress = [0, pd, pt] := by
  have hpd := pd.isLt
  have hpt := pt.isLt
  have hpml4 : tableIndex virtualAddress 39 = 0 := by
    rw [Fin.ext_iff, tableIndex_val, Fin.val_zero]
    omega
  have hpdpt : tableIndex virtualAddress 30 = pd := by
    rw [Fin.ext_iff, tableIndex_val]
    omega
  have hpdIndex : tableIndex virtualAddress 21 = pt := by
    rw [Fin.ext_iff, tableIndex_val]
    omega
  rw [pagePath, indexes, hpml4, hpdpt, hpdIndex]

/-- The pages below a limit, mapped to themselves. -/
def identityPages (limit page : U64) : Option Mapping :=
  if page < limit ∧ page % pageSize = 0#64 then some ⟨page, true, false⟩ else none

theorem identityPages_succ {limit : U64} (haligned : limit % pageSize = 0#64)
    (hlimit : limit.toNat < 0x200000) :
    Function.update (identityPages limit) limit (some ⟨limit, true, false⟩) =
      identityPages (limit + pageSize) := by
  have hsize : pageSize.toNat = 4096 := rfl
  have hlow : limit.toNat % 4096 = 0 := congrArg BitVec.toNat haligned
  have hsum : (limit + pageSize).toNat = limit.toNat + 4096 := by
    rw [BitVec.toNat_add, hsize]
    omega
  funext page
  by_cases hsame : page = limit
  · have hless : limit < limit + pageSize := by
      rw [BitVec.lt_def]
      omega
    rw [hsame, Function.update_self, identityPages, if_pos ⟨hless, haligned⟩]
  · have hne : page.toNat ≠ limit.toNat := fun h => hsame (BitVec.eq_of_toNat_eq h)
    rw [Function.update_of_ne hsame, identityPages, identityPages]
    refine if_congr (and_congr_left fun hpage => ?_) rfl rfl
    have hpageLow : page.toNat % 4096 = 0 := congrArg BitVec.toNat hpage
    rw [BitVec.lt_def, BitVec.lt_def]
    omega

/-- Addresses below 4 GiB at a page boundary can be mapped to any frame. -/
theorem mappable_low {virtualAddress physicalAddress : U64} (hlow : virtualAddress.toNat < 2 ^ 32)
    (haligned : virtualAddress.toNat % 4096 = 0) (hphysical : Addressable physicalAddress) :
    Mappable virtualAddress physicalAddress where
  canonical := (isCanonical_iff _).mpr (by omega)
  aligned := by
    rw [← BitVec.toNat_inj, BitVec.toNat_umod]
    exact haligned
  addressable := hphysical

theorem addressable_low {address : U64} (hlow : address.toNat < 2 ^ 32)
    (haligned : address.toNat % 4096 = 0) : Addressable address := by
  constructor
  · rw [← BitVec.toNat_inj, BitVec.toNat_umod]
    exact haligned
  · have hmask : addressMask.toNat = 2 ^ 52 - 4096 := by decide
    change ¬ addressMask.toNat < address.toNat
    omega

/-- The kernel's identity map: one last-level table, every page of the first
2 MiB mapped to itself. -/
theorem Built.identityMap {memory : PhysicalMemory} {space : AddressSpace} {growth : Growth}
    (hbuilt : Built memory space growth (fun _ => none)) (hready : growth.ReadyFor 0#64) :
    ∃ next pdpt pd pt,
      exec (space.identityMap 0x00000000#64 0x00200000#64 true) memory = some (.ok (), next) ∧
      Built next space (growth.reachPage 0#64) (identityPages 0x00200000#64) ∧
      (growth.reachPage 0#64).Complete 0#64 pdpt pd pt ∧ Grew {space.pml4Phys} memory next := by
  have hsize : pageSize.toNat = 4096 := rfl
  have hpages : identityPages 0#64 = fun _ => none := by
    funext page
    exact if_neg (fun h => BitVec.not_lt_zero h.1)
  rw [← hpages] at hbuilt
  -- After the first page the tables are complete and the growth stands still.
  let invariant (address : U64) (state : PhysicalMemory) : Prop :=
    ∃ grown, Built state space grown (identityPages address) ∧
      Grew {space.pml4Phys} memory state ∧
      (address = 0#64 ∧ grown = growth ∨
        ∃ pdpt pd pt, grown = growth.reachPage 0#64 ∧ grown.Complete 0#64 pdpt pd pt)
  have hbody : ∀ address state, address < 0x00200000#64 → pageSize.toNat ∣ address.toNat →
      invariant address state →
      ∃ next, exec (AddressSpace.identityMapPage space.pml4Phys true address) state =
          some (.ok (), next) ∧
        invariant (address + pageSize) next := by
    rintro address state hless hdvd ⟨grown, hstate, hgrew, hgrown⟩
    have hlt : address.toNat < 0x200000 := hless
    have hlow : address.toNat % 4096 = 0 := Nat.mod_eq_zero_of_dvd hdvd
    have hargs := mappable_low (by omega) hlow (addressable_low (by omega) hlow)
    have hpath : pagePath address = pagePath 0#64 := by
      rw [pagePath_low 0 0 (by rw [Fin.val_zero]; omega), pagePath_low 0 0 rfl]
    have hfree : identityPages address address = none :=
      if_neg (fun h => BitVec.lt_irrefl _ h.1)
    rcases hgrown with ⟨rfl, rfl⟩ | ⟨pdpt, pd, pt, rfl, hcomplete⟩
    · obtain ⟨next, pdpt, pd, pt, hexec, hnext, _, hcomplete, hgrewPage⟩ :=
        hstate.map hargs hready hfree true false
      rw [identityPages_succ hargs.aligned hlt] at hnext
      exact ⟨next, hexec, _, hnext, hgrew.trans hgrewPage,
        Or.inr ⟨pdpt, pd, pt, rfl, hcomplete⟩⟩
    · obtain ⟨next, _, _, _, hexec, hnext, _, _, hgrewPage⟩ :=
        hstate.map hargs (hcomplete.congr hpath).readyFor hfree true false
      rw [identityPages_succ hargs.aligned hlt, (hcomplete.congr hpath).reachPage_eq] at hnext
      exact ⟨next, hexec, _, hnext, hgrew.trans hgrewPage,
        Or.inr ⟨pdpt, pd, pt, rfl, hcomplete⟩⟩
  have hstart : invariant 0#64 memory :=
    ⟨growth, hbuilt, .refl hbuilt.grown.safe.toSound, Or.inl ⟨rfl, rfl⟩⟩
  obtain ⟨final, hexec, grown, hfinal, hgrew, ⟨hzero, _⟩ | ⟨pdpt, pd, pt, rfl, hcomplete⟩⟩ :=
    Fallible.strideDo_ok invariant (by decide) hbody (dvd_zero _) (by decide) hstart
  · exact absurd hzero (by decide)
  · refine ⟨final, pdpt, pd, pt, ?_, hfinal, hcomplete, hgrew⟩
    have hroot := hbuilt.grown.safe.root rfl
    rw [AddressSpace.identityMap, if_neg (by decide), if_neg (by decide), if_neg (by decide),
      exec_bind_ok (exec_tableAt hroot _)]
    exact hexec

end UnboundOS.Memory
