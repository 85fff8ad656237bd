import UnboundOS.Memory.TableFrames

/-!
What one call of `map` does to physical memory, for any tables and any
allocator: nothing here needs a tree that the kernel built. On its way down
`map` rewrites the entries it passes, and it takes a frame as soon as an entry
is absent. Two questions are settled from this description: when a call that
fails has changed nothing, and when a call on an address that is mapped already
keeps to the page tables of the tree.
-/

namespace UnboundOS.Memory

open RadixForest PageTable FrameAllocator
open Fallible (exec exec_pure exec_bind_ok exec_bind_error exec_bind_cases exec_bind_returns)

namespace PageTable

theorem widen_of_grants {entry : U64} {writable user : Bool}
    (hgrants : Grants entry writable user) : widen entry writable user = entry := by
  apply BitVec.eq_of_getLsbD_eq
  intro bit _
  rw [getLsbD_widen]
  have hwritable : (writable && decide (bit = 1)) = true → entry.getLsbD bit = true := by
    simp only [Bool.and_eq_true, decide_eq_true_eq]
    rintro ⟨hflag, rfl⟩
    exact hgrants.1 hflag
  have huser : (user && decide (bit = 2)) = true → entry.getLsbD bit = true := by
    simp only [Bool.and_eq_true, decide_eq_true_eq]
    rintro ⟨hflag, rfl⟩
    exact hgrants.2 hflag
  apply Bool.eq_iff_iff.mpr
  simp only [Bool.or_eq_true]
  exact ⟨fun h => h.elim (fun h => h.elim id hwritable) huser, fun h => Or.inl (Or.inl h)⟩

variable {memory next : PhysicalMemory} {root : U64} {path : List (Fin 512)}
  {writable user : Bool}

/-- A way down that took no frame: the entries passed are widened, everything
else is as before. -/
structure Widened (writable user : Bool) (root : U64) (path : List (Fin 512))
    (before after : PhysicalMemory) : Prop where
  allocator : after.allocator = before.allocator
  passed : ∀ table slot, Passes entryTarget before.tables root path table slot →
    after.tables table slot = widen (before.tables table slot) writable user
  other : ∀ table slot, ¬ Passes entryTarget before.tables root path table slot →
    after.tables table slot = before.tables table slot

namespace Widened

theorem unmoved (hnone : ∀ table slot, ¬ Passes entryTarget memory.tables root path table slot) :
    Widened writable user root path memory memory where
  allocator := rfl
  passed := fun table slot hpasses => absurd hpasses (hnone table slot)
  other := fun _ _ _ => rfl

theorem entryTarget_eq (hwidened : Widened writable user root path memory next) (table : U64)
    (slot : Fin 512) :
    entryTarget (next.tables table slot) = entryTarget (memory.tables table slot) := by
  by_cases hpasses : Passes entryTarget memory.tables root path table slot
  · rw [hwidened.passed table slot hpasses, entryTarget_widen]
  · rw [hwidened.other table slot hpasses]

end Widened

/-- One present entry on top of a way down that took no frame. Entries may be
shared, so the one on top may be passed again further down; widening twice is
widening once. -/
theorem Widened.cons {index : Fin 512} {rest : List (Fin 512)}
    (hpresent : ¬ memory.tables root index &&& presentFlag = 0#64)
    (hrest : Widened writable user (entryAddress (memory.tables root index)) rest
      ⟨memory.allocator, write memory.tables root index
        (widen (memory.tables root index) writable user)⟩ next) :
    Widened writable user root (index :: rest) memory next := by
  have htarget := entryTarget_of_present hpresent
  have hpasses (table : U64) (slot : Fin 512) :
      Passes entryTarget memory.tables root (index :: rest) table slot ↔
        (table = root ∧ slot = index) ∨
          Passes entryTarget memory.tables (entryAddress (memory.tables root index)) rest
            table slot := by
    simp only [Passes, htarget, Option.some.injEq, exists_eq_left']
  have hsame (table : U64) (slot : Fin 512) := passes_pointwise entryTarget
    (entryTarget_write_widen memory.tables root index writable user)
    (entryAddress (memory.tables root index)) rest table slot
  have htwice : widen (widen (memory.tables root index) writable user) writable user =
      widen (memory.tables root index) writable user := widen_of_grants (grants_widen _ _ _)
  refine ⟨hrest.allocator, fun table slot hmet => ?_, fun table slot hmet => ?_⟩
  · by_cases hhit : table = root ∧ slot = index
    · obtain ⟨rfl, rfl⟩ := hhit
      by_cases hagain : Passes entryTarget memory.tables
          (entryAddress (memory.tables table slot)) rest table slot
      · simp only [hrest.passed table slot ((hsame table slot).mpr hagain), write_same, htwice]
      · simp only [hrest.other table slot (mt (hsame table slot).mp hagain), write_same]
    · have hlater := ((hpasses table slot).mp hmet).resolve_left hhit
      simp only [hrest.passed table slot ((hsame table slot).mpr hlater), write_other _ hhit]
  · obtain ⟨hhit, hlater⟩ := not_or.mp (mt (hpasses table slot).mpr hmet)
    simp only [hrest.other table slot (mt (hsame table slot).mp hlater), write_other _ hhit]

/-- How one level of the way down returns: behind a present entry, with no
frame for a table, or with a frame taken for one. -/
theorem level_cases {parent : U64} {index : Fin 512} {result : Except String U64}
    (hexec : exec (level parent index writable user) memory = some (result, next)) :
    (¬ memory.tables parent index &&& presentFlag = 0#64 ∧
      result = .ok (entryAddress (memory.tables parent index)) ∧
      next = ⟨memory.allocator, write memory.tables parent index
        (widen (memory.tables parent index) writable user)⟩) ∨
    (memory.tables parent index &&& presentFlag = 0#64 ∧ memory.allocator.freeSet = ∅ ∧
      result = .error "out of physical memory" ∧ next = memory) ∨
    (memory.tables parent index &&& presentFlag = 0#64 ∧
      ∃ frame ∈ memory.allocator.freeSet, result = .ok (frameAddress frame) ∧
        next.allocator.freeSet = memory.allocator.freeSet.erase frame) := by
  by_cases habsent : memory.tables parent index &&& presentFlag = 0#64
  · rcases allocateFrame_cases memory.allocator with ⟨hempty, halloc⟩ | ⟨frame, hmem, _, halloc⟩
    · rw [exec_level_exhausted habsent halloc] at hexec
      cases hexec
      exact Or.inr (Or.inl ⟨habsent, hempty, rfl, rfl⟩)
    cases hcount : checkedSub memory.allocator.freeFrames 1 with
    | none =>
        rw [hcount] at halloc
        rw [exec_level_panic habsent (Or.inl halloc)] at hexec
        cases hexec
    | some count =>
        rw [hcount] at halloc
        by_cases hvalid : Dereferenceable (frameAddress frame)
        · rw [exec_level_absent habsent halloc hvalid] at hexec
          cases hexec
          exact Or.inr (Or.inr ⟨habsent, frame, hmem, rfl, freeSet_handOut _ _⟩)
        · rw [exec_level_panic habsent (Or.inr ⟨_, _, halloc, hvalid⟩)] at hexec
          cases hexec
  · by_cases hvalid : Dereferenceable (entryAddress (memory.tables parent index))
    · rw [exec_level_present habsent hvalid] at hexec
      cases hexec
      exact Or.inl ⟨habsent, rfl, rfl⟩
    · rw [exec_level_null habsent hvalid] at hexec
      cases hexec

/-- How the way down returns. Along existing tables it only widens. At the
first absent entry it stops if no frame is free; otherwise it takes a frame and
has fewer free frames than before. -/
theorem descend_cases {result : Except String U64}
    (hexec : exec (descend writable user root path) memory = some (result, next)) :
    (∃ table, walk entryTarget memory.tables root path = some table ∧ result = .ok table ∧
      Widened writable user root path memory next) ∨
    (walk entryTarget memory.tables root path = none ∧ memory.allocator.freeSet = ∅ ∧
      result = .error "out of physical memory" ∧ Widened writable user root path memory next) ∨
    (walk entryTarget memory.tables root path = none ∧
      next.allocator.freeSet ⊂ memory.allocator.freeSet) := by
  induction path generalizing root memory with
  | nil =>
      rw [descend, exec_pure] at hexec
      cases hexec
      exact Or.inl ⟨root, rfl, rfl, .unmoved fun _ _ hpasses => hpasses⟩
  | cons index rest ih =>
      have hstop (habsent : memory.tables root index &&& presentFlag = 0#64) :
          walk entryTarget memory.tables root (index :: rest) = none := by
        rw [walk_cons, (entryTarget_eq_none_iff _).mpr habsent]
        rfl
      rcases exec_bind_cases hexec with ⟨message, rfl, hlevel⟩ | ⟨table, reached, hlevel, hrest⟩
      · rcases level_cases hlevel with
          ⟨_, hresult, _⟩ | ⟨habsent, hempty, hresult, rfl⟩ | ⟨_, _, _, hresult, _⟩
        · cases hresult
        · cases hresult
          refine Or.inr (Or.inl ⟨hstop habsent, hempty, rfl, .unmoved ?_⟩)
          rintro table slot ⟨target, htarget, _⟩
          rw [(entryTarget_eq_none_iff _).mpr habsent] at htarget
          cases htarget
        · cases hresult
      · rcases level_cases hlevel with
          ⟨hpresent, hresult, rfl⟩ | ⟨_, _, hresult, _⟩ | ⟨habsent, frame, hmem, _, hfree⟩
        · cases hresult
          have hwalk : walk entryTarget memory.tables root (index :: rest) =
              walk entryTarget memory.tables (entryAddress (memory.tables root index)) rest := by
            rw [walk_cons, entryTarget_of_present hpresent]
            rfl
          rw [hwalk, ← walk_pointwise entryTarget
            (entryTarget_write_widen memory.tables root index writable user)]
          rcases ih hrest with ⟨table, hreached, hok, hwidened⟩ |
            ⟨hreached, hempty, hfail, hwidened⟩ | htaken
          · exact Or.inl ⟨table, hreached, hok, hwidened.cons hpresent⟩
          · exact Or.inr (Or.inl ⟨hreached, hempty, hfail, hwidened.cons hpresent⟩)
          · exact Or.inr (Or.inr htaken)
        · cases hresult
        · have htaken : reached.allocator.freeSet ⊂ memory.allocator.freeSet := by
            rw [hfree]
            exact Finset.erase_ssubset hmem
          refine Or.inr (Or.inr ⟨hstop habsent, ?_⟩)
          rcases ih hrest with ⟨_, _, _, hwidened⟩ | ⟨_, _, _, hwidened⟩ | ⟨_, hsmaller⟩
          · rwa [hwidened.allocator]
          · rwa [hwidened.allocator]
          · exact hsmaller.trans htaken

/-- Along existing tables, none of them null, the way down does return. -/
theorem descend_returns (writable user : Bool)
    (hwalk : (walk entryTarget memory.tables root path).isSome)
    (hvalid : ∀ table slot, Passes entryTarget memory.tables root path table slot →
      Dereferenceable (entryAddress (memory.tables table slot))) :
    ∃ result next, exec (descend writable user root path) memory = some (result, next) := by
  induction path generalizing root memory with
  | nil => exact ⟨_, _, rfl⟩
  | cons index rest ih =>
      by_cases habsent : memory.tables root index &&& presentFlag = 0#64
      · rw [walk_cons, (entryTarget_eq_none_iff _).mpr habsent] at hwalk
        cases hwalk
      have htarget := entryTarget_of_present habsent
      have hsame := entryTarget_write_widen memory.tables root index writable user
      rw [walk_cons, htarget, Option.bind_some, ← walk_pointwise entryTarget hsame] at hwalk
      have hnext := hvalid root index ⟨_, htarget, Or.inl ⟨rfl, rfl⟩⟩
      rw [descend, exec_bind_ok (exec_level_present habsent hnext writable user)]
      refine ih hwalk fun table slot hpasses => ?_
      have hbelow := (passes_pointwise entryTarget hsame _ rest table slot).mp hpasses
      have haddress := hvalid table slot ⟨_, htarget, Or.inr hbelow⟩
      obtain ⟨target, hentry⟩ := Option.isSome_iff_exists.mp hbelow.reached.1
      have hwritten := (hsame table slot).trans hentry
      rwa [entryAddress_of_target hwritten, ← entryAddress_of_target hentry]

/-- Every entry of every page table of the tree, and the allocator, are as
before. -/
structure Unchanged (root : U64) (before after : PhysicalMemory) : Prop where
  allocator : after.allocator = before.allocator
  entries : ∀ table, Node entryTarget 3 {root} before.tables table →
    ∀ index, after.tables table index = before.tables table index

/-- The tables on the way to an address already allow what is asked for, and
if one of them is missing there is no frame to make it from. -/
structure Settled (memory : PhysicalMemory) (root virtualAddress : U64) (writable user : Bool) :
    Prop where
  granted : ∀ table slot,
    Passes entryTarget memory.tables root (pagePath virtualAddress) table slot →
    Grants (memory.tables table slot) writable user
  exhausted : walk entryTarget memory.tables root (pagePath virtualAddress) = none →
    memory.allocator.freeSet = ∅

/-- Without a frame taken, memory is unchanged exactly if no entry on the way
was widened. -/
theorem Widened.unchanged_iff {virtualAddress : U64}
    (hwidened : Widened writable user root (pagePath virtualAddress) memory next) :
    Unchanged root memory next ↔ ∀ table slot,
      Passes entryTarget memory.tables root (pagePath virtualAddress) table slot →
      Grants (memory.tables table slot) writable user := by
  constructor
  · intro hsame table slot hpasses
    obtain ⟨_, front, hfront, hwalk⟩ := hpasses.reached
    have hnode : Node entryTarget 3 {root} memory.tables table :=
      Node.of_walk rfl hfront.le hwalk
    rw [← hsame.entries table hnode slot, hwidened.passed table slot hpasses]
    exact grants_widen _ writable user
  · intro hgranted
    refine ⟨hwidened.allocator, fun table _ slot => ?_⟩
    by_cases hpasses : Passes entryTarget memory.tables root (pagePath virtualAddress) table slot
    · rw [hwidened.passed table slot hpasses, widen_of_grants (hgranted table slot hpasses)]
    · exact hwidened.other table slot hpasses

/-- A `map` that fails has changed nothing exactly if its arguments were
rejected or there was nothing for it to do on the way down. -/
theorem failed_map_changes_nothing_iff (memory next : PhysicalMemory)
    (pml4 virtualAddress physicalAddress : U64) (writable user : Bool) (message : String)
    (hfail : exec (map pml4 virtualAddress physicalAddress writable user) memory =
      some (.error message, next)) :
    Unchanged pml4 memory next ↔
      (Mappable virtualAddress physicalAddress →
        Settled memory pml4 virtualAddress writable user) := by
  by_cases hargs : Mappable virtualAddress physicalAddress
  swap
  · obtain ⟨_, hreject⟩ := map_of_not_mappable pml4 memory hargs writable user
    rw [hfail] at hreject
    cases hreject
    exact iff_of_true ⟨rfl, fun _ _ _ => rfl⟩ (fun h => absurd h hargs)
  rw [map_eq_descend hargs] at hfail
  simp only [hargs, forall_const]
  -- The last level leaves memory as the way down did.
  obtain ⟨result, hdescend⟩ : ∃ result,
      exec (descend writable user pml4 (pagePath virtualAddress)) memory = some (result, next) := by
    rcases exec_bind_cases hfail with ⟨_, _, hstop⟩ | ⟨pt, reached, hok, hleaf⟩
    · exact ⟨_, hstop⟩
    · rw [setLeaf_of_error hleaf]
      exact ⟨_, hok⟩
  rcases descend_cases hdescend with
    ⟨pt, hwalk, _, hwidened⟩ | ⟨hwalk, hempty, _, hwidened⟩ | ⟨hwalk, hsmaller⟩
  · rw [hwidened.unchanged_iff]
    exact ⟨fun hgranted => ⟨hgranted, fun hnone => by rw [hwalk] at hnone; cases hnone⟩,
      fun hsettled => hsettled.granted⟩
  · rw [hwidened.unchanged_iff]
    exact ⟨fun hgranted => ⟨hgranted, fun _ => hempty⟩, fun hsettled => hsettled.granted⟩
  · -- A frame was taken and is still taken where the call fails.
    apply iff_of_false
    · intro hsame
      rw [hsame.allocator] at hsmaller
      exact ssubset_irrefl _ hsmaller
    · intro hsettled
      rw [hsettled.exhausted hwalk] at hsmaller
      exact Finset.not_ssubset_empty _ hsmaller

/-- With no frame left the first table cannot be made, and nothing changes. -/
theorem failed_map_changes_nothing_exhausted :
    ∃ message next,
      exec (map 0x9000#64 0x400000#64 0x5000#64 true true) ⟨reserved, fun _ _ => 0#64⟩ =
        some (.error message, next) ∧
      Unchanged 0x9000#64 ⟨reserved, fun _ _ => 0#64⟩ next := by
  have hargs : Mappable 0x400000#64 0x5000#64 := ⟨by decide, by decide, by decide, by decide⟩
  have hempty := reserved_booting.2
  have hzero : (0#64 : U64) &&& presentFlag = 0#64 := by decide
  have hstop : exec (level 0x9000#64 (indexes 0x400000#64).1 true true)
      ⟨reserved, fun _ _ => 0#64⟩ =
        some (.error "out of physical memory", ⟨reserved, fun _ _ => 0#64⟩) := by
    apply exec_level_exhausted
    · exact hzero
    · exact allocateFrame_empty reserved_booting.1.consistent hempty
  have hfail : exec (map 0x9000#64 0x400000#64 0x5000#64 true true)
      ⟨reserved, fun _ _ => 0#64⟩ =
        some (.error "out of physical memory", ⟨reserved, fun _ _ => 0#64⟩) := by
    rw [map_eq_descend hargs]
    exact exec_bind_error (exec_bind_error hstop _) _
  refine ⟨_, _, hfail, ?_⟩
  apply (failed_map_changes_nothing_iff _ _ _ _ _ _ _ _ hfail).mpr
  intro _
  refine ⟨fun table slot hpasses => ?_, fun _ => hempty⟩
  have hsome := hpasses.reached.1
  rw [entryTarget_zero] at hsome
  cases hsome

/-- An allocator whose only free frame is the one at 2 MiB. -/
def lastFrame : Frame := ⟨512, by rw [maxFrames_eq]; omega⟩

def almostExhausted : FrameAllocator :=
  {reserved.markFree lastFrame with freeFrames := 1}

theorem freeSet_almostExhausted : almostExhausted.freeSet = {lastFrame} := by
  change (reserved.markFree lastFrame).freeSet = {lastFrame}
  rw [freeSet_markFree, reserved_booting.2]
  rfl

theorem almostExhausted_consistent : almostExhausted.Consistent where
  count_eq := by
    rw [freeSet_almostExhausted, Finset.card_singleton]
    rfl
  disjoint := by
    have halloc : almostExhausted.allocSet = ∅ := reserved_booting.1.none_allocated
    rw [halloc]
    exact Finset.disjoint_empty_right _

/-- The one free frame becomes the PDPT, the page directory cannot be made, and
the frame stays taken. -/
theorem failed_map_keeps_frame :
    ∃ message next,
      exec (map 0x9000#64 0x400000#64 0x5000#64 true true) ⟨almostExhausted, fun _ _ => 0#64⟩ =
        some (.error message, next) ∧
      almostExhausted.isUsed lastFrame = false ∧ next.allocator.isUsed lastFrame = true := by
  have hargs : Mappable 0x400000#64 0x5000#64 := ⟨by decide, by decide, by decide, by decide⟩
  have hmem : lastFrame ∈ almostExhausted.freeSet := by simp [freeSet_almostExhausted]
  have hgone : (almostExhausted.handOut lastFrame).freeSet = ∅ := by
    rw [freeSet_handOut, freeSet_almostExhausted, Finset.erase_singleton]
  have haddress : frameAddress lastFrame = 0x200000#64 := by
    rw [← BitVec.toNat_inj, frameAddress_toNat]
    rfl
  have halloc : almostExhausted.allocateFrame =
      some (some 0x200000#64, almostExhausted.handOut lastFrame) := by
    rcases allocateFrame_spec almostExhausted_consistent with
      ⟨hempty, _⟩ | ⟨frame, hframe, _, halloc⟩
    · rw [hempty] at hmem
      exact absurd hmem (Finset.notMem_empty _)
    · rw [freeSet_almostExhausted, Finset.mem_singleton] at hframe
      rw [halloc, hframe, haddress]
  have hzero : (0#64 : U64) &&& presentFlag = 0#64 := by decide
  let linked : PhysicalMemory := ⟨almostExhausted.handOut lastFrame,
    write (fill (fun _ _ => 0#64) 0x200000#64 0#64) 0x9000#64 (indexes 0x400000#64).1
      (makeEntry 0x200000#64 true true)⟩
  have hfirst : exec (level 0x9000#64 (indexes 0x400000#64).1 true true)
      ⟨almostExhausted, fun _ _ => 0#64⟩ = some (.ok 0x200000#64, linked) := by
    apply exec_level_absent
    · exact hzero
    · exact halloc
    · decide
  have hsecond : exec (level 0x200000#64 (indexes 0x400000#64).2.1 true true) linked =
      some (.error "out of physical memory", linked) := by
    apply exec_level_exhausted
    · simp only [linked]
      rw [write_other _ (by decide), fill_same, hzero]
    · exact allocateFrame_empty (handOut_consistent almostExhausted_consistent hmem) hgone
  refine ⟨"out of physical memory", linked, ?_, by simpa using hmem, ?_⟩
  · rw [map_eq_descend hargs, pagePath, descend, exec_bind_error]
    rw [exec_bind_ok hfirst]
    exact exec_bind_error hsecond _
  · have hnot : lastFrame ∉ (almostExhausted.handOut lastFrame).freeSet := by
      rw [hgone]
      exact Finset.notMem_empty _
    simpa using hnot

/-- The tables `translate` reads on its way to an address. Below the PML4 an
entry with the huge-page flag maps data and leads to no table. -/
def treeTables (tables : U64 → PageTable) (root virtualAddress : U64) : List U64 :=
  root ::
    if pml4Entry tables root virtualAddress &&& presentFlag = 0#64 then []
    else entryAddress (pml4Entry tables root virtualAddress) ::
      if pdptEntry tables root virtualAddress &&& presentFlag = 0#64 ∨
          pdptEntry tables root virtualAddress &&& hugePageFlag ≠ 0#64 then []
      else entryAddress (pdptEntry tables root virtualAddress) ::
        if pdEntry tables root virtualAddress &&& presentFlag = 0#64 ∨
            pdEntry tables root virtualAddress &&& hugePageFlag ≠ 0#64 then []
        else [entryAddress (pdEntry tables root virtualAddress)]

/-- The page-table frames of a tree. -/
def TreeTable (tables : U64 → PageTable) (root frame : U64) : Prop :=
  ∃ virtualAddress, frame ∈ treeTables tables root virtualAddress

/-- Where a call of `map` goes that returns, whatever it does there: at least
as far as present entries lead. -/
theorem visited_prefix_touched {result : Except String U64}
    (hexec : exec (descend writable user root path) memory = some (result, next)) :
    visited entryTarget memory.tables root path <+: touched writable user root path memory := by
  induction path generalizing root memory with
  | nil => exact List.prefix_rfl
  | cons index rest ih =>
      by_cases habsent : memory.tables root index &&& presentFlag = 0#64
      · rw [visited, (entryTarget_eq_none_iff _).mpr habsent, touched]
        exact List.prefix_append [root] _
      rcases exec_bind_cases hexec with ⟨message, _, hlevel⟩ | ⟨table, reached, hlevel, hrest⟩
      · rcases level_cases hlevel with ⟨_, hresult, _⟩ | ⟨hzero, _⟩ | ⟨hzero, _⟩
        · cases hresult
        · exact absurd hzero habsent
        · exact absurd hzero habsent
      · rcases level_cases hlevel with ⟨_, hresult, rfl⟩ | ⟨hzero, _⟩ | ⟨hzero, _⟩
        · cases hresult
          rw [visited_of_some entryTarget (entryTarget_of_present habsent), touched_cons hlevel,
            ← visited_pointwise entryTarget
              (entryTarget_write_widen memory.tables root index writable user)]
          exact (List.prefix_cons_inj root).mpr (ih hrest)
        · exact absurd hzero habsent
        · exact absurd hzero habsent

/-- It goes to one table per level, and no further. -/
theorem length_touched_le (writable user : Bool) (root : U64) (path : List (Fin 512))
    (memory : PhysicalMemory) :
    (touched writable user root path memory).length ≤ path.length + 1 := by
  induction path generalizing root memory with
  | nil => exact le_rfl
  | cons index rest ih =>
      rw [touched, List.length_cons, List.length_cons]
      split
      · exact Nat.succ_le_succ (ih _ _)
      · exact Nat.succ_le_succ (Nat.zero_le _)

/-- The first three tables on the way to an address. -/
theorem visited_pagePath {tables : U64 → PageTable} {virtualAddress : U64}
    (hpml4 : ¬ pml4Entry tables root virtualAddress &&& presentFlag = 0#64)
    (hpdpt : ¬ pdptEntry tables root virtualAddress &&& presentFlag = 0#64) :
    visited entryTarget tables root (pagePath virtualAddress) =
      [root, entryAddress (pml4Entry tables root virtualAddress)] ++
        visited entryTarget tables (entryAddress (pdptEntry tables root virtualAddress))
          [(indexes virtualAddress).2.2.1] := by
  have hfirst : entryTarget (tables root (indexes virtualAddress).1) = _ :=
    entryTarget_of_present hpml4
  have hsecond : entryTarget (tables (entryAddress (pml4Entry tables root virtualAddress))
      (indexes virtualAddress).2.1) = _ := entryTarget_of_present hpdpt
  rw [pagePath, visited_of_some entryTarget hfirst, visited_of_some entryTarget hsecond]
  rfl

/-- The fourth. -/
theorem visited_last {tables : U64 → PageTable} {virtualAddress : U64}
    (hpd : ¬ pdEntry tables root virtualAddress &&& presentFlag = 0#64) :
    visited entryTarget tables (entryAddress (pdptEntry tables root virtualAddress))
        [(indexes virtualAddress).2.2.1] =
      [entryAddress (pdptEntry tables root virtualAddress),
        entryAddress (pdEntry tables root virtualAddress)] := by
  have hthird : entryTarget (tables (entryAddress (pdptEntry tables root virtualAddress))
      (indexes virtualAddress).2.2.1) = _ := entryTarget_of_present hpd
  rw [visited_of_some entryTarget hthird, visited]

/-- The way to an address without a huge page on it. -/
theorem visited_eq_treeTables {tables : U64 → PageTable} {virtualAddress : U64}
    (hpml4 : ¬ pml4Entry tables root virtualAddress &&& presentFlag = 0#64)
    (hpdpt : ¬ pdptEntry tables root virtualAddress &&& presentFlag = 0#64)
    (hpdptHuge : pdptEntry tables root virtualAddress &&& hugePageFlag = 0#64)
    (hpd : ¬ pdEntry tables root virtualAddress &&& presentFlag = 0#64)
    (hpdHuge : pdEntry tables root virtualAddress &&& hugePageFlag = 0#64) :
    visited entryTarget tables root (pagePath virtualAddress) =
      treeTables tables root virtualAddress := by
  rw [visited_pagePath hpml4 hpdpt, visited_last hpd, treeTables, if_neg hpml4,
    if_neg (not_or.mpr ⟨hpdpt, not_not.mpr hpdptHuge⟩),
    if_neg (not_or.mpr ⟨hpd, not_not.mpr hpdHuge⟩)]
  rfl

/-- The entries passed on the way to an address. -/
theorem passes_pagePath {tables : U64 → PageTable} {virtualAddress table : U64} {slot : Fin 512}
    (hpasses : Passes entryTarget tables root (pagePath virtualAddress) table slot) :
    tables table slot = pml4Entry tables root virtualAddress ∨
      tables table slot = pdptEntry tables root virtualAddress ∨
      tables table slot = pdEntry tables root virtualAddress := by
  obtain ⟨pdpt, hpdpt, ⟨rfl, rfl⟩ | hbelow⟩ := hpasses
  · exact Or.inl rfl
  obtain ⟨pd, hpd, ⟨rfl, rfl⟩ | hlast⟩ := hbelow
  · rw [← entryAddress_of_target hpdpt]
    exact Or.inr (Or.inl rfl)
  obtain ⟨pt, _, ⟨rfl, rfl⟩ | hnone⟩ := hlast
  · rw [← entryAddress_of_target hpd, ← entryAddress_of_target hpdpt]
    exact Or.inr (Or.inr rfl)
  · exact hnone.elim

section Translated

variable {virtualAddress physicalAddress translated : U64} {writable user : Bool}

/-- `descend` follows a huge page as if it were a table, which `translate` does
not. -/
theorem no_huge_of_touched {result : Except String U64}
    (htranslate : translate memory.tables root virtualAddress = some (some translated))
    (hdescend : exec (descend writable user root (pagePath virtualAddress)) memory =
      some (result, next))
    (htouched : touched writable user root (pagePath virtualAddress) memory =
      treeTables memory.tables root virtualAddress) :
    pdptEntry memory.tables root virtualAddress &&& hugePageFlag = 0#64 ∧
      pdEntry memory.tables root virtualAddress &&& hugePageFlag = 0#64 := by
  obtain ⟨_, hpml4, _, hpdpt, hlower⟩ := translate_some_cases htranslate
  have hlength := (visited_prefix_touched hdescend).length_le
  rw [htouched, treeTables, if_neg hpml4, visited_pagePath hpml4 hpdpt] at hlength
  have hpdptHuge : pdptEntry memory.tables root virtualAddress &&& hugePageFlag = 0#64 := by
    by_contra hhuge
    rw [if_pos (Or.inr hhuge)] at hlength
    simp [visited] at hlength
  refine ⟨hpdptHuge, ?_⟩
  obtain ⟨_, hpd, _⟩ := hlower hpdptHuge
  by_contra hhuge
  rw [if_neg (not_or.mpr ⟨hpdpt, not_not.mpr hpdptHuge⟩), if_pos (Or.inr hhuge),
    visited_last hpd] at hlength
  simp at hlength

/-- Without a huge page on the way, `map` goes where `translate` goes and finds
the page there. -/
theorem map_of_translated
    (htranslate : translate memory.tables root virtualAddress = some (some translated))
    (hargs : Mappable virtualAddress physicalAddress)
    (hpdptHuge : pdptEntry memory.tables root virtualAddress &&& hugePageFlag = 0#64)
    (hpdHuge : pdEntry memory.tables root virtualAddress &&& hugePageFlag = 0#64) :
    ∃ reached, exec (map root virtualAddress physicalAddress writable user) memory =
        some (.error "virtual page is already mapped", reached) ∧
      (∀ frame, ¬ TreeTable memory.tables root frame →
        reached.tables frame = memory.tables frame) ∧
      touched writable user root (pagePath virtualAddress) memory =
        treeTables memory.tables root virtualAddress := by
  obtain ⟨_, hpml4, hpml4Valid, hpdpt, hlower⟩ := translate_some_cases htranslate
  obtain ⟨hpdptValid, hpd, hlast⟩ := hlower hpdptHuge
  obtain ⟨hpdValid, hleaf⟩ := hlast hpdHuge
  have hvisited := visited_eq_treeTables hpml4 hpdpt hpdptHuge hpd hpdHuge
  have hwalk := walk_pagePath hpml4 hpdpt hpd
  obtain ⟨result, reached, hdescend⟩ := descend_returns writable user
    (Option.isSome_of_eq_some hwalk) fun table slot hpasses => by
      rcases passes_pagePath hpasses with hentry | hentry | hentry
      · rwa [hentry]
      · rwa [hentry]
      · rwa [hentry]
  rcases descend_cases hdescend with ⟨pt, hreached, rfl, hwidened⟩ | ⟨hnone, _⟩ | ⟨hnone, _⟩
  · rw [hwalk] at hreached
    cases hreached
    have hpresent : ¬ reached.tables (entryAddress (pdEntry memory.tables root virtualAddress))
        (pageSlot virtualAddress) &&& presentFlag = 0#64 := by
      rw [← entryTarget_eq_none_iff, hwidened.entryTarget_eq, entryTarget_eq_none_iff]
      exact hleaf
    refine ⟨reached, ?_, fun frame hframe => ?_, ?_⟩
    · rw [map_eq_descend hargs, exec_bind_ok hdescend]
      exact exec_setLeaf_present hpresent physicalAddress writable user
    · funext slot
      apply hwidened.other
      intro hpasses
      exact hframe ⟨virtualAddress, hvisited ▸ hpasses.mem_visited⟩
    · rw [← hvisited]
      refine ((visited_prefix_touched hdescend).eq_of_length_le ?_).symm
      rw [visited_pagePath hpml4 hpdpt, visited_last hpd]
      exact length_touched_le writable user root (pagePath virtualAddress) memory
  · rw [hwalk] at hnone
    cases hnone
  · rw [hwalk] at hnone
    cases hnone

end Translated

/-- `get_or_create_table` does not look at the huge-page flag. A call of `map`
on an address that translates fails, writes to page tables of the tree only and
works on exactly the tables that `translate` reads, unless it gets past its
argument checks and there is a huge page on the way. -/
theorem map_keeps_translation_iff (memory : PhysicalMemory)
    (pml4 virtualAddress physicalAddress translated : U64) (writable user : Bool)
    (htranslate : translate memory.tables pml4 virtualAddress = some (some translated)) :
    (∃ message next, exec (map pml4 virtualAddress physicalAddress writable user) memory =
        some (.error message, next) ∧
      (∀ frame, ¬ TreeTable memory.tables pml4 frame → next.tables frame = memory.tables frame) ∧
      (Mappable virtualAddress physicalAddress →
        touched writable user pml4 (pagePath virtualAddress) memory =
          treeTables memory.tables pml4 virtualAddress)) ↔
      (Mappable virtualAddress physicalAddress →
        pdptEntry memory.tables pml4 virtualAddress &&& hugePageFlag = 0#64 ∧
          pdEntry memory.tables pml4 virtualAddress &&& hugePageFlag = 0#64) := by
  by_cases hargs : Mappable virtualAddress physicalAddress
  swap
  · obtain ⟨message, hreject⟩ := map_of_not_mappable pml4 memory hargs writable user
    exact iff_of_true ⟨message, memory, hreject, fun _ _ => rfl, fun h => absurd h hargs⟩
      (fun h => absurd h hargs)
  simp only [hargs, forall_const]
  constructor
  · rintro ⟨_, _, hfail, _, htouched⟩
    rw [map_eq_descend hargs] at hfail
    obtain ⟨_, _, hdescend⟩ := exec_bind_returns hfail
    exact no_huge_of_touched htranslate hdescend htouched
  · rintro ⟨hpdptHuge, hpdHuge⟩
    obtain ⟨reached, hmap⟩ := map_of_translated htranslate hargs hpdptHuge hpdHuge
    exact ⟨_, reached, hmap⟩

/-- A tree of four levels with one page at `0x1000`. -/
def fourLevels : U64 → PageTable :=
  write (write (write (write (fun _ _ => 0#64) 0x9000#64 0 0xA003#64) 0xA000#64 0 0xB003#64)
    0xB000#64 0 0xC003#64) 0xC000#64 1 0x5003#64

theorem map_keeps_translation_four_levels :
    ∃ message next, exec (map 0x9000#64 0x1000#64 0x7000#64 true true) ⟨reserved, fourLevels⟩ =
        some (.error message, next) ∧
      ∀ frame, ¬ TreeTable fourLevels 0x9000#64 frame → next.tables frame = fourLevels frame := by
  obtain ⟨message, next, hexec, hframes, _⟩ := (map_keeps_translation_iff ⟨reserved, fourLevels⟩
    0x9000#64 0x1000#64 0x7000#64 0x5000#64 true true (by decide +kernel)).mpr
    fun _ => by decide +kernel
  exact ⟨message, next, hexec, hframes⟩

/-- Tables like those Stage 2 enters long mode with, whose one huge page maps the
second 2 MiB. -/
def hugeTables : U64 → PageTable :=
  write (write (write (fun _ _ => 0#64) 0x9000#64 0 0xA003#64) 0xA000#64 0 0xB003#64)
    0xB000#64 1 0x200083#64

theorem hugeTables_cases (table : U64) (index : Fin 512) :
    hugeTables table index = 0#64 ∨ table = 0x9000#64 ∧ hugeTables table index = 0xA003#64 ∨
      table = 0xA000#64 ∧ hugeTables table index = 0xB003#64 ∨
      table = 0xB000#64 ∧ hugeTables table index = 0x200083#64 := by
  simp only [hugeTables, write]
  split
  · rename_i hhit
    exact Or.inr (Or.inr (Or.inr ⟨hhit.1, rfl⟩))
  split
  · rename_i hhit
    exact Or.inr (Or.inr (Or.inl ⟨hhit.1, rfl⟩))
  split
  · rename_i hhit
    exact Or.inr (Or.inl ⟨hhit.1, rfl⟩)
  · exact Or.inl rfl

theorem treeTables_hugeTables (virtualAddress : U64) :
    treeTables hugeTables 0x9000#64 virtualAddress ⊆ [0x9000#64, 0xA000#64, 0xB000#64] := by
  rcases hugeTables_cases 0x9000#64 (indexes virtualAddress).1 with
    hzero | ⟨_, hpml4⟩ | ⟨hother, _⟩ | ⟨hother, _⟩
  · rw [treeTables, pml4Entry, hzero, if_pos (by decide)]
    decide
  · have hpdptEntry : pdptEntry hugeTables 0x9000#64 virtualAddress =
        hugeTables 0xA000#64 (indexes virtualAddress).2.1 := by
      rw [pdptEntry, pml4Entry, hpml4]
      rfl
    rw [treeTables, pml4Entry, hpml4, hpdptEntry]
    rcases hugeTables_cases 0xA000#64 (indexes virtualAddress).2.1 with
      hzero | ⟨hother, _⟩ | ⟨_, hpdpt⟩ | ⟨hother, _⟩
    · rw [hzero, if_neg (by decide), if_pos (Or.inl (by decide))]
      decide
    · exact absurd hother (by decide)
    · have hpdEntry : pdEntry hugeTables 0x9000#64 virtualAddress =
          hugeTables 0xB000#64 (indexes virtualAddress).2.2.1 := by
        rw [pdEntry, hpdptEntry, hpdpt]
        rfl
      rw [hpdpt, hpdEntry]
      rcases hugeTables_cases 0xB000#64 (indexes virtualAddress).2.2.1 with
        hzero | ⟨hother, _⟩ | ⟨hother, _⟩ | ⟨_, hpd⟩
      · rw [hzero]
        decide
      · exact absurd hother (by decide)
      · exact absurd hother (by decide)
      · rw [hpd]
        decide
    · exact absurd hother (by decide)
  · exact absurd hother (by decide)
  · exact absurd hother (by decide)

/-- With the huge page at `0x200000` the address `0x201000` translates to
itself. `map` takes the huge page for a page table, returns `Ok` and writes into
its first frame. -/
theorem map_writes_into_huge_page :
    translate hugeTables 0x9000#64 0x201000#64 = some (some 0x201000#64) ∧
      ∃ next, exec (map 0x9000#64 0x201000#64 0x5000#64 true false) ⟨reserved, hugeTables⟩ =
          some (.ok (), next) ∧
        next.tables 0x200000#64 1 = 0x5003#64 ∧ hugeTables 0x200000#64 1 = 0#64 ∧
        ¬ TreeTable hugeTables 0x9000#64 0x200000#64 := by
  refine ⟨by decide +kernel, _, rfl, by decide +kernel, by decide +kernel, ?_⟩
  rintro ⟨virtualAddress, hmem⟩
  exact absurd (treeTables_hugeTables virtualAddress hmem) (by decide)

end PageTable

end UnboundOS.Memory
