import UnboundOS.Memory.AddressSpace

/-!
What `AddressSpace::identity_map` leaves behind. It maps one page after another
and returns at the first one that cannot be mapped, without undoing the pages
before it. So a call that fails has left every translation alone only if it
failed at the first page or before.
-/

namespace UnboundOS.Memory

open RadixForest PageTable FrameAllocator
open Fallible (exec exec_throw exec_bind_ok exec_bind_error strideDo strideDone)

/-- The page can be mapped: the arguments are accepted, it is not mapped, and
there are frames for the tables that are missing on the way to it. -/
structure CanMap (memory : PhysicalMemory) (root virtualAddress physicalAddress : U64) :
    Prop where
  args : Mappable virtualAddress physicalAddress
  unmapped : lookup entryTarget memory.tables root (pagePath virtualAddress)
    (pageSlot virtualAddress) = none
  frames : missing entryTarget memory.tables root (pagePath virtualAddress) ≤
    memory.allocator.freeSet.card

theorem map_ok_of_canMap {memory : PhysicalMemory} {roots : Set U64} (hmemory : memory.Safe roots)
    {root virtualAddress physicalAddress : U64} (hroot : root ∈ roots)
    (hcan : CanMap memory root virtualAddress physicalAddress) (writable user : Bool) :
    ∃ next, exec (map root virtualAddress physicalAddress writable user) memory =
      some (.ok (), next) := by
  obtain ⟨result, next, hexec, _, _, ⟨rfl, _⟩ | ⟨message, _, hmapped | hshort, _⟩⟩ :=
    map_returns hmemory hroot hcan.args writable user
  · exact ⟨next, hexec⟩
  · exact absurd hcan.unmapped hmapped
  · exact absurd hcan.frames (not_le.mpr hshort)

theorem map_error_of_not_canMap {memory : PhysicalMemory} {roots : Set U64}
    (hmemory : memory.Safe roots) {root virtualAddress physicalAddress : U64} (hroot : root ∈ roots)
    (hcan : ¬ CanMap memory root virtualAddress physicalAddress) (writable user : Bool) :
    ∃ message next, exec (map root virtualAddress physicalAddress writable user) memory =
      some (.error message, next) := by
  by_cases hargs : Mappable virtualAddress physicalAddress
  · obtain ⟨result, next, hexec, _, _, ⟨_, hunmapped, hroom, _⟩ | ⟨message, rfl, _⟩⟩ :=
      map_returns hmemory hroot hargs writable user
    · exact absurd ⟨hargs, hunmapped, hroom⟩ hcan
    · exact ⟨message, next, hexec⟩
  · obtain ⟨message, hfail⟩ := map_of_not_mappable root memory hargs writable user
    exact ⟨message, memory, hfail⟩

/-- The ranges `identityMap` accepts. -/
structure PageRange (start finish : U64) : Prop where
  start_aligned : start % pageSize = 0#64
  finish_aligned : finish % pageSize = 0#64
  nonempty : start < finish

namespace PageRange

variable {start finish : U64} (hrange : PageRange start finish)

include hrange

theorem dvd_start : pageSize.toNat ∣ start.toNat :=
  Nat.dvd_of_mod_eq_zero (congrArg BitVec.toNat hrange.start_aligned)

theorem dvd_finish : pageSize.toNat ∣ finish.toNat :=
  Nat.dvd_of_mod_eq_zero (congrArg BitVec.toNat hrange.finish_aligned)

/-- An address lies in the range if its page does. -/
theorem pageOf_iff (address : U64) :
    (start ≤ pageOf address ∧ pageOf address < finish ∧
      pageSize.toNat ∣ (pageOf address).toNat) ↔ start ≤ address ∧ address < finish := by
  have hstart : start.toNat % 4096 = 0 := congrArg BitVec.toNat hrange.start_aligned
  have hfinish : finish.toNat % 4096 = 0 := congrArg BitVec.toNat hrange.finish_aligned
  have hpage := pageOf_toNat address
  have hsize : pageSize.toNat = 4096 := rfl
  rw [BitVec.le_def, BitVec.le_def, BitVec.lt_def, BitVec.lt_def, hsize]
  omega

end PageRange

namespace AddressSpace

variable (space : AddressSpace) (writable : Bool) (memory : PhysicalMemory) {start finish : U64}

theorem identityMap_rejected (hrange : ¬ PageRange start finish) :
    ∃ message, exec (space.identityMap start finish writable) memory =
      some (.error message, memory) := by
  rw [identityMap]
  by_cases hstart : start % pageSize = 0#64
  · by_cases hfinish : finish % pageSize = 0#64
    · have hempty : finish ≤ start := by
        by_contra hless
        exact hrange ⟨hstart, hfinish, BitVec.not_le.mp hless⟩
      rw [if_neg (not_not.mpr hstart), if_neg (not_not.mpr hfinish), if_pos hempty]
      exact ⟨_, exec_throw _ _⟩
    · rw [if_neg (not_not.mpr hstart), if_pos hfinish]
      exact ⟨_, exec_throw _ _⟩
  · rw [if_pos hstart]
    exact ⟨_, exec_throw _ _⟩

theorem identityMap_accepted (hroot : Dereferenceable space.pml4Phys)
    (hrange : PageRange start finish) :
    exec (space.identityMap start finish writable) memory =
        exec (strideDo pageSize (by decide) finish
          (identityMapPage space.pml4Phys writable) start) memory ∧
      space.identityMapped start finish writable memory =
        strideDone pageSize (by decide) finish (identityMapPage space.pml4Phys writable) start
          memory := by
  obtain ⟨hstart, hfinish, hnonempty⟩ := hrange
  have hnot : ¬ finish ≤ start := BitVec.not_le.mpr hnonempty
  rw [identityMap, identityMapped, if_neg (not_not.mpr hstart), if_neg (not_not.mpr hstart),
    if_neg (not_not.mpr hfinish), if_neg (not_not.mpr hfinish), if_neg hnot, if_neg hnot,
    exec_bind_ok (exec_tableAt hroot memory)]
  exact ⟨rfl, rfl⟩

end AddressSpace

namespace SpaceSystem

variable {system : SpaceSystem} {space : AddressSpace} {start finish : U64} {writable : Bool}
  {next : PhysicalMemory}

/-- A call that returns `Ok` has mapped every page of the range to itself and
nothing else. -/
theorem identityMap_ok (hbefore : system.memory.Safe system.roots) (hspace : space ∈ system.spaces)
    (hexec : exec (space.identityMap start finish writable) system.memory = some (.ok (), next))
    (hdone : system.IdentityMapping space writable
      (space.identityMapped start finish writable system.memory) next)
    {other : AddressSpace} (hother : other ∈ system.spaces) (address : U64) :
    translate next.tables other.pml4Phys address =
      if other = space ∧ start ≤ address ∧ address < finish then some (some address)
      else translate system.memory.tables other.pml4Phys address := by
  by_cases hrange : PageRange start finish
  swap
  · obtain ⟨message, hfail⟩ := space.identityMap_rejected writable system.memory hrange
    rw [hexec] at hfail
    cases hfail
  obtain ⟨hloop, hpages⟩ :=
    space.identityMap_accepted writable system.memory
      (hbefore.root (pml4Phys_mem_roots hspace)) hrange
  rw [hloop] at hexec
  rw [hpages] at hdone
  have hmem : pageOf address ∈ strideDone pageSize (by decide) finish
      (AddressSpace.identityMapPage space.pml4Phys writable) start system.memory ↔
        start ≤ address ∧ address < finish := by
    rw [Fallible.mem_strideDone_of_ok hrange.dvd_finish hrange.dvd_start hexec,
      hrange.pageOf_iff address]
  have hroot := pml4Phys_mem_roots hother
  by_cases hinside : other = space ∧ start ≤ address ∧ address < finish
  · rw [if_pos hinside]
    obtain ⟨rfl, hin⟩ := hinside
    have hpage := hmem.mpr hin
    have hmapped (page : U64) (state reached : PhysicalMemory)
        (hok : exec (AddressSpace.identityMapPage other.pml4Phys writable page) state =
          some (.ok (), reached)) : Mappable page page := mappable_of_ok hok
    have hargs : Mappable (pageOf address) (pageOf address) :=
      Fallible.strideDone_shows hmapped start system.memory _ hpage
    have hleaf := hdone.pages other hother _ hargs.canonical hargs.aligned
    rw [if_pos ⟨rfl, hpage⟩] at hleaf
    rw [translate_mapped hdone.safe hroot (canonical_of_pageOf hargs.canonical)
      hargs.addressable hleaf, pageOf_add_offset]
  · rw [if_neg hinside]
    apply translate_congr hbefore.toSound hdone.safe.toSound hroot (clear_of_safe hbefore hroot _)
      (clear_of_safe hdone.safe hroot _)
    intro hcanonical
    rw [hdone.pages other hother _ (pageOf_canonical hcanonical) (pageOf_aligned address), if_neg]
    rintro ⟨rfl, hpage⟩
    exact hinside ⟨rfl, hmem.mp hpage⟩

/-- With the first page mapped, its translation has changed, wherever the call
stops. -/
theorem identityMap_first_mapped (hbefore : system.memory.Safe system.roots)
    (hspace : space ∈ system.spaces) (hrange : PageRange start finish)
    (hcan : CanMap system.memory space.pml4Phys start start)
    (hdone : system.IdentityMapping space writable
      (space.identityMapped start finish writable system.memory) next) :
    translate next.tables space.pml4Phys start = some (some start) ∧
      translate system.memory.tables space.pml4Phys start = some none := by
  have hroot := pml4Phys_mem_roots hspace
  have hpage : pageOf start = start := by rw [pageOf, hrange.start_aligned, BitVec.sub_zero]
  obtain ⟨hadd, _⟩ := Fallible.stride_room hrange.dvd_finish hrange.dvd_start hrange.nonempty
  obtain ⟨mapped, hok⟩ := map_ok_of_canMap hbefore hroot hcan writable false
  obtain ⟨_, hpages⟩ :=
    space.identityMap_accepted writable system.memory (hbefore.root hroot) hrange
  rw [hpages, Fallible.strideDone_step hrange.nonempty hadd hok] at hdone
  have hleaf := hdone.pages space hspace start hcan.args.canonical hcan.args.aligned
  rw [if_pos ⟨rfl, List.mem_cons_self⟩] at hleaf
  constructor
  · rw [translate_mapped hdone.safe hroot hcan.args.canonical hcan.args.addressable
      (by rw [hpage]; exact hleaf), hrange.start_aligned, BitVec.add_zero]
  · apply translate_unmapped hbefore hroot
    rw [hpage]
    exact hcan.unmapped

/-- If the first page cannot be mapped, no page is. -/
theorem identityMapped_eq_nil (hbefore : system.memory.Safe system.roots)
    (hspace : space ∈ system.spaces)
    (hcan : ¬ (PageRange start finish ∧ CanMap system.memory space.pml4Phys start start)) :
    space.identityMapped start finish writable system.memory = [] := by
  by_cases hrange : PageRange start finish
  · have hfirst : ¬ CanMap system.memory space.pml4Phys start start := fun h => hcan ⟨hrange, h⟩
    obtain ⟨message, stopped, hfail⟩ :=
      map_error_of_not_canMap hbefore (pml4Phys_mem_roots hspace) hfirst writable false
    have hstop : exec (AddressSpace.identityMapPage space.pml4Phys writable start) system.memory =
        some (.error message, stopped) := hfail
    obtain ⟨_, hpages⟩ := space.identityMap_accepted writable system.memory
      (hbefore.root (pml4Phys_mem_roots hspace)) hrange
    rw [hpages, strideDone, dif_pos hrange.nonempty, hstop]
  · rw [AddressSpace.identityMapped]
    split
    · rfl
    next hstart =>
      split
      · rfl
      next hfinish =>
        split
        · rfl
        next hless =>
          exact absurd ⟨not_not.mp hstart, not_not.mp hfinish, BitVec.not_le.mp hless⟩ hrange

/-- `identityMap` always returns. After `Ok` the range is mapped to itself and
every other address of every space goes where it went before. After a failure
all addresses go where they went before exactly if the range was rejected or
its first page could not be mapped. -/
theorem identityMap_all_or_nothing_iff (system : SpaceSystem) (hsystem : system.Constructed)
    (space : AddressSpace) (hspace : space ∈ system.spaces) (start finish : U64)
    (writable : Bool) :
    ∃ result next, exec (space.identityMap start finish writable) system.memory =
        some (result, next) ∧
      (result = .ok () → ∀ other ∈ system.spaces, ∀ address,
        translate next.tables other.pml4Phys address =
          if other = space ∧ start ≤ address ∧ address < finish then some (some address)
          else translate system.memory.tables other.pml4Phys address) ∧
      ∀ message, result = .error message →
        ((∀ address, translate next.tables space.pml4Phys address =
            translate system.memory.tables space.pml4Phys address) ↔
          ¬ (PageRange start finish ∧ CanMap system.memory space.pml4Phys start start)) := by
  obtain ⟨history, hfollows⟩ := hsystem.follows
  have hbefore := hfollows.safe
  obtain ⟨result, next, hexec, hdone⟩ := identityMap_spec hfollows hspace start finish writable
  refine ⟨result, next, hexec, ?_, fun message hfail => ⟨fun hsame hcan => ?_,
    fun hcan address => ?_⟩⟩
  · rintro rfl other hother address
    exact identityMap_ok hbefore hspace hexec hdone hother address
  · obtain ⟨hmapped, hunmapped⟩ := identityMap_first_mapped hbefore hspace hcan.1 hcan.2 hdone
    rw [hsame start, hunmapped] at hmapped
    cases hmapped
  · rw [identityMapped_eq_nil hbefore hspace hcan] at hdone
    have hroot := pml4Phys_mem_roots hspace
    apply translate_congr hbefore.toSound hdone.safe.toSound hroot (clear_of_safe hbefore hroot _)
      (clear_of_safe hdone.safe hroot _)
    intro hcanonical
    rw [hdone.pages space hspace _ (pageOf_canonical hcanonical) (pageOf_aligned address),
      if_neg (fun h => List.not_mem_nil h.2)]

/-- A zeroed PML4 and no free frame: the first page cannot be mapped. -/
theorem identityMap_all_or_nothing_exhausted :
    ∃ result next,
      exec (AddressSpace.identityMap ⟨0x9000#64⟩ 0#64 0x200000#64 true)
        ⟨reserved, fun _ _ => 0#64⟩ = some (result, next) ∧
      ∀ message, result = .error message → ∀ address,
        translate next.tables 0x9000#64 address =
          translate (fun _ _ => 0#64) 0x9000#64 address := by
  have hsystem : Constructed ⟨⟨reserved, fun _ _ => 0#64⟩, [⟨0x9000#64⟩]⟩ := by
    apply constructed_zeroed reserved_booting.1
    intro frame hframe
    rw [reserved_booting.2] at hframe
    exact absurd hframe (Finset.notMem_empty frame)
  obtain ⟨result, next, hexec, _, hsame⟩ := identityMap_all_or_nothing_iff _ hsystem ⟨0x9000#64⟩
    (List.mem_singleton_self _) 0#64 0x200000#64 true
  refine ⟨result, next, hexec, fun message hfail => (hsame message hfail).mpr ?_⟩
  rintro ⟨_, hcan⟩
  have hframes := hcan.frames
  rw [missing_blank (fun _ => rfl), reserved_booting.2] at hframes
  exact absurd hframes (by decide)

/-- The last page of the lower half can be mapped, the one after it is not
canonical. The call fails and the first page stays mapped. -/
theorem identityMap_leaves_first_page :
    ∃ allocator events system space message next,
      initializeAllocator [⟨0x100000#64, 0x200000#64, 1#32, 1#32⟩] 0x100000#64 0x200000#64 =
        some allocator ∧
      runChecked step ⟨⟨allocator, fun _ _ => 0#64⟩, []⟩ [.new] = some (events, system) ∧
      space ∈ system.spaces ∧
      exec (space.identityMap 0x7FFFFFFFF000#64 0x800000001000#64 true) system.memory =
        some (.error message, next) ∧
      translate system.memory.tables space.pml4Phys 0x7FFFFFFFF000#64 = some none ∧
      translate next.tables space.pml4Phys 0x7FFFFFFFF000#64 = some (some 0x7FFFFFFFF000#64) := by
  obtain ⟨allocator, hinit, hfree⟩ := initializeAllocator_above_kernel
  have hstart : Follows ⟨⟨allocator, fun _ _ => 0#64⟩, []⟩ [] :=
    untouched_follows (initializeAllocator_booting hinit).consistent
      (initializeAllocator_nullReserved hinit) (fun space hspace => absurd hspace List.not_mem_nil)
  have hmany : 4 ≤ allocator.freeSet.card := by
    apply le_card_freeSet 512 4
    · rw [maxFrames_eq]
      omega
    · intro frame hlow hhigh
      exact (hfree frame).mpr ⟨hlow, by omega⟩
  rcases new_spec hstart with ⟨hempty, _⟩ | ⟨frame, hframe, hnew⟩
  · have hnone : allocator.freeSet = ∅ := hempty
    rw [hnone] at hmany
    exact absurd hmany (by decide)
  have hfollows := plant_follows hstart hframe
  let system : SpaceSystem := ⟨⟨allocator.handOut frame,
    fill (fun _ _ => 0#64) (frameAddress frame) 0#64⟩, [⟨frameAddress frame⟩]⟩
  let space : AddressSpace := ⟨frameAddress frame⟩
  have hspace : space ∈ system.spaces := List.mem_singleton_self _
  have hrange : PageRange 0x7FFFFFFFF000#64 0x800000001000#64 := ⟨by decide, by decide, by decide⟩
  have hcan : CanMap system.memory space.pml4Phys 0x7FFFFFFFF000#64 0x7FFFFFFFF000#64 := by
    refine ⟨⟨by decide, by decide, by decide, by decide⟩, lookup_blank entryTarget_zero _ _, ?_⟩
    rw [missing_blank (fun slot => fill_same _ _ _ slot)]
    change 3 ≤ (allocator.handOut frame).freeSet.card
    rw [freeSet_handOut, Finset.card_erase_of_mem hframe]
    change 3 ≤ allocator.freeSet.card - 1
    omega
  obtain ⟨result, next, hexec, hdone⟩ := identityMap_spec hfollows hspace 0x7FFFFFFFF000#64
    0x800000001000#64 true
  obtain ⟨hmapped, hunmapped⟩ :=
    identityMap_first_mapped hfollows.safe hspace hrange hcan hdone
  have hfail : ∃ message, result = .error message := by
    cases result with
    | error message => exact ⟨message, rfl⟩
    | ok value =>
        -- The second page of the range would be mapped, but it is not canonical.
        have hsecond := identityMap_ok hfollows.safe hspace hexec hdone hspace 0x800000000000#64
        rw [if_pos ⟨rfl, by decide, by decide⟩, translate_noncanonical _ _ (by decide)] at hsecond
        cases hsecond
  obtain ⟨message, rfl⟩ := hfail
  refine ⟨allocator, [.created (.ok space)], system, space, message, next, hinit, ?_, hspace, hexec,
    hunmapped, hmapped⟩
  rw [runChecked_cons hnew]
  rfl

end SpaceSystem

end UnboundOS.Memory
