import UnboundOS.Memory.BootSpace
import UnboundOS.Memory.HeapOutcome
import UnboundOS.Memory.IdentityRange
import UnboundOS.X86.Machine

/-!
Where ring 3 starts. `_start` maps the page that holds the user code and then
enters ring 3 at the first byte of that page, whatever offset the linker gave
the entry symbol. The pages mapped afterwards, the user stack and the heap,
leave the entry where it is.
-/

namespace UnboundOS.Memory

open PageTable FrameAllocator RadixForest X86
open SpaceSystem (leaf leaf_of_leafSet translate_congr translate_mapped constructed_zeroed)
open Fallible (exec exec_pure exec_update exec_bind_ok exec_bind_success exec_update_cases
  exec_checked_cases)

namespace Boot

def userDataSelectorR3 : U64 := 0x28#64 ||| 3#64

def userCodeSelectorR3 : U64 := 0x30#64 ||| 3#64

/-- `enter_ring3`: the frame of an interrupt that never happened. -/
def enterRing3 (entry userStack : U64) (self : Machine) : Machine :=
  (((((self.pushWord userDataSelectorR3).pushWord userStack).pushWord 0x202#64).pushWord
    userCodeSelectorR3).pushWord entry).iretq

def userEntry : U64 := userCodeVaddr

def userStackTop : U64 := userStackVaddr + userStackSize

theorem enterRing3_rip (entry userStack : U64) (self : Machine) :
    (enterRing3 entry userStack self).rip = entry := by
  have hempty : self.Stack [] := trivial
  have hframe := ((((hempty.pushWord (by simp) userDataSelectorR3).pushWord (by simp)
    userStack).pushWord (by simp) 0x202#64).pushWord (by simp) userCodeSelectorR3).pushWord
    (by simp) entry
  exact (Machine.iretq_spec hframe).1

/-- The first instruction that ring 3 fetches lies at `physicalAddress`. -/
def StartsAt (memory : PhysicalMemory) (pml4 physicalAddress : U64) : Prop :=
  ∀ cpu : Machine, PageTable.translate memory.tables pml4
    (enterRing3 userEntry userStackTop cpu).rip = some (some physicalAddress)

theorem startsAt_iff (memory : PhysicalMemory) (pml4 physicalAddress : U64) :
    StartsAt memory pml4 physicalAddress ↔
      PageTable.translate memory.tables pml4 userEntry = some (some physicalAddress) := by
  simp only [StartsAt, enterRing3_rip]
  exact ⟨fun hstarts => hstarts ⟨fun _ => 0#64, fun _ => 0#8, 0#64, 0#64, 0#16, 0#16, []⟩,
    fun hentry _ => hentry⟩

variable {roots : Set U64} {memory next : PhysicalMemory} {pml4 : U64}
  {space : AddressSpace}

/-- A check that passes has seen the expected translation and changed
nothing. -/
theorem checkTranslation_passed {virtualAddress : U64} {expected : Option U64}
    {wrong unmapped : String}
    (hcheck : exec (checkTranslation pml4 virtualAddress expected wrong unmapped) memory =
      some (.ok (), next)) :
    next = memory ∧ PageTable.translate memory.tables pml4 virtualAddress = some expected := by
  obtain ⟨found, read, hread, hrest⟩ := exec_bind_success hcheck
  obtain ⟨_, hvalue, hpair⟩ := exec_update_cases hread
  cases hvalue
  obtain ⟨_, htranslate, hsame⟩ := Option.bind_eq_some_iff.mp hpair
  cases hsame
  by_cases hexpected : found = expected
  · rw [if_pos hexpected, exec_pure] at hrest
    cases hrest
    exact ⟨rfl, hexpected ▸ htranslate⟩
  · rw [if_neg hexpected] at hrest
    cases found <;> simp at hrest

/-- The user entry is mapped, in tables that are sound. -/
structure EntryAt (roots : Set U64) (space : AddressSpace) (physicalAddress : U64)
    (memory : PhysicalMemory) : Prop where
  sound : memory.Sound roots
  root : space.pml4Phys ∈ roots
  entry : PageTable.translate memory.tables space.pml4Phys userEntry = some (some physicalAddress)

variable {userCodePage : U64}

/-- A successful `map` of another page leaves the entry where it is. -/
theorem map_elsewhere (hentry : EntryAt roots space userCodePage memory)
    {virtualAddress physicalAddress : U64} {writable user : Bool}
    (hmap : exec (map space.pml4Phys virtualAddress physicalAddress writable user) memory =
      some (.ok (), next)) (helsewhere : pageOf userEntry ≠ virtualAddress) :
    EntryAt roots space userCodePage next := by
  obtain ⟨hmemory, hroot, htranslate⟩ := hentry
  obtain ⟨hgrew, hargs, hleaf⟩ := map_ok_spec hmemory hroot hmap
  obtain ⟨hwalk, hclear⟩ := clear_of_translate hmemory hroot htranslate
  refine ⟨hgrew.sound, hroot, ?_⟩
  rw [translate_congr hmemory hgrew.sound hroot hclear (hgrew.clear hroot hwalk hclear), htranslate]
  intro hcanonical
  rw [leaf_of_leafSet hargs.canonical hargs.aligned hleaf hroot
    (pageOf_canonical hcanonical) (pageOf_aligned userEntry), if_neg]
  exact fun hsame => helsewhere hsame.2.symm

/-- The stack pages lie above the page of the user code. -/
theorem mapUserStackPages_entry {userStackPhysical : U64} {left : Nat} {page : U64}
    (hentry : EntryAt roots space userCodePage memory)
    (hpages : exec (mapUserStackPages space.pml4Phys userStackPhysical left page) memory =
      some (.ok (), next)) : EntryAt roots space userCodePage next := by
  induction left generalizing memory page with
  | zero =>
      cases hpages
      exact hentry
  | succ left ih =>
      obtain ⟨physicalAddress, _, hphysical, hrest₁⟩ := exec_bind_success hpages
      obtain ⟨_, _, _, rfl⟩ := exec_checked_cases hphysical
      obtain ⟨virtualAddress, _, hvirtual, hrest₂⟩ := exec_bind_success hrest₁
      obtain ⟨_, hvalue, hsum, rfl⟩ := exec_checked_cases hvirtual
      cases hvalue
      obtain ⟨_, mapped, hmap, hrest⟩ := exec_bind_success hrest₂
      have habove : pageOf userEntry ≠ virtualAddress := by
        intro hsame
        have hnat := checkedAdd_toNat hsum
        have hlow : (pageOf userEntry).toNat = 0x400000 := rfl
        have hstack : userStackVaddr.toNat = 0x800000 := rfl
        rw [← hsame] at hnat
        omega
      exact ih (map_elsewhere hentry hmap habove) hrest

theorem mapUserStack_entry {userStackPhysical : U64}
    (hentry : EntryAt roots space userCodePage memory)
    (hstack : exec (mapUserStack space.pml4Phys userStackPhysical) memory = some (.ok (), next)) :
    EntryAt roots space userCodePage next := by
  obtain ⟨_, stacked, hpages, hcheck⟩ := exec_bind_success hstack
  obtain ⟨rfl, _⟩ := checkTranslation_passed hcheck
  exact mapUserStackPages_entry hentry hpages

/-- The heap pages lie above both. -/
theorem mapPages_entry {self heap : KernelHeap} {pages : Nat} {virtualAddress mappedPages : U64}
    (hentry : EntryAt roots space userCodePage memory)
    (habove : heapStart.toNat ≤ virtualAddress.toNat)
    (hpages : self.mapPages space.pml4Phys pages virtualAddress mappedPages memory =
      some (.ok (), heap, next)) : EntryAt roots space userCodePage next := by
  induction pages generalizing memory virtualAddress mappedPages with
  | zero =>
      cases hpages
      exact hentry
  | succ pages ih =>
      obtain ⟨physicalAddress, taken, mapped, following, count, htaken, hmap, hnext, hrest⟩ :=
        KernelHeap.mapPages_ok hpages
      have helsewhere : pageOf userEntry ≠ virtualAddress := by
        rintro rfl
        exact absurd habove (by decide)
      have hheld : EntryAt roots space userCodePage taken := by
        rcases allocateFrame_spec hentry.sound.consistent with
          ⟨_, halloc⟩ | ⟨frame, hfree, _, halloc⟩
        · rw [KernelHeap.frameTaken, halloc] at htaken
          cases htaken
        · rw [KernelHeap.frameTaken_eq halloc] at htaken
          cases htaken
          exact ⟨(handOut_sound hentry.sound hfree).1, hentry.root, hentry.entry⟩
      have hnat := checkedAdd_toNat hnext
      exact ih (map_elsewhere hheld hmap helsewhere) (by omega) hrest

theorem initializeHeap_entry {heap : KernelHeap} {pages : U64}
    (hentry : EntryAt roots space userCodePage memory)
    (hheap : KernelHeap.new.initializeHeap space.pml4Phys memory pages =
      some (.ok (), heap, next)) : EntryAt roots space userCodePage next := by
  by_cases haccepts : KernelHeap.new.Accepts pages
  · rw [KernelHeap.initializeHeap_accepted haccepts] at hheap
    exact mapPages_entry hentry le_rfl hheap
  · obtain ⟨_, hfail⟩ := KernelHeap.initializeHeap_rejected haccepts space.pml4Phys memory
    rw [hheap] at hfail
    cases hfail

/-- The user code step maps the page of the entry and makes sure of it. -/
theorem mapUserCode_entry {userCodePhysical : U64}
    (hcode : exec (mapUserCode space.pml4Phys userCodePhysical) memory = some (.ok (), next)) :
    exec (map space.pml4Phys userCodeVaddr (userCodePhysical &&& ~~~(pageSize - 1#64)) true true)
        memory = some (.ok (), next) ∧
      PageTable.translate next.tables space.pml4Phys userEntry =
        some (some (userCodePhysical &&& ~~~(pageSize - 1#64))) := by
  obtain ⟨_, mapped, hmap, hcheck⟩ := exec_bind_success hcode
  obtain ⟨rfl, hentry⟩ := checkTranslation_passed hcheck
  exact ⟨hmap, hentry⟩

theorem page_eq_iff (address : U64) :
    address &&& ~~~(pageSize - 1#64) = address ↔ address.toNat % 4096 = 0 := by
  rw [← BitVec.toNat_inj, SpaceStage.userCodePage_toNat]
  omega

theorem startsAt_of_page {userCodePhysical : U64}
    (hentry : PageTable.translate memory.tables space.pml4Phys userEntry =
      some (some (userCodePhysical &&& ~~~(pageSize - 1#64)))) :
    StartsAt memory space.pml4Phys userCodePhysical ↔ userCodePhysical.toNat % 4096 = 0 := by
  rw [startsAt_iff, hentry, Option.some_inj, Option.some_inj, page_eq_iff]

/-- The step succeeds wherever the page can be mapped. -/
theorem mapUserCode_succeeds (hmemory : memory.Safe roots) (hroot : space.pml4Phys ∈ roots)
    {userCodePhysical : U64}
    (hcan : CanMap memory space.pml4Phys userCodeVaddr
      (userCodePhysical &&& ~~~(pageSize - 1#64))) :
    ∃ mapped, exec (mapUserCode space.pml4Phys userCodePhysical) memory =
      some (.ok (), mapped) := by
  obtain ⟨mapped, hmap⟩ := map_ok_of_canMap hmemory hroot hcan true true
  obtain ⟨hgrew, hargs, hleaf⟩ := map_ok_spec hmemory.toSound hroot hmap
  have hentry : leaf mapped.tables space (pageOf userCodeVaddr) = some (makeEntry
      (userCodePhysical &&& ~~~(pageSize - 1#64)) true true) := by
    rw [leaf_of_leafSet hargs.canonical hargs.aligned hleaf hroot
      (pageOf_canonical hargs.canonical) (pageOf_aligned _), if_pos ⟨rfl, rfl⟩]
  have hpage := translate_mapped (hgrew.safe hmemory) hroot hargs.canonical hargs.addressable hentry
  rw [hargs.aligned, BitVec.add_zero] at hpage
  refine ⟨mapped, ?_⟩
  rw [mapUserCode, exec_bind_ok hmap, checkTranslation,
    exec_bind_ok (exec_update (by rw [hpage]; rfl)), if_pos rfl, exec_pure]

/-- Any user code below 2 MiB can be mapped in an empty tree after a boot with
one MiB of memory above the kernel. -/
theorem mapUserCode_empty_tree {userCodePhysical : U64}
    (hcode : userCodePhysical.toNat < 0x200000) :
    ∃ allocator mapped,
      initializeAllocator [⟨0x100000#64, 0x200000#64, 1#32, 1#32⟩] 0x100000#64 0x200000#64 =
        some allocator ∧
      exec (mapUserCode (⟨0x9000#64⟩ : AddressSpace).pml4Phys userCodePhysical)
        ⟨allocator, fun _ _ => 0#64⟩ = some (.ok (), mapped) := by
  obtain ⟨allocator, hinit, hfree⟩ := initializeAllocator_above_kernel
  obtain ⟨history, hfollows⟩ := (constructed_zeroed (initializeAllocator_booting hinit)
    (fun frame hframe => le_trans (by decide) ((hfree frame).mp hframe).1)).follows
  have hpage := SpaceStage.userCodePage_toNat userCodePhysical
  have hargs : Mappable userCodeVaddr (userCodePhysical &&& ~~~(pageSize - 1#64)) :=
    mappable_low (by decide) (by decide) (addressable_low (by omega) (by omega))
  have hthree : 3 ≤ allocator.freeSet.card := by
    apply le_card_freeSet 512 3
    · rw [maxFrames_eq]
      omega
    · intro frame hlow hhigh
      exact (hfree frame).mpr ⟨hlow, by omega⟩
  have hunmapped : lookup entryTarget (fun _ _ => 0#64) (0x9000#64 : U64) (pagePath userCodeVaddr)
      (pageSlot userCodeVaddr) = none := rfl
  have hroom : missing entryTarget (fun _ _ => 0#64) (0x9000#64 : U64)
      (pagePath userCodeVaddr) ≤ allocator.freeSet.card := by
    rw [missing_blank (fun _ => rfl)]
    exact hthree
  obtain ⟨mapped, hmapped⟩ := mapUserCode_succeeds hfollows.safe
    (SpaceSystem.pml4Phys_mem_roots (List.mem_singleton_self _)) ⟨hargs, hunmapped, hroom⟩
  exact ⟨allocator, mapped, hinit, hmapped⟩

/-- Ring 3 starts at the user entry point exactly if the linker put it at the
start of a page. This holds when the user code step has just succeeded and
still when the user stack and the heap are mapped. -/
theorem ring3_starts_at_entry_iff (memory mapped : PhysicalMemory) (space : AddressSpace)
    (userCodePhysical : U64)
    (hmapped : exec (mapUserCode space.pml4Phys userCodePhysical) memory =
      some (.ok (), mapped)) :
    (StartsAt mapped space.pml4Phys userCodePhysical ↔ userCodePhysical.toNat % 4096 = 0) ∧
      ∀ (roots : Set U64) (userStackPhysical : U64) (stacked final : PhysicalMemory)
        (heap : KernelHeap), memory.Sound roots → space.pml4Phys ∈ roots →
        exec (mapUserStack space.pml4Phys userStackPhysical) mapped = some (.ok (), stacked) →
        KernelHeap.new.initializeHeap space.pml4Phys stacked 4#64 = some (.ok (), heap, final) →
        (StartsAt final space.pml4Phys userCodePhysical ↔ userCodePhysical.toNat % 4096 = 0) := by
  obtain ⟨hmap, hentry⟩ := mapUserCode_entry hmapped
  refine ⟨startsAt_of_page hentry, ?_⟩
  intro roots userStackPhysical stacked final heap hmemory hroot hstack hheap
  obtain ⟨hgrew, _⟩ := map_ok_spec hmemory hroot hmap
  have hstacked := mapUserStack_entry ⟨hgrew.sound, hroot, hentry⟩ hstack
  exact startsAt_of_page (initializeHeap_entry hstacked hheap).entry

/-- An entry at the start of a page. -/
theorem ring3_starts_at_entry_aligned :
    ∃ allocator mapped,
      exec (mapUserCode 0x9000#64 0x101000#64) ⟨allocator, fun _ _ => 0#64⟩ =
        some (.ok (), mapped) ∧
      StartsAt mapped 0x9000#64 0x101000#64 := by
  obtain ⟨allocator, mapped, _, hmapped⟩ :=
    mapUserCode_empty_tree (show (0x101000#64 : U64).toNat < 0x200000 by decide)
  exact ⟨allocator, mapped, hmapped,
    (ring3_starts_at_entry_iff _ mapped ⟨0x9000#64⟩ _ hmapped).1.mpr (by decide)⟩

/-- An entry eight bytes into its page: every check of the step passes, and ring
3 starts with whatever the linker put before the entry. -/
theorem ring3_starts_before_entry :
    ∃ allocator mapped,
      initializeAllocator [⟨0x100000#64, 0x200000#64, 1#32, 1#32⟩] 0x100000#64 0x200000#64 =
        some allocator ∧
      exec (mapUserCode 0x9000#64 0x101008#64) ⟨allocator, fun _ _ => 0#64⟩ =
        some (.ok (), mapped) ∧
      StartsAt mapped 0x9000#64 0x101000#64 ∧ ¬ StartsAt mapped 0x9000#64 0x101008#64 := by
  obtain ⟨allocator, mapped, hinit, hmapped⟩ :=
    mapUserCode_empty_tree (show (0x101008#64 : U64).toNat < 0x200000 by decide)
  obtain ⟨_, hentry⟩ := mapUserCode_entry hmapped
  refine ⟨allocator, mapped, hinit, hmapped, ?_, ?_⟩
  · exact (startsAt_iff _ _ _).mpr hentry
  · rw [startsAt_of_page hentry]
    decide

end Boot

end UnboundOS.Memory
