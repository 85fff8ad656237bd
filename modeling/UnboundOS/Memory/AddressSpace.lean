import UnboundOS.Base.Run
import UnboundOS.Memory.FrameInit
import UnboundOS.Memory.MapOutcome

/-!
`memory/address_space.rs`, and the system it is part of: any number of address
spaces over one frame allocator, driven by an arbitrary sequence of calls. The
abstract view of a space is the last successful `map` or `unmap` of each page.
Every run keeps `translate` in step with that view, and keeps the permissions
the processor finds on the four levels equal to those of the mapping.
-/

namespace UnboundOS.Memory

open RadixForest PageTable FrameAllocator

structure AddressSpace where
  pml4Phys : U64
deriving DecidableEq

namespace AddressSpace

/-- `AddressSpace::new`: a fresh space with an empty PML4. -/
def new : Paging AddressSpace := do
  let pml4Phys ← allocateTableFrame
  let pml4 ← tableAt pml4Phys
  zero pml4
  return ⟨pml4Phys⟩

/-- One iteration of `identity_map`. -/
def identityMapPage (pml4 : U64) (writable : Bool) (address : U64) : Paging Unit :=
  map pml4 address address writable false

def identityMap (self : AddressSpace) (start finish : U64) (writable : Bool) : Paging Unit :=
  if start % pageSize ≠ 0#64 then throw "identity-map start is not page aligned"
  else if finish % pageSize ≠ 0#64 then throw "identity-map end is not page aligned"
  else if finish ≤ start then throw "identity-map range is empty"
  else do
    let pml4 ← tableAt self.pml4Phys
    Fallible.strideDo pageSize (by decide) finish (identityMapPage pml4 writable) start

/-- The pages a call of `identityMap` maps before it returns. -/
def identityMapped (self : AddressSpace) (start finish : U64) (writable : Bool)
    (memory : PhysicalMemory) : List U64 :=
  if start % pageSize ≠ 0#64 then []
  else if finish % pageSize ≠ 0#64 then []
  else if finish ≤ start then []
  else
    Fallible.strideDone pageSize (by decide) finish (identityMapPage self.pml4Phys writable) start
      memory

end AddressSpace

/-- The machine the paging code runs on, with the spaces made so far. -/
structure SpaceSystem where
  memory : PhysicalMemory
  spaces : List AddressSpace

inductive SpaceOp where
  | new
  | map (space : AddressSpace) (virtualAddress physicalAddress : U64) (writable user : Bool)
  | unmap (space : AddressSpace) (virtualAddress : U64)
  | identityMap (space : AddressSpace) (start finish : U64) (writable : Bool)
  | allocateFrame
  | freeFrame (address : U64)

/-- What a call did, with its result. For `identityMap` the pages it mapped are
recorded as well, since a failing call leaves those it had mapped. -/
inductive SpaceEvent where
  | created (result : Except String AddressSpace)
  | mapped (space : AddressSpace) (virtualAddress physicalAddress : U64) (writable user : Bool)
      (result : Except String Unit)
  | unmapped (space : AddressSpace) (virtualAddress : U64) (result : Except String U64)
  | identityMapped (space : AddressSpace) (writable : Bool) (pages : List U64)
      (result : Except String Unit)
  | allocated (result : Option U64)
  | freed (address : U64)

structure Mapping where
  physicalAddress : U64
  writable : Bool
  user : Bool
deriving DecidableEq

namespace SpaceSystem

open Fallible (exec exec_pure exec_throw exec_write exec_bind_ok exec_bind_error)

/-- The PML4 addresses of the spaces. -/
def roots (self : SpaceSystem) : Set U64 :=
  {root | ∃ space ∈ self.spaces, space.pml4Phys = root}

def step (self : SpaceSystem) : SpaceOp → Checked (SpaceEvent × SpaceSystem)
  | .new => do
      let (result, memory) ← exec AddressSpace.new self.memory
      match result with
      | .ok space => some (.created (.ok space), ⟨memory, space :: self.spaces⟩)
      | .error message => some (.created (.error message), ⟨memory, self.spaces⟩)
  | .map space virtualAddress physicalAddress writable user => do
      let (result, memory) ←
        exec (map space.pml4Phys virtualAddress physicalAddress writable user) self.memory
      some (.mapped space virtualAddress physicalAddress writable user result,
        {self with memory})
  | .unmap space virtualAddress => do
      let (result, memory) ← exec (unmap space.pml4Phys virtualAddress) self.memory
      some (.unmapped space virtualAddress result, {self with memory})
  | .identityMap space start finish writable => do
      let (result, memory) ← exec (space.identityMap start finish writable) self.memory
      let pages := space.identityMapped start finish writable self.memory
      some (.identityMapped space writable pages result, {self with memory})
  | .allocateFrame => do
      let (result, allocator) ← self.memory.allocator.allocateFrame
      some (.allocated result, {self with memory := {self.memory with allocator}})
  | .freeFrame address =>
      let allocator := self.memory.allocator.freeFrame address
      some (.freed address, {self with memory := {self.memory with allocator}})

/-- Calls name spaces that exist, and page tables are not freed. -/
def Allowed (self : SpaceSystem) : SpaceOp → Prop
  | .new => True
  | .map space _ _ _ _ => space ∈ self.spaces
  | .unmap space _ => space ∈ self.spaces
  | .identityMap space _ _ _ => space ∈ self.spaces
  | .allocateFrame => True
  | .freeFrame address => ¬ Node entryTarget 3 self.roots self.memory.tables address

/-- Every call of the sequence is allowed when its turn comes. -/
def AllAllowed : SpaceSystem → List SpaceOp → Prop
  | _, [] => True
  | self, op :: ops => self.Allowed op ∧
      ∀ event next, self.step op = some (event, next) → AllAllowed next ops

end SpaceSystem

/-- What an event says about one page of one space: nothing, or that the page
is now mapped or not. -/
def SpaceEvent.effect (event : SpaceEvent) (space : AddressSpace) (page : U64) :
    Option (Option Mapping) :=
  match event with
  | .mapped target virtualAddress physicalAddress writable user (.ok _) =>
      if target = space ∧ virtualAddress = page then
        some (some ⟨physicalAddress, writable, user⟩)
      else none
  | .unmapped target virtualAddress (.ok _) =>
      if target = space ∧ virtualAddress = page then some none else none
  | .identityMapped target writable pages _ =>
      if target = space ∧ page ∈ pages then some (some ⟨page, writable, false⟩) else none
  | _ => none

/-- The mapping left by the last successful `map` or `unmap` of a page. -/
def lastMapping (events : List SpaceEvent) (space : AddressSpace) (page : U64) : Option Mapping :=
  (events.filterMap (·.effect space page)).getLast?.join

theorem lastMapping_snoc (events : List SpaceEvent) (event : SpaceEvent) (space : AddressSpace)
    (page : U64) :
    lastMapping (events ++ [event]) space page =
      (event.effect space page).getD (lastMapping events space page) := by
  rw [lastMapping, List.filterMap_append]
  cases heffect : event.effect space page with
  | none => simp [heffect, lastMapping]
  | some mapping => simp [heffect]

/-- The last-level entry of a mapping. -/
def Mapping.entry (mapping : Mapping) : U64 :=
  makeEntry mapping.physicalAddress mapping.writable mapping.user

namespace SpaceSystem

open Fallible (exec exec_pure exec_throw exec_write exec_bind_ok exec_bind_error)

/-- The last-level entry the tables hold for a page. -/
def leaf (tables : U64 → PageTable) (space : AddressSpace) (page : U64) : Option U64 :=
  lookup entryTarget tables space.pml4Phys (pagePath page) (pageSlot page)

/-- The page tables are safe and hold, for every page of every space, the
mapping its history left. -/
structure Follows (system : SpaceSystem) (history : List SpaceEvent) : Prop where
  safe : system.memory.Safe system.roots
  pages : ∀ space ∈ system.spaces, ∀ page, isCanonical page = true → page % pageSize = 0#64 →
    leaf system.memory.tables space page = (lastMapping history space page).map Mapping.entry
  addressable : ∀ space page mapping, lastMapping history space page = some mapping →
    Addressable mapping.physicalAddress
  unborn : ∀ space, space ∉ system.spaces → ∀ page, lastMapping history space page = none

variable {self : SpaceSystem} {history : List SpaceEvent}

theorem pml4Phys_mem_roots {space : AddressSpace} (hspace : space ∈ self.spaces) :
    space.pml4Phys ∈ self.roots :=
  ⟨space, hspace, rfl⟩

/-- Two canonical pages share a last-level entry only if they are the same
page. -/
theorem same_leaf_iff {page other : U64} (hpage : isCanonical page = true)
    (hpageAligned : page % pageSize = 0#64) (hother : isCanonical other = true)
    (hotherAligned : other % pageSize = 0#64) :
    (pagePath page = pagePath other ∧ pageSlot page = pageSlot other) ↔ page = other := by
  constructor
  · rintro ⟨hpath, hslot⟩
    refine indexes_injective hpage hother hpageAligned hotherAligned ?_
    simp only [pagePath, List.cons.injEq, and_true] at hpath
    exact Prod.ext hpath.1 (Prod.ext hpath.2.1 (Prod.ext hpath.2.2 hslot))
  · rintro rfl
    exact ⟨rfl, rfl⟩

/-- A call keeps the tables in step if its event says what it did to the
last-level entries. -/
theorem Follows.record (hself : self.Follows history) {memory : PhysicalMemory}
    {event : SpaceEvent} (hsafe : memory.Safe self.roots)
    (hpages : ∀ space ∈ self.spaces, ∀ page, isCanonical page = true → page % pageSize = 0#64 →
      leaf memory.tables space page =
        match event.effect space page with
        | some mapping => mapping.map Mapping.entry
        | none => leaf self.memory.tables space page)
    (hmapped : ∀ space page mapping, event.effect space page = some (some mapping) →
      space ∈ self.spaces ∧ Addressable mapping.physicalAddress) :
    Follows ⟨memory, self.spaces⟩ (history ++ [event]) where
  safe := hsafe
  pages := by
    intro space hspace page hcanonical haligned
    rw [hpages space hspace page hcanonical haligned, lastMapping_snoc]
    cases event.effect space page with
    | none => exact hself.pages space hspace page hcanonical haligned
    | some mapping => rfl
  addressable := by
    intro space page mapping hlast
    rw [lastMapping_snoc] at hlast
    cases heffect : event.effect space page with
    | none =>
        rw [heffect] at hlast
        exact hself.addressable space page mapping hlast
    | some recorded =>
        rw [heffect] at hlast
        cases hlast
        exact (hmapped space page mapping heffect).2
  unborn := by
    intro space hspace page
    rw [lastMapping_snoc]
    cases heffect : event.effect space page with
    | none => exact hself.unborn space hspace page
    | some recorded =>
        cases recorded with
        | none => rfl
        | some mapping => exact absurd (hmapped space page mapping heffect).1 hspace

/-- A call that says nothing about any page and changes none. -/
theorem Follows.silent (hself : self.Follows history) {memory : PhysicalMemory}
    {event : SpaceEvent} (hsafe : memory.Safe self.roots)
    (hsame : SameLeaves self.roots self.memory memory)
    (hsilent : ∀ space page, event.effect space page = none) :
    Follows ⟨memory, self.spaces⟩ (history ++ [event]) := by
  refine hself.record hsafe ?_ ?_
  · intro space hspace page _ _
    rw [hsilent]
    exact hsame _ (pml4Phys_mem_roots hspace) _ rfl _
  · intro space page mapping heffect
    rw [hsilent] at heffect
    cases heffect

/-- A successful write to the entry of one page, as seen page by page. -/
theorem leaf_of_leafSet {roots : Set U64} {before after : PhysicalMemory} {space : AddressSpace}
    {page : U64} {entry : Option U64} (hpage : isCanonical page = true)
    (haligned : page % pageSize = 0#64)
    (hleaf : LeafSet roots before after space.pml4Phys page entry)
    {other : AddressSpace} (hother : other.pml4Phys ∈ roots) {target : U64}
    (htarget : isCanonical target = true) (htargetAligned : target % pageSize = 0#64) :
    leaf after.tables other target =
      if space = other ∧ page = target then entry else leaf before.tables other target := by
  have hiff : (other.pml4Phys = space.pml4Phys ∧ pagePath target = pagePath page ∧
      pageSlot target = pageSlot page) ↔ (space = other ∧ page = target) := by
    rw [same_leaf_iff htarget htargetAligned hpage haligned]
    cases other
    cases space
    simp only [AddressSpace.mk.injEq, eq_comm]
  rw [leaf, hleaf _ hother _ rfl]
  by_cases hhit : space = other ∧ page = target
  · rw [if_pos hhit, if_pos (hiff.mpr hhit)]
  · rw [if_neg hhit, if_neg (mt hiff.mp hhit), leaf]

theorem step_map (hself : self.Follows history) {space : AddressSpace}
    (hspace : space ∈ self.spaces) (virtualAddress physicalAddress : U64) (writable user : Bool) :
    ∃ event next,
      self.step (.map space virtualAddress physicalAddress writable user) = some (event, next) ∧
      next.Follows (history ++ [event]) := by
  rcases map_spec hself.safe (pml4Phys_mem_roots hspace) virtualAddress physicalAddress writable
    user with ⟨message, memory, hexec, hsafe, hsame⟩ | ⟨memory, hexec, hsafe, hargs, hleaf⟩
  · refine ⟨_, _, by simp only [step, hexec]; rfl, hself.silent hsafe hsame ?_⟩
    exact fun _ _ => rfl
  · refine ⟨_, _, by simp only [step, hexec]; rfl, hself.record hsafe ?_ ?_⟩
    · intro other hother target htarget htargetAligned
      rw [leaf_of_leafSet hargs.canonical hargs.aligned hleaf (pml4Phys_mem_roots hother) htarget
        htargetAligned]
      simp only [SpaceEvent.effect]
      split <;> rfl
    · intro other target mapping heffect
      simp only [SpaceEvent.effect, Option.ite_none_right_eq_some, Option.some.injEq] at heffect
      obtain ⟨⟨rfl, rfl⟩, rfl⟩ := heffect
      exact ⟨hspace, hargs.addressable⟩

theorem step_unmap (hself : self.Follows history) {space : AddressSpace}
    (hspace : space ∈ self.spaces) (virtualAddress : U64) :
    ∃ event next, self.step (.unmap space virtualAddress) = some (event, next) ∧
      next.Follows (history ++ [event]) := by
  rcases unmap_spec hself.safe (pml4Phys_mem_roots hspace) virtualAddress with
    ⟨message, hexec, _⟩ | ⟨entry, memory, hexec, _, hsafe, hcanonical, haligned, hleaf, _⟩
  · refine ⟨_, _, by simp only [step, hexec]; rfl,
      hself.silent hself.safe (fun _ _ _ _ _ => rfl) ?_⟩
    exact fun _ _ => rfl
  · refine ⟨_, _, by simp only [step, hexec]; rfl, hself.record hsafe ?_ ?_⟩
    · intro other hother target htarget htargetAligned
      rw [leaf_of_leafSet hcanonical haligned hleaf (pml4Phys_mem_roots hother) htarget
        htargetAligned]
      simp only [SpaceEvent.effect]
      split <;> rfl
    · intro other target mapping heffect
      simp [SpaceEvent.effect] at heffect

/-- What the loop of `identityMap` has done after mapping the pages `done`. -/
structure IdentityMapping (system : SpaceSystem) (space : AddressSpace) (writable : Bool)
    (done : List U64) (memory : PhysicalMemory) : Prop where
  safe : memory.Safe system.roots
  addressable : ∀ page ∈ done, Addressable page
  pages : ∀ other ∈ system.spaces, ∀ page, isCanonical page = true → page % pageSize = 0#64 →
    leaf memory.tables other page =
      if space = other ∧ page ∈ done then some (makeEntry page writable false)
      else leaf system.memory.tables other page

theorem IdentityMapping.next {space : AddressSpace} (hspace : space ∈ self.spaces)
    {writable : Bool} {done : List U64} {memory : PhysicalMemory}
    (hmemory : self.IdentityMapping space writable done memory) (address : U64) :
    (∃ message next,
      exec (AddressSpace.identityMapPage space.pml4Phys writable address) memory =
        some (.error message, next) ∧ self.IdentityMapping space writable done next) ∨
      ∃ next, exec (AddressSpace.identityMapPage space.pml4Phys writable address) memory =
          some (.ok (), next) ∧
        self.IdentityMapping space writable (done ++ [address]) next := by
  rcases map_spec hmemory.safe (pml4Phys_mem_roots hspace) address address writable false with
    ⟨message, next, hexec, hsafe, hsame⟩ | ⟨next, hexec, hsafe, hargs, hleaf⟩
  · refine Or.inl ⟨message, next, hexec, hsafe, hmemory.addressable, ?_⟩
    intro other hother page hpage haligned
    rw [leaf, hsame _ (pml4Phys_mem_roots hother) _ rfl]
    exact hmemory.pages other hother page hpage haligned
  · refine Or.inr ⟨next, hexec, hsafe, ?_, ?_⟩
    · intro page hpage
      rcases List.mem_append.mp hpage with hold | hnew
      · exact hmemory.addressable page hold
      · rw [List.mem_singleton.mp hnew]
        exact hargs.addressable
    · intro other hother page hpage haligned
      rw [leaf_of_leafSet hargs.canonical hargs.aligned hleaf (pml4Phys_mem_roots hother) hpage
        haligned, hmemory.pages other hother page hpage haligned]
      by_cases hhit : space = other ∧ address = page
      · obtain ⟨rfl, rfl⟩ := hhit
        simp
      · rw [if_neg hhit]
        by_cases hdone : space = other ∧ page ∈ done
        · rw [if_pos hdone, if_pos ⟨hdone.1, List.mem_append_left _ hdone.2⟩]
        · rw [if_neg hdone, if_neg]
          rintro ⟨hsame, hmem⟩
          rcases List.mem_append.mp hmem with hold | hnew
          · exact hdone ⟨hsame, hold⟩
          · exact hhit ⟨hsame, (List.mem_singleton.mp hnew).symm⟩

/-- `identityMap` maps the pages it got through and nothing else, whatever it
returns. -/
theorem identityMap_spec (hself : self.Follows history) {space : AddressSpace}
    (hspace : space ∈ self.spaces) (start finish : U64) (writable : Bool) :
    ∃ result memory, exec (space.identityMap start finish writable) self.memory =
        some (result, memory) ∧
      self.IdentityMapping space writable
        (space.identityMapped start finish writable self.memory) memory := by
  have hinit : self.IdentityMapping space writable [] self.memory :=
    ⟨hself.safe, fun page hpage => absurd hpage List.not_mem_nil, fun other _ page _ _ => by simp⟩
  have hdvd (address : U64) (haddress : address % pageSize = 0#64) :
      pageSize.toNat ∣ address.toNat :=
    Nat.dvd_of_mod_eq_zero (congrArg BitVec.toNat haddress)
  rw [AddressSpace.identityMap, AddressSpace.identityMapped]
  by_cases hstart : start % pageSize = 0#64
  swap
  · rw [if_pos hstart, if_pos hstart]
    exact ⟨_, _, exec_throw _ _, hinit⟩
  by_cases hfinish : finish % pageSize = 0#64
  swap
  · rw [if_neg (not_not.mpr hstart), if_neg (not_not.mpr hstart), if_pos hfinish, if_pos hfinish]
    exact ⟨_, _, exec_throw _ _, hinit⟩
  rw [if_neg (not_not.mpr hstart), if_neg (not_not.mpr hstart), if_neg (not_not.mpr hfinish),
    if_neg (not_not.mpr hfinish)]
  by_cases hempty : finish ≤ start
  · rw [if_pos hempty, if_pos hempty]
    exact ⟨_, _, exec_throw _ _, hinit⟩
  rw [if_neg hempty, if_neg hempty,
    exec_bind_ok (exec_tableAt (hself.safe.root (pml4Phys_mem_roots hspace)) _)]
  exact Fallible.strideDo_rule (self.IdentityMapping space writable) (hdvd finish hfinish)
    (fun done memory address hmemory => hmemory.next hspace address) (hdvd start hstart) hinit

theorem step_identityMap (hself : self.Follows history) {space : AddressSpace}
    (hspace : space ∈ self.spaces) (start finish : U64) (writable : Bool) :
    ∃ event next, self.step (.identityMap space start finish writable) = some (event, next) ∧
      next.Follows (history ++ [event]) := by
  obtain ⟨result, memory, hexec, hdone⟩ := identityMap_spec hself hspace start finish writable
  refine ⟨_, _, by simp only [step, hexec]; rfl, hself.record hdone.safe ?_ ?_⟩
  · intro other hother page hpage haligned
    rw [hdone.pages other hother page hpage haligned]
    simp only [SpaceEvent.effect]
    split <;> rfl
  · intro other page mapping heffect
    simp only [SpaceEvent.effect, Option.ite_none_right_eq_some, Option.some.injEq] at heffect
    obtain ⟨⟨rfl, hmem⟩, rfl⟩ := heffect
    exact ⟨hspace, hdone.addressable page hmem⟩

theorem step_allocateFrame (hself : self.Follows history) :
    ∃ event next, self.step .allocateFrame = some (event, next) ∧
      next.Follows (history ++ [event]) := by
  rcases allocateFrame_spec hself.safe.consistent with
    ⟨_, halloc⟩ | ⟨frame, hfree, _, halloc⟩
  · refine ⟨_, _, by simp only [step, halloc]; rfl,
      hself.silent hself.safe (fun _ _ _ _ _ => rfl) ?_⟩
    exact fun _ _ => rfl
  · refine ⟨_, _, by simp only [step, halloc]; rfl,
      hself.silent (handOut_safe hself.safe hfree) (fun _ _ _ _ _ => rfl) ?_⟩
    exact fun _ _ => rfl

/-- Freeing a frame that is no page table keeps every table reserved. -/
theorem freeFrame_safe (hself : self.Follows history) {address : U64}
    (haddress : ¬ Node entryTarget 3 self.roots self.memory.tables address) :
    PhysicalMemory.Safe ⟨self.memory.allocator.freeFrame address, self.memory.tables⟩
      self.roots := by
  obtain ⟨⟨hconsistent, hforest, hreserved⟩, hnull, hvalid⟩ := hself.safe
  refine ⟨?_, hnull.of_managed_eq (managed_freeFrame hconsistent address), hvalid⟩
  by_cases hout : ∃ frame ∈ self.memory.allocator.allocSet, address = frameAddress frame
  · obtain ⟨frame, hmem, rfl⟩ := hout
    obtain ⟨hfree, _, hnext⟩ := freeFrame_of_mem hconsistent hmem
    refine ⟨hnext, hforest, fun table htable other hother => ?_⟩
    rw [hfree] at hother
    rcases Finset.mem_insert.mp hother with rfl | hold
    · rintro rfl
      exact haddress htable
    · exact hreserved table htable other hold
  · rw [freeFrame_of_not_mem fun frame hmem heq => hout ⟨frame, hmem, heq⟩]
    exact ⟨hconsistent, hforest, hreserved⟩

theorem step_freeFrame (hself : self.Follows history) {address : U64}
    (haddress : ¬ Node entryTarget 3 self.roots self.memory.tables address) :
    ∃ event next, self.step (.freeFrame address) = some (event, next) ∧
      next.Follows (history ++ [event]) := by
  refine ⟨_, _, rfl, hself.silent (freeFrame_safe hself haddress) (fun _ _ _ _ _ => rfl) ?_⟩
  exact fun _ _ => rfl

theorem roots_cons (memory : PhysicalMemory) (space : AddressSpace) :
    roots ⟨memory, space :: self.spaces⟩ = insert space.pml4Phys self.roots := by
  ext root
  simp [roots, eq_comm]

/-- A fresh PML4 makes a space in which nothing is mapped. -/
theorem plant_follows (hself : self.Follows history) {frame : Frame}
    (hfree : frame ∈ self.memory.allocator.freeSet) :
    Follows
      ⟨⟨self.memory.allocator.handOut frame,
        fill self.memory.tables (frameAddress frame) 0#64⟩,
        ⟨frameAddress frame⟩ :: self.spaces⟩
      (history ++ [.created (.ok ⟨frameAddress frame⟩)]) := by
  have hfresh := free_not_node hself.safe.toSound hfree
  obtain ⟨hhand, hgone⟩ := handOut_sound hself.safe.toSound hfree
  have hnew : (⟨frameAddress frame⟩ : AddressSpace) ∉ self.spaces := by
    intro hmem
    exact hfresh (Node.of_walk (pml4Phys_mem_roots hmem) (Nat.zero_le _)
      (walk_nil entryTarget _ _))
  have hlast (space : AddressSpace) (page : U64) :
      lastMapping (history ++ [.created (.ok ⟨frameAddress frame⟩)]) space page =
        lastMapping history space page := by
    rw [lastMapping_snoc]
    rfl
  constructor
  · rw [roots_cons]
    have hnodes := node_plant_iff hfresh entryTarget_zero
    refine ⟨⟨hhand.consistent, hself.safe.forest.plant hfresh entryTarget_zero (by simp [NotHuge]),
      fun table htable => ?_⟩, (handOut_safe hself.safe hfree).nullReserved, fun table htable => ?_⟩
    · rcases (hnodes table).mp htable with rfl | hold
      · exact hgone
      · exact hhand.reserved table hold
    · rcases (hnodes table).mp htable with rfl | hold
      · exact dereferenceable_frameAddress (hself.safe.nullReserved.free hfree)
      · exact hself.safe.dereferenceable table hold
  · intro space hspace page hcanonical haligned
    rw [hlast, leaf]
    rcases List.mem_cons.mp hspace with rfl | hold
    · rw [hself.unborn _ hnew, lookup_blank entryTarget_zero]
      rfl
    · rw [lookup_fill 0#64 hfresh (pml4Phys_mem_roots hold) (by rfl)]
      exact hself.pages space hold page hcanonical haligned
  · intro space page mapping hmapping
    rw [hlast] at hmapping
    exact hself.addressable space page mapping hmapping
  · intro space hspace page
    rw [hlast]
    exact hself.unborn space (fun hmem => hspace (List.mem_cons_of_mem _ hmem)) page

/-- `AddressSpace::new` takes a frame while there is one. -/
theorem new_spec (hself : self.Follows history) :
    (self.memory.allocator.freeSet = ∅ ∧
      self.step .new = some (.created (.error "out of physical memory"), self)) ∨
    ∃ frame ∈ self.memory.allocator.freeSet, self.step .new =
      some (.created (.ok ⟨frameAddress frame⟩),
        ⟨⟨self.memory.allocator.handOut frame,
          fill self.memory.tables (frameAddress frame) 0#64⟩,
          ⟨frameAddress frame⟩ :: self.spaces⟩) := by
  rcases allocateFrame_spec hself.safe.consistent with ⟨hempty, halloc⟩ | ⟨frame, hfree, _, halloc⟩
  · have hexec : exec AddressSpace.new self.memory =
        some (.error "out of physical memory", self.memory) :=
      exec_bind_error (exec_allocateTableFrame_exhausted halloc) _
    exact Or.inl ⟨hempty, by simp only [step, hexec]; rfl⟩
  · have hexec : exec AddressSpace.new self.memory = some (.ok ⟨frameAddress frame⟩,
        ⟨self.memory.allocator.handOut frame,
          fill self.memory.tables (frameAddress frame) 0#64⟩) := by
      have hvalid := dereferenceable_frameAddress (hself.safe.nullReserved.free hfree)
      rw [AddressSpace.new, exec_bind_ok (exec_allocateTableFrame_ok halloc),
        exec_bind_ok (exec_tableAt hvalid _), zero, exec_bind_ok (exec_write _ _), exec_pure]
    exact Or.inr ⟨frame, hfree, by simp only [step, hexec]; rfl⟩

theorem step_new (hself : self.Follows history) :
    ∃ event next, self.step .new = some (event, next) ∧ next.Follows (history ++ [event]) := by
  rcases new_spec hself with ⟨_, hstep⟩ | ⟨frame, hfree, hstep⟩
  · exact ⟨_, _, hstep, hself.silent hself.safe (fun _ _ _ _ _ => rfl) (fun _ _ => rfl)⟩
  · exact ⟨_, _, hstep, plant_follows hself hfree⟩

theorem spaces_subset_of_step {op : SpaceOp} {event : SpaceEvent} {next : SpaceSystem}
    (hstep : self.step op = some (event, next)) : self.spaces ⊆ next.spaces := by
  cases op with
  | new =>
      simp only [step, Option.bind_eq_bind, Option.bind_eq_some_iff] at hstep
      obtain ⟨⟨result, memory⟩, _, hrest⟩ := hstep
      cases result with
      | ok space =>
          cases hrest
          exact List.subset_cons_self _ _
      | error message =>
          cases hrest
          exact List.Subset.refl _
  | map | unmap | identityMap | allocateFrame =>
      simp only [step, Option.bind_eq_bind, Option.bind_eq_some_iff] at hstep
      obtain ⟨_, _, hrest⟩ := hstep
      cases hrest
      exact List.Subset.refl _
  | freeFrame =>
      cases hstep
      exact List.Subset.refl _

/-- Every allowed call returns and keeps the tables in step with the history. -/
theorem step_follows (hself : self.Follows history) {op : SpaceOp} (hallowed : self.Allowed op) :
    ∃ event next, self.step op = some (event, next) ∧ next.Follows (history ++ [event]) := by
  cases op with
  | new => exact step_new hself
  | map space virtualAddress physicalAddress writable user =>
      exact step_map hself hallowed virtualAddress physicalAddress writable user
  | unmap space virtualAddress => exact step_unmap hself hallowed virtualAddress
  | identityMap space start finish writable =>
      exact step_identityMap hself hallowed start finish writable
  | allocateFrame => exact step_allocateFrame hself
  | freeFrame address => exact step_freeFrame hself hallowed

theorem run_follows (hself : self.Follows history) (ops : List SpaceOp)
    (hallowed : self.AllAllowed ops) :
    ∃ events final, runChecked step self ops = some (events, final) ∧
      final.Follows (history ++ events) := by
  induction ops generalizing self history with
  | nil => exact ⟨[], self, rfl, by rwa [List.append_nil]⟩
  | cons op rest ih =>
      obtain ⟨event, next, hstep, hnext⟩ := step_follows hself hallowed.1
      obtain ⟨events, final, hrun, hfinal⟩ := ih hnext (hallowed.2 event next hstep)
      refine ⟨event :: events, final, ?_, by rwa [List.append_cons]⟩
      rw [runChecked_cons hstep, hrun]
      rfl

/-- A space whose PML4 can be dereferenced, is all zero and not a frame the
allocator may still hand out. -/
structure Untouched (memory : PhysicalMemory) (space : AddressSpace) : Prop where
  nonnull : space.pml4Phys ≠ 0#64
  aligned : space.pml4Phys % pageSize = 0#64
  zeroed : ∀ index, memory.tables space.pml4Phys index = 0#64
  reserved : ∀ frame ∈ memory.allocator.freeSet, space.pml4Phys ≠ frameAddress frame

/-- Zeroed PML4s are a forest in which nothing is mapped. -/
theorem untouched_follows (hconsistent : self.memory.allocator.Consistent)
    (hnull : self.memory.allocator.NullReserved)
    (huntouched : ∀ space ∈ self.spaces, Untouched self.memory space) : self.Follows [] := by
  have hzero (root : U64) (hroot : root ∈ self.roots) (index : Fin 512) :
      entryTarget (self.memory.tables root index) = none := by
    obtain ⟨space, hspace, rfl⟩ := hroot
    rw [(huntouched space hspace).zeroed index, entryTarget_zero]
  have hwalk (root : U64) (hroot : root ∈ self.roots) (path : List (Fin 512)) (table : U64)
      (hpath : walk entryTarget self.memory.tables root path = some table) :
      path = [] ∧ root = table := by
    cases path with
    | nil => exact ⟨rfl, Option.some.inj hpath⟩
    | cons index rest =>
        rw [walk_cons, hzero root hroot] at hpath
        cases hpath
  refine ⟨⟨⟨hconsistent, ⟨?_, ?_, ?_⟩, ?_⟩, hnull, ?_⟩, ?_, ?_, ?_⟩
  · intro root root' path path' table hroot hroot' _ _ hpath hpath'
    obtain ⟨rfl, rfl⟩ := hwalk root hroot path table hpath
    obtain ⟨rfl, rfl⟩ := hwalk root' hroot' path' _ hpath'
    exact ⟨rfl, rfl⟩
  · rintro table ⟨root, hroot, path, _, hpath⟩ index
    obtain ⟨rfl, rfl⟩ := hwalk root hroot path table hpath
    obtain ⟨space, hspace, rfl⟩ := hroot
    rw [(huntouched space hspace).zeroed index]
    rfl
  · intro root path table next index slot hroot _ hpath hnext
    obtain ⟨rfl, rfl⟩ := hwalk root hroot path table hpath
    rw [hzero root hroot] at hnext
    cases hnext
  · rintro table ⟨root, hroot, path, _, hpath⟩
    obtain ⟨rfl, rfl⟩ := hwalk root hroot path table hpath
    obtain ⟨space, hspace, rfl⟩ := hroot
    exact (huntouched space hspace).reserved
  · rintro table ⟨root, hroot, path, _, hpath⟩
    obtain ⟨rfl, rfl⟩ := hwalk root hroot path table hpath
    obtain ⟨space, hspace, rfl⟩ := hroot
    exact ⟨(huntouched space hspace).nonnull, (huntouched space hspace).aligned⟩
  · intro space hspace page _ _
    rw [leaf, lookup, pagePath, walk_cons, hzero _ (pml4Phys_mem_roots hspace)]
    rfl
  · intro space page mapping hmapping
    cases hmapping
  · intro space _ page
    rfl

theorem offset_eq (virtualAddress : U64) :
    virtualAddress &&& 0xFFF#64 = virtualAddress % pageSize := by
  rw [← BitVec.toNat_inj, BitVec.toNat_and, BitVec.toNat_umod]
  exact Nat.and_two_pow_sub_one_eq_mod _ 12

/-- The offset stays within the page, so the sum does not overflow. -/
theorem checkedAdd_offset {address : U64} (haddress : Addressable address) (virtualAddress : U64) :
    checkedAdd address (virtualAddress % pageSize) =
      some (address + virtualAddress % pageSize) := by
  refine checkedAdd_eq_some ?_
  have hle : address.toNat ≤ addressMask.toNat := not_lt.mp haddress.2
  have hmask : addressMask.toNat = 2 ^ 52 - 4096 := by decide
  have hoffset : (virtualAddress % pageSize).toNat < 4096 := by
    rw [BitVec.toNat_umod]
    exact Nat.mod_lt _ (by decide)
  omega

theorem leaf_pageOf (tables : U64 → PageTable) (space : AddressSpace) (virtualAddress : U64) :
    leaf tables space (pageOf virtualAddress) =
      lookup entryTarget tables space.pml4Phys (pagePath virtualAddress)
        (pageSlot virtualAddress) := by
  rw [leaf, pagePath, pageSlot, indexes_pageOf]
  rfl

theorem translate_noncanonical (tables : U64 → PageTable) (root : U64) {virtualAddress : U64}
    (hcanonical : ¬ isCanonical virtualAddress = true) :
    translate tables root virtualAddress = some none := by
  rw [PageTable.translate, Bool.eq_false_iff.mpr hcanonical]
  rfl

section Translate

variable {memory after : PhysicalMemory} {roots : Set U64} {space : AddressSpace}

theorem translate_unmapped (hmemory : memory.Safe roots) (hspace : space.pml4Phys ∈ roots)
    {virtualAddress : U64} (hleaf : leaf memory.tables space (pageOf virtualAddress) = none) :
    translate memory.tables space.pml4Phys virtualAddress = some none := by
  by_cases hcanonical : isCanonical virtualAddress = true
  · rw [translate_spec hmemory.toSound hspace (clear_of_safe hmemory hspace _) hcanonical,
      ← leaf_pageOf, hleaf]
  · exact translate_noncanonical _ _ hcanonical

theorem translate_mapped (hmemory : memory.Safe roots) (hspace : space.pml4Phys ∈ roots)
    {virtualAddress physicalAddress : U64} (hcanonical : isCanonical virtualAddress = true)
    (haddress : Addressable physicalAddress) {writable user : Bool}
    (hleaf : leaf memory.tables space (pageOf virtualAddress) =
      some (makeEntry physicalAddress writable user)) :
    translate memory.tables space.pml4Phys virtualAddress =
      some (some (physicalAddress + virtualAddress % pageSize)) := by
  rw [translate_spec hmemory.toSound hspace (clear_of_safe hmemory hspace _) hcanonical,
    ← leaf_pageOf, hleaf]
  simp only [entryAddress_makeEntry haddress, offset_eq, checkedAdd_offset haddress,
    Option.map_some]

/-- The last-level entry of its page is all that decides where an address
goes, as long as the tables on the way can be dereferenced. -/
theorem translate_congr (hmemory : memory.Sound roots) (hafter : after.Sound roots)
    (hspace : space.pml4Phys ∈ roots)
    {virtualAddress : U64} (hclear : Clear memory.tables space.pml4Phys virtualAddress)
    (hstill : Clear after.tables space.pml4Phys virtualAddress)
    (hleaf : isCanonical virtualAddress = true →
      leaf after.tables space (pageOf virtualAddress) =
        leaf memory.tables space (pageOf virtualAddress)) :
    translate after.tables space.pml4Phys virtualAddress =
      translate memory.tables space.pml4Phys virtualAddress := by
  by_cases hcanonical : isCanonical virtualAddress = true
  · rw [translate_spec hmemory hspace hclear hcanonical,
      translate_spec hafter hspace hstill hcanonical, ← leaf_pageOf, ← leaf_pageOf,
      hleaf hcanonical]
  · rw [translate_noncanonical _ _ hcanonical, translate_noncanonical _ _ hcanonical]

end Translate

end SpaceSystem

/-- Safe page tables that hold, for every page of one space, the mapping given
for it. -/
structure Maps (roots : Set U64) (memory : PhysicalMemory) (space : AddressSpace)
    (pages : U64 → Option Mapping) : Prop where
  safe : memory.Safe roots
  root : space.pml4Phys ∈ roots
  leaves : ∀ page, isCanonical page = true → page % pageSize = 0#64 →
    SpaceSystem.leaf memory.tables space page = (pages page).map Mapping.entry
  addressable : ∀ page mapping, pages page = some mapping → Addressable mapping.physicalAddress

namespace Maps

open SpaceSystem

variable {roots : Set U64} {memory next : PhysicalMemory} {space : AddressSpace}
  {pages : U64 → Option Mapping} {virtualAddress : U64}

/-- One page set or cleared. -/
theorem record (hmaps : Maps roots memory space pages) (hsafe : next.Safe roots)
    (hcanonical : isCanonical virtualAddress = true) (haligned : virtualAddress % pageSize = 0#64)
    (mapping : Option Mapping)
    (haddress : ∀ target, mapping = some target → Addressable target.physicalAddress)
    (hleaf : LeafSet roots memory next space.pml4Phys virtualAddress
      (mapping.map Mapping.entry)) :
    Maps roots next space (Function.update pages virtualAddress mapping) where
  safe := hsafe
  root := hmaps.root
  leaves := by
    intro other hother hotherAligned
    rw [leaf_of_leafSet hcanonical haligned hleaf hmaps.root hother hotherAligned]
    by_cases hsame : virtualAddress = other
    · rw [if_pos ⟨rfl, hsame⟩, hsame, Function.update_self]
    · rw [if_neg (fun h => hsame h.2), Function.update_of_ne (Ne.symm hsame),
        hmaps.leaves other hother hotherAligned]
  addressable := by
    intro other target htarget
    by_cases hsame : other = virtualAddress
    · rw [hsame, Function.update_self] at htarget
      exact haddress target htarget
    · rw [Function.update_of_ne hsame] at htarget
      exact hmaps.addressable other target htarget

/-- Where an address goes. -/
theorem translate_eq (hmaps : Maps roots memory space pages)
    (hcanonical : isCanonical virtualAddress = true) :
    translate memory.tables space.pml4Phys virtualAddress =
      some ((pages (pageOf virtualAddress)).map fun mapping =>
        mapping.physicalAddress + virtualAddress % pageSize) := by
  have hleaf := hmaps.leaves _ (pageOf_canonical hcanonical) (pageOf_aligned virtualAddress)
  cases hpage : pages (pageOf virtualAddress) with
  | none =>
      rw [hpage] at hleaf
      exact translate_unmapped hmaps.safe hmaps.root hleaf
  | some mapping =>
      rw [hpage] at hleaf
      exact translate_mapped hmaps.safe hmaps.root hcanonical (hmaps.addressable _ mapping hpage)
        hleaf

theorem translate_page (hmaps : Maps roots memory space pages) {page : U64}
    (hcanonical : isCanonical page = true) (haligned : page % pageSize = 0#64) :
    translate memory.tables space.pml4Phys page =
      some ((pages page).map (·.physicalAddress)) := by
  have hpage : pageOf page = page := by rw [pageOf, haligned, BitVec.sub_zero]
  rw [hmaps.translate_eq hcanonical, hpage, haligned]
  simp only [BitVec.add_zero]

/-- What may be done there. -/
theorem effectivePermissions_eq (hmaps : Maps roots memory space pages)
    (hcanonical : isCanonical virtualAddress = true) :
    effectivePermissions memory.tables space.pml4Phys
        (pagePath virtualAddress ++ [pageSlot virtualAddress]) =
      (pages (pageOf virtualAddress)).map fun mapping => (mapping.writable, mapping.user) := by
  have hwalk := walk_nil entryTarget memory.tables space.pml4Phys
  have hleaf := hmaps.leaves _ (pageOf_canonical hcanonical) (pageOf_aligned virtualAddress)
  rw [effectivePermissions_of_walk hmaps.safe.toSound hmaps.root _ rfl hwalk, List.nil_append,
    ← leaf_pageOf, hleaf]
  cases pages (pageOf virtualAddress) with
  | none => rfl
  | some mapping =>
      have hwritable := getLsbD_makeEntry mapping.physicalAddress mapping.writable mapping.user
        (show 1 < 12 by omega)
      have huser := getLsbD_makeEntry mapping.physicalAddress mapping.writable mapping.user
        (show 2 < 12 by omega)
      simp only [Option.map_some, Mapping.entry, hwritable, huser]
      simp

end Maps

namespace SpaceSystem

variable {self : SpaceSystem} {history : List SpaceEvent}

/-- A run leaves in each space the pages of its history. -/
theorem Follows.maps (hself : self.Follows history) {space : AddressSpace}
    (hspace : space ∈ self.spaces) :
    Maps self.roots self.memory space (lastMapping history space) where
  safe := hself.safe
  root := pml4Phys_mem_roots hspace
  leaves := hself.pages space hspace
  addressable := hself.addressable space

/-- Address-space refinement. From an initialized allocator and arbitrary
memory, every run of allowed calls returns, and afterwards `translate` gives
for every canonical address of every space what the last successful `map` or
`unmap` of its page left. A further call changes the translation of an address
only if it maps or unmaps that very page of that very space. -/
theorem translate_is_last_mapping (memoryMap : List MemoryMapEntry) (kernelStart kernelEnd : U64)
    (allocator : FrameAllocator)
    (hinit : initializeAllocator memoryMap kernelStart kernelEnd = some allocator)
    (tables : U64 → PageTable) (ops : List SpaceOp)
    (hallowed : AllAllowed ⟨⟨allocator, tables⟩, []⟩ ops) :
    ∃ events final, runChecked step ⟨⟨allocator, tables⟩, []⟩ ops = some (events, final) ∧
      (∀ space ∈ final.spaces, ∀ virtualAddress, isCanonical virtualAddress = true →
        translate final.memory.tables space.pml4Phys virtualAddress =
          some ((lastMapping events space (pageOf virtualAddress)).map fun mapping =>
            mapping.physicalAddress + virtualAddress % pageSize)) ∧
      ∀ op, final.Allowed op → ∃ event next, final.step op = some (event, next) ∧
        ∀ space ∈ final.spaces, ∀ virtualAddress, isCanonical virtualAddress = true →
          event.effect space (pageOf virtualAddress) = none →
          translate next.memory.tables space.pml4Phys virtualAddress =
            translate final.memory.tables space.pml4Phys virtualAddress := by
  have hstart : Follows ⟨⟨allocator, tables⟩, []⟩ [] :=
    untouched_follows (initializeAllocator_booting hinit).consistent
      (initializeAllocator_nullReserved hinit)
      (fun space hspace => absurd hspace List.not_mem_nil)
  obtain ⟨events, final, hrun, hfinal⟩ := run_follows hstart ops hallowed
  rw [List.nil_append] at hfinal
  refine ⟨events, final, hrun, fun space hspace _ => (hfinal.maps hspace).translate_eq, ?_⟩
  intro op hop
  obtain ⟨event, next, hstep, hnext⟩ := step_follows hfinal hop
  refine ⟨event, next, hstep, fun space hspace virtualAddress hcanonical hsilent => ?_⟩
  rw [(hnext.maps (spaces_subset_of_step hstep hspace)).translate_eq hcanonical,
    (hfinal.maps hspace).translate_eq hcanonical, lastMapping_snoc, hsilent]
  rfl

/-- One new space with one page: the address `0x400123` lies in the page mapped
at `0x400000`. -/
theorem translate_is_last_mapping_one_page :
    ∃ allocator space events final,
      initializeAllocator [⟨0x100000#64, 0x200000#64, 1#32, 1#32⟩] 0x100000#64 0x200000#64 =
        some allocator ∧
      runChecked step ⟨⟨allocator, fun _ _ => 0#64⟩, []⟩
        [.new, .map space 0x400000#64 0x5000#64 true true] = some (events, final) ∧
      ∀ other ∈ final.spaces, translate final.memory.tables other.pml4Phys 0x400123#64 =
        some ((lastMapping events other 0x400000#64).map fun mapping =>
          mapping.physicalAddress + 0x123#64) := by
  obtain ⟨allocator, hinit, hfree⟩ := initializeAllocator_above_kernel
  have hbound : 512 < maxFrames := by rw [maxFrames_eq]; omega
  have hmem : ⟨512, hbound⟩ ∈ allocator.freeSet := (hfree _).mpr ⟨le_rfl, by simp⟩
  have hstart : Follows ⟨⟨allocator, fun _ _ => 0#64⟩, []⟩ [] :=
    untouched_follows (initializeAllocator_booting hinit).consistent
      (initializeAllocator_nullReserved hinit)
      (fun space hspace => absurd hspace List.not_mem_nil)
  rcases new_spec hstart with ⟨hempty, _⟩ | ⟨frame, _, hnew⟩
  · have hnone : allocator.freeSet = ∅ := hempty
    rw [hnone] at hmem
    exact absurd hmem (Finset.notMem_empty _)
  have hallowed : AllAllowed ⟨⟨allocator, fun _ _ => 0#64⟩, []⟩
      [.new, .map ⟨frameAddress frame⟩ 0x400000#64 0x5000#64 true true] := by
    refine ⟨trivial, fun event next hstep => ?_⟩
    rw [hnew] at hstep
    cases hstep
    exact ⟨List.mem_cons_self, fun _ _ _ => trivial⟩
  obtain ⟨events, final, hrun, htranslate, _⟩ := translate_is_last_mapping _ _ _ allocator hinit
    (fun _ _ => 0#64) _ hallowed
  refine ⟨allocator, ⟨frameAddress frame⟩, events, final, hinit, hrun, fun other hother => ?_⟩
  exact htranslate other hother 0x400123#64 (by decide)

/-- Permission isolation. Start from an initialized allocator and any zeroed
PML4s outside its free frames. After every run of allowed calls, for every
canonical address of every space, the conjunction of the flags on the four
levels is exactly what the mapping of its page asked for, whatever other pages
share its tables. -/
theorem permissions_are_those_of_mapping (memoryMap : List MemoryMapEntry)
    (kernelStart kernelEnd : U64) (allocator : FrameAllocator)
    (hinit : initializeAllocator memoryMap kernelStart kernelEnd = some allocator)
    (tables : U64 → PageTable) (spaces : List AddressSpace)
    (huntouched : ∀ space ∈ spaces, Untouched ⟨allocator, tables⟩ space) (ops : List SpaceOp)
    (hallowed : AllAllowed ⟨⟨allocator, tables⟩, spaces⟩ ops) :
    ∃ events final, runChecked step ⟨⟨allocator, tables⟩, spaces⟩ ops = some (events, final) ∧
      ∀ space ∈ final.spaces, ∀ virtualAddress, isCanonical virtualAddress = true →
        effectivePermissions final.memory.tables space.pml4Phys
            (pagePath virtualAddress ++ [pageSlot virtualAddress]) =
          (lastMapping events space (pageOf virtualAddress)).map fun mapping =>
            (mapping.writable, mapping.user) := by
  have hstart : Follows ⟨⟨allocator, tables⟩, spaces⟩ [] :=
    untouched_follows (initializeAllocator_booting hinit).consistent
      (initializeAllocator_nullReserved hinit) huntouched
  obtain ⟨events, final, hrun, hfinal⟩ := run_follows hstart ops hallowed
  rw [List.nil_append] at hfinal
  exact ⟨events, final, hrun, fun space hspace virtualAddress hcanonical =>
    (hfinal.maps hspace).effectivePermissions_eq hcanonical⟩

/-- A PML4 in the first MiB, one supervisor page mapped by `identityMap` and a
user page next to it. -/
theorem permissions_are_those_of_mapping_neighbours :
    ∃ allocator events final,
      initializeAllocator [⟨0x100000#64, 0x200000#64, 1#32, 1#32⟩] 0x100000#64 0x200000#64 =
        some allocator ∧
      runChecked step ⟨⟨allocator, fun _ _ => 0#64⟩, [⟨0x1000#64⟩]⟩
        [.identityMap ⟨0x1000#64⟩ 0x400000#64 0x401000#64 true,
          .map ⟨0x1000#64⟩ 0x401000#64 0x5000#64 true true] = some (events, final) ∧
      ∀ space ∈ final.spaces, effectivePermissions final.memory.tables space.pml4Phys
          (pagePath 0x400000#64 ++ [pageSlot 0x400000#64]) =
        (lastMapping events space 0x400000#64).map fun mapping =>
          (mapping.writable, mapping.user) := by
  obtain ⟨allocator, hinit, hfree⟩ := initializeAllocator_above_kernel
  have huntouched (space : AddressSpace) (hspace : space ∈ [AddressSpace.mk 0x1000#64]) :
      Untouched ⟨allocator, fun _ _ => 0#64⟩ space := by
    rw [List.mem_singleton.mp hspace]
    refine ⟨by decide, by decide, fun _ => rfl, fun frame hframe heq => ?_⟩
    have hlow := ((hfree frame).mp hframe).1
    have hnat := congrArg BitVec.toNat heq
    rw [frameAddress_toNat] at hnat
    simp only [BitVec.toNat_ofNat] at hnat
    omega
  have hallowed : AllAllowed ⟨⟨allocator, fun _ _ => 0#64⟩, [⟨0x1000#64⟩]⟩
      [.identityMap ⟨0x1000#64⟩ 0x400000#64 0x401000#64 true,
        .map ⟨0x1000#64⟩ 0x401000#64 0x5000#64 true true] := by
    refine ⟨List.mem_singleton_self _, fun event next hstep => ⟨?_, fun _ _ _ => trivial⟩⟩
    exact spaces_subset_of_step hstep (List.mem_singleton_self _)
  obtain ⟨events, final, hrun, hpermissions⟩ := permissions_are_those_of_mapping _ _ _ allocator
    hinit (fun _ _ => 0#64) _ huntouched _ hallowed
  refine ⟨allocator, events, final, hinit, hrun, fun space hspace => ?_⟩
  exact hpermissions space hspace 0x400000#64 (by decide)

/-- Spaces whose page tables a run of calls built from zeroed PML4s, next to an
allocator that will not hand out any of these tables. -/
structure Constructed (system : SpaceSystem) : Prop where
  built : ∃ start ops events final, start.memory.allocator.Consistent ∧
    start.memory.allocator.NullReserved ∧ (∀ space ∈ start.spaces, Untouched start.memory space) ∧
    AllAllowed start ops ∧
    runChecked step start ops = some (events, final) ∧
    final.spaces = system.spaces ∧ final.memory.tables = system.memory.tables
  consistent : system.memory.allocator.Consistent
  nullReserved : system.memory.allocator.NullReserved
  reserved : ∀ table, Node entryTarget 3 system.roots system.memory.tables table →
    ∀ frame ∈ system.memory.allocator.freeSet, table ≠ frameAddress frame

theorem Constructed.follows {system : SpaceSystem} (hsystem : system.Constructed) :
    ∃ history, system.Follows history := by
  obtain ⟨start, ops, events, final, hconsistent, hnull, huntouched, hallowed, hrun, hspaces,
    htables⟩ := hsystem.built
  obtain ⟨events', final', hrun', hfinal⟩ :=
    run_follows (untouched_follows hconsistent hnull huntouched) ops hallowed
  rw [hrun] at hrun'
  cases hrun'
  have hroots : final.roots = system.roots := by rw [roots, roots, hspaces]
  have hforest := hfinal.safe.forest
  rw [hroots, htables] at hforest
  have hvalid := hfinal.safe.dereferenceable
  rw [hroots, htables] at hvalid
  have hpages := hfinal.pages
  rw [hspaces, htables] at hpages
  have hunborn := hfinal.unborn
  rw [hspaces] at hunborn
  exact ⟨_, ⟨⟨hsystem.consistent, hforest, hsystem.reserved⟩, hsystem.nullReserved, hvalid⟩,
    hpages, hfinal.addressable, hunborn⟩

/-- Zeroed PML4s with no call made yet. -/
theorem constructed_of_untouched {system : SpaceSystem}
    (hconsistent : system.memory.allocator.Consistent)
    (hnull : system.memory.allocator.NullReserved)
    (huntouched : ∀ space ∈ system.spaces, Untouched system.memory space) :
    system.Constructed where
  built := ⟨system, [], [], system, hconsistent, hnull, huntouched, trivial, rfl, rfl, rfl⟩
  consistent := hconsistent
  nullReserved := hnull
  reserved := (untouched_follows hconsistent hnull huntouched).safe.reserved

/-- One zeroed PML4 in the first megabyte, where no frame is ever free. -/
theorem constructed_zeroed {allocator : FrameAllocator} (hbooting : allocator.Booting)
    (hlow : ∀ frame ∈ allocator.freeSet, 256 ≤ frame.val) :
    Constructed ⟨⟨allocator, fun _ _ => 0#64⟩, [⟨0x9000#64⟩]⟩ := by
  refine constructed_of_untouched hbooting.consistent (hbooting.nullReserved hlow)
    fun space hspace => ?_
  rw [List.mem_singleton.mp hspace]
  refine ⟨by decide, by decide, fun _ => rfl, fun frame hframe hsame => ?_⟩
  have hnat := congrArg BitVec.toNat hsame
  have hnumber : (0x9000#64 : U64).toNat = 36864 := rfl
  rw [frameAddress_toNat, hnumber] at hnat
  have := hlow frame hframe
  omega

end SpaceSystem

end UnboundOS.Memory
