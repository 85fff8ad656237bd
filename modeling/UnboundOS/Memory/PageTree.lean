import UnboundOS.Memory.PageTable

/-!
What the paging code keeps true of the trees it builds. All trees of all
address spaces form one forest of depth three in physical memory; no table of it
is a frame the allocator could still hand out, no interior entry is a huge page,
and no entry allows more than the entry above it. On such tables `translate`
looks one entry up, and that entry alone decides the permissions of a page.
-/

namespace UnboundOS.Memory

open RadixForest PageTable FrameAllocator

/-- Soundness of the page tables below a set of PML4 addresses. -/
structure PhysicalMemory.Sound (memory : PhysicalMemory) (roots : Set U64) : Prop where
  consistent : memory.allocator.Consistent
  forest : Forest entryTarget NotHuge Within 3 roots memory.tables
  reserved : ∀ table, Node entryTarget 3 roots memory.tables table →
    ∀ frame ∈ memory.allocator.freeSet, table ≠ frameAddress frame

/-- Sound tables that can all be dereferenced, with an allocator that will not
hand out the null pointer for a new one. -/
structure PhysicalMemory.Safe (memory : PhysicalMemory) (roots : Set U64) : Prop
    extends PhysicalMemory.Sound memory roots where
  nullReserved : memory.allocator.NullReserved
  dereferenceable : ∀ table, Node entryTarget 3 roots memory.tables table → Dereferenceable table

theorem PhysicalMemory.Safe.root {memory : PhysicalMemory} {roots : Set U64}
    (hmemory : memory.Safe roots) {root : U64} (hroot : root ∈ roots) : Dereferenceable root :=
  hmemory.dereferenceable root (Node.of_walk hroot (Nat.zero_le _) (walk_nil entryTarget _ _))

/-- Every page of every space has the same last-level entry. -/
def SameLeaves (roots : Set U64) (before after : PhysicalMemory) : Prop :=
  ∀ root ∈ roots, ∀ path : List (Fin 512), path.length = 3 → ∀ slot,
    lookup entryTarget after.tables root path slot =
      lookup entryTarget before.tables root path slot

theorem SameLeaves.trans {roots : Set U64} {first second third : PhysicalMemory}
    (hfirst : SameLeaves roots first second) (hsecond : SameLeaves roots second third) :
    SameLeaves roots first third := by
  intro root hroot path hpath slot
  rw [hsecond root hroot path hpath slot, hfirst root hroot path hpath slot]

/-- Every path leads to the same table. -/
def SameTables (roots : Set U64) (before after : PhysicalMemory) : Prop :=
  ∀ root ∈ roots, ∀ path : List (Fin 512), path.length ≤ 3 →
    walk entryTarget after.tables root path = walk entryTarget before.tables root path

/-- One path leads to a new table, all others where they led before. -/
def TableLinked (roots : Set U64) (before after : PhysicalMemory) (root : U64)
    (path : List (Fin 512)) (table : U64) : Prop :=
  ∀ root' ∈ roots, ∀ path' : List (Fin 512), path'.length ≤ 3 →
    walk entryTarget after.tables root' path' =
      if root' = root ∧ path' = path then some table
      else walk entryTarget before.tables root' path'

namespace PageTable

variable {memory : PhysicalMemory} {roots : Set U64}

theorem addressable_frameAddress (frame : Frame) : Addressable (frameAddress frame) := by
  have hnat := frameAddress_toNat frame
  have hbound := lt_of_lt_of_eq frame.isLt maxFrames_eq
  constructor
  · rw [← BitVec.toNat_inj, BitVec.toNat_umod, hnat]
    simp [pageSize]
  · have hmask : addressMask.toNat = 2 ^ 52 - 4096 := by decide
    change ¬ addressMask.toNat < (frameAddress frame).toNat
    omega

theorem dereferenceable_frameAddress {frame : Frame} (hframe : frame.val ≠ 0) :
    Dereferenceable (frameAddress frame) := by
  refine ⟨fun hnull => hframe ?_, (addressable_frameAddress frame).1⟩
  have hnat := congrArg BitVec.toNat hnull
  rw [frameAddress_toNat, BitVec.toNat_ofNat] at hnat
  omega

/-- A free frame is not a page table. -/
theorem free_not_node (hmemory : memory.Sound roots) {frame : Frame}
    (hfree : frame ∈ memory.allocator.freeSet) :
    ¬ Node entryTarget 3 roots memory.tables (frameAddress frame) :=
  fun hnode => hmemory.reserved _ hnode frame hfree rfl

/-- Handing out a frame touches no table, and the frame itself is free no
longer. -/
theorem handOut_sound (hmemory : memory.Sound roots) {frame : Frame}
    (hfree : frame ∈ memory.allocator.freeSet) :
    PhysicalMemory.Sound ⟨memory.allocator.handOut frame, memory.tables⟩ roots ∧
      ∀ other ∈ (memory.allocator.handOut frame).freeSet,
        frameAddress frame ≠ frameAddress other := by
  rw [freeSet_handOut]
  constructor
  · refine ⟨handOut_consistent hmemory.consistent hfree, hmemory.forest, ?_⟩
    intro table hnode other hother
    rw [freeSet_handOut] at hother
    exact hmemory.reserved table hnode other (Finset.mem_of_mem_erase hother)
  · intro other hother heq
    rw [frameAddress_injective heq] at hother
    exact Finset.notMem_erase other _ hother

theorem handOut_safe (hmemory : memory.Safe roots) {frame : Frame}
    (hfree : frame ∈ memory.allocator.freeSet) :
    PhysicalMemory.Safe ⟨memory.allocator.handOut frame, memory.tables⟩ roots where
  toSound := (handOut_sound hmemory.toSound hfree).1
  nullReserved := hmemory.nullReserved.of_managed_eq (managed_handOut hfree)
  dereferenceable := hmemory.dereferenceable

/-- Part of the way down one tree: `path` leads to `table`, and the entry that
`table` hangs on allows the permissions asked for. -/
structure Descent (memory : PhysicalMemory) (roots : Set U64) (root : U64)
    (path : List (Fin 512)) (table : U64) (writable user : Bool) : Prop where
  sound : memory.Sound roots
  reached : walk entryTarget memory.tables root path = some table
  granted : ∀ front slot above, path = front ++ [slot] →
    walk entryTarget memory.tables root front = some above →
    Grants (memory.tables above slot) writable user

theorem Descent.start (hmemory : memory.Sound roots) (root : U64) (writable user : Bool) :
    Descent memory roots root [] root writable user where
  sound := hmemory
  reached := rfl
  granted := by
    intro front slot above hpath
    simp at hpath

theorem Descent.node {root table : U64} {path : List (Fin 512)} {writable user : Bool}
    (hdescent : Descent memory roots root path table writable user) (hroot : root ∈ roots)
    (hdepth : path.length ≤ 3) : Node entryTarget 3 roots memory.tables table :=
  Node.of_walk hroot hdepth hdescent.reached

theorem Descent.extend {root parent table : U64} {path : List (Fin 512)} {index : Fin 512}
    {writable user : Bool} (hmemory : memory.Sound roots)
    (hparent : walk entryTarget memory.tables root path = some parent)
    (htable : entryTarget (memory.tables parent index) = some table)
    (hgrants : Grants (memory.tables parent index) writable user) :
    Descent memory roots root (path ++ [index]) table writable user where
  sound := hmemory
  reached := walk_extend hparent htable
  granted := by
    intro front slot above hpath habove
    obtain ⟨rfl, hslot⟩ := List.append_inj' hpath rfl
    obtain rfl := List.singleton_inj.mp hslot
    rw [hparent] at habove
    obtain rfl := Option.some.inj habove
    exact hgrants

/-- The three indices that lead to the last-level table of an address. -/
def pagePath (virtualAddress : U64) : List (Fin 512) :=
  [(indexes virtualAddress).1, (indexes virtualAddress).2.1, (indexes virtualAddress).2.2.1]

/-- The index within the last-level table. -/
def pageSlot (virtualAddress : U64) : Fin 512 :=
  (indexes virtualAddress).2.2.2

/-- The arguments `map` accepts. -/
structure Mappable (virtualAddress physicalAddress : U64) : Prop where
  canonical : isCanonical virtualAddress = true
  aligned : virtualAddress % pageSize = 0#64
  addressable : Addressable physicalAddress

/-- The last-level entries are those of `before`, except that one is
`entry`. -/
def LeafSet (roots : Set U64) (before after : PhysicalMemory) (root virtualAddress : U64)
    (entry : Option U64) : Prop :=
  ∀ root' ∈ roots, ∀ path : List (Fin 512), path.length = 3 → ∀ slot,
    lookup entryTarget after.tables root' path slot =
      if root' = root ∧ path = pagePath virtualAddress ∧ slot = pageSlot virtualAddress then entry
      else lookup entryTarget before.tables root' path slot

/-- Writing an entry into a last-level table. -/
theorem writeLeaf_spec {root table virtualAddress : U64} (entry : U64) {writable user : Bool}
    (hdescent : Descent memory roots root (pagePath virtualAddress) table writable user)
    (hroot : root ∈ roots) (hok : NotHuge entry)
    (hup : (entryTarget entry).isSome → ∀ bound, Grants bound writable user → Within entry bound) :
    PhysicalMemory.Sound
        ⟨memory.allocator, write memory.tables table (pageSlot virtualAddress) entry⟩ roots ∧
      LeafSet roots memory
        ⟨memory.allocator, write memory.tables table (pageSlot virtualAddress) entry⟩
        root virtualAddress (if (entryTarget entry).isSome then some entry else none) ∧
      SameTables roots memory
        ⟨memory.allocator, write memory.tables table (pageSlot virtualAddress) entry⟩ := by
  obtain ⟨hmemory, hreached, hgranted⟩ := hdescent
  have hforest := hmemory.forest
  have hdepth : (pagePath virtualAddress).length ≤ 3 := le_rfl
  have hlast : ¬ (pagePath virtualAddress).length < 3 := lt_irrefl 3
  have hshape : (pagePath virtualAddress).length < 3 → entryTarget entry =
      entryTarget (memory.tables table (pageSlot virtualAddress)) := fun h => absurd h hlast
  refine ⟨?_, ?_, ?_⟩
  · refine ⟨hmemory.consistent, hforest.write_entry hroot hdepth hreached hshape hok
      (fun h => absurd h hlast) ?_, fun other hother => ?_⟩
    · intro hsome front slot above hpath habove
      exact hup hsome _ (hgranted front slot above hpath habove)
    · rw [node_write_iff hforest hroot hdepth hreached hshape] at hother
      exact hmemory.reserved other hother
  · intro root' hroot' path hpath slot
    exact lookup_write hforest hroot hdepth hreached hshape hroot' hpath.le slot
  · intro root' hroot' path hpath
    exact walk_write hforest hroot hdepth hreached hshape hroot' hpath

/-- No entry met on the way down is a huge page. -/
theorem walk_not_huge (hmemory : memory.Sound roots) {root : U64} (hroot : root ∈ roots)
    {path : List (Fin 512)} (hdepth : path.length ≤ 3) {table : U64}
    (hwalk : walk entryTarget memory.tables root path = some table) (index : Fin 512) :
    memory.tables table index &&& hugePageFlag = 0#64 :=
  (not_huge_iff _).mpr (hmemory.forest.entries (Node.of_walk hroot hdepth hwalk) index)

theorem lookup_of_absent {tables : U64 → PageTable} {root table : U64} {path : List (Fin 512)}
    {index : Fin 512} (hwalk : walk entryTarget tables root path = some table)
    (habsent : tables table index &&& presentFlag = 0#64) :
    lookup entryTarget tables root path index = none := by
  rw [lookup, hwalk, Option.bind_some, (entryTarget_eq_none_iff _).mpr habsent]
  rfl

theorem lookup_of_present {tables : U64 → PageTable} {root table : U64} {path : List (Fin 512)}
    {index : Fin 512} (hwalk : walk entryTarget tables root path = some table)
    (hpresent : ¬ tables table index &&& presentFlag = 0#64) :
    lookup entryTarget tables root path index = some (tables table index) := by
  rw [lookup, hwalk, Option.bind_some, entryTarget_of_present hpresent]
  rfl

/-- The entries `translate` and `unmap` read on the first three levels. -/
abbrev pml4Entry (tables : U64 → PageTable) (root virtualAddress : U64) : U64 :=
  tables root (indexes virtualAddress).1

abbrev pdptEntry (tables : U64 → PageTable) (root virtualAddress : U64) : U64 :=
  tables (entryAddress (pml4Entry tables root virtualAddress)) (indexes virtualAddress).2.1

abbrev pdEntry (tables : U64 → PageTable) (root virtualAddress : U64) : U64 :=
  tables (entryAddress (pdptEntry tables root virtualAddress)) (indexes virtualAddress).2.2.1

/-- The tables on the way to an address, as far as its entries are present. -/
theorem walk_pdpt {tables : U64 → PageTable} {root virtualAddress : U64}
    (hpml4 : ¬ pml4Entry tables root virtualAddress &&& presentFlag = 0#64) :
    walk entryTarget tables root [(indexes virtualAddress).1] =
      some (entryAddress (pml4Entry tables root virtualAddress)) := by
  rw [walk_cons, entryTarget_of_present hpml4]
  rfl

theorem walk_pd {tables : U64 → PageTable} {root virtualAddress : U64}
    (hpml4 : ¬ pml4Entry tables root virtualAddress &&& presentFlag = 0#64)
    (hpdpt : ¬ pdptEntry tables root virtualAddress &&& presentFlag = 0#64) :
    walk entryTarget tables root [(indexes virtualAddress).1, (indexes virtualAddress).2.1] =
      some (entryAddress (pdptEntry tables root virtualAddress)) := by
  rw [walk_cons, entryTarget_of_present hpml4, Option.bind_some, walk_cons,
    entryTarget_of_present hpdpt]
  rfl

theorem walk_pagePath {tables : U64 → PageTable} {root virtualAddress : U64}
    (hpml4 : ¬ pml4Entry tables root virtualAddress &&& presentFlag = 0#64)
    (hpdpt : ¬ pdptEntry tables root virtualAddress &&& presentFlag = 0#64)
    (hpd : ¬ pdEntry tables root virtualAddress &&& presentFlag = 0#64) :
    walk entryTarget tables root (pagePath virtualAddress) =
      some (entryAddress (pdEntry tables root virtualAddress)) := by
  rw [pagePath, walk_cons, entryTarget_of_present hpml4, Option.bind_some, walk_cons,
    entryTarget_of_present hpdpt, Option.bind_some, walk_cons, entryTarget_of_present hpd]
  rfl

/-- Where the way down to a page can end: at one of three absent entries, or at
its last-level table. -/
theorem page_walk_cases (hmemory : memory.Sound roots) {root : U64} (hroot : root ∈ roots)
    (virtualAddress : U64) :
    (walk entryTarget memory.tables root (pagePath virtualAddress) = none ∧
      (pml4Entry memory.tables root virtualAddress &&& presentFlag = 0#64 ∨
        ¬ pml4Entry memory.tables root virtualAddress &&& presentFlag = 0#64 ∧
          pdptEntry memory.tables root virtualAddress &&& presentFlag = 0#64 ∨
        ¬ pml4Entry memory.tables root virtualAddress &&& presentFlag = 0#64 ∧
          ¬ pdptEntry memory.tables root virtualAddress &&& presentFlag = 0#64 ∧
          pdptEntry memory.tables root virtualAddress &&& hugePageFlag = 0#64 ∧
          pdEntry memory.tables root virtualAddress &&& presentFlag = 0#64)) ∨
    (walk entryTarget memory.tables root (pagePath virtualAddress) =
        some (entryAddress (pdEntry memory.tables root virtualAddress)) ∧
      ¬ pml4Entry memory.tables root virtualAddress &&& presentFlag = 0#64 ∧
      ¬ pdptEntry memory.tables root virtualAddress &&& presentFlag = 0#64 ∧
      pdptEntry memory.tables root virtualAddress &&& hugePageFlag = 0#64 ∧
      ¬ pdEntry memory.tables root virtualAddress &&& presentFlag = 0#64 ∧
      pdEntry memory.tables root virtualAddress &&& hugePageFlag = 0#64) := by
  by_cases hpml4 : pml4Entry memory.tables root virtualAddress &&& presentFlag = 0#64
  · refine Or.inl ⟨?_, Or.inl hpml4⟩
    rw [pagePath, walk_cons, (entryTarget_eq_none_iff _).mpr hpml4]
    rfl
  by_cases hpdpt : pdptEntry memory.tables root virtualAddress &&& presentFlag = 0#64
  · refine Or.inl ⟨?_, Or.inr (Or.inl ⟨hpml4, hpdpt⟩)⟩
    rw [pagePath, walk_cons, entryTarget_of_present hpml4, Option.bind_some, walk_cons,
      (entryTarget_eq_none_iff _).mpr hpdpt]
    rfl
  have hpdptHuge :=
    walk_not_huge hmemory hroot (by simp) (walk_pdpt hpml4) (indexes virtualAddress).2.1
  by_cases hpd : pdEntry memory.tables root virtualAddress &&& presentFlag = 0#64
  · refine Or.inl ⟨?_, Or.inr (Or.inr ⟨hpml4, hpdpt, hpdptHuge, hpd⟩)⟩
    rw [pagePath, walk_cons, entryTarget_of_present hpml4, Option.bind_some, walk_cons,
      entryTarget_of_present hpdpt, Option.bind_some, walk_cons,
      (entryTarget_eq_none_iff _).mpr hpd]
    rfl
  have hpdHuge := walk_not_huge hmemory hroot (by simp) (walk_pd hpml4 hpdpt)
    (indexes virtualAddress).2.2.1
  exact Or.inr ⟨walk_pagePath hpml4 hpdpt hpd, hpml4, hpdpt, hpdptHuge, hpd, hpdHuge⟩

/-- The branches of `translate` for a canonical address. -/
theorem translate_canonical (tables : U64 → PageTable) (root : U64) {virtualAddress : U64}
    (hcanonical : isCanonical virtualAddress = true) :
    translate tables root virtualAddress =
      if pml4Entry tables root virtualAddress &&& presentFlag = 0#64 then some none
      else (deref (entryAddress (pml4Entry tables root virtualAddress))).bind fun pdpt =>
        if tables pdpt (indexes virtualAddress).2.1 &&& presentFlag = 0#64 then some none
        else if tables pdpt (indexes virtualAddress).2.1 &&& hugePageFlag ≠ 0#64 then
          (checkedAdd (tables pdpt (indexes virtualAddress).2.1 &&& 0x000FFFC000000000#64)
            (virtualAddress &&& 0x3FFFFFFF#64)).map some
        else (deref (entryAddress (tables pdpt (indexes virtualAddress).2.1))).bind fun pd =>
          if tables pd (indexes virtualAddress).2.2.1 &&& presentFlag = 0#64 then some none
          else if tables pd (indexes virtualAddress).2.2.1 &&& hugePageFlag ≠ 0#64 then
            (checkedAdd (tables pd (indexes virtualAddress).2.2.1 &&& 0x000FFFFFFFE00000#64)
              (virtualAddress &&& 0x1FFFFF#64)).map some
          else (deref (entryAddress (tables pd (indexes virtualAddress).2.2.1))).bind fun pt =>
            if tables pt (pageSlot virtualAddress) &&& presentFlag = 0#64 then some none
            else (checkedAdd (entryAddress (tables pt (pageSlot virtualAddress)))
              (virtualAddress &&& 0xFFF#64)).map some := by
  rw [PageTable.translate, hcanonical, if_neg (by simp)]
  rfl

/-- No table on the way to an address is a null pointer. -/
def Clear (tables : U64 → PageTable) (root virtualAddress : U64) : Prop :=
  ∀ front, front ≠ [] → front <+: pagePath virtualAddress → ∀ table,
    walk entryTarget tables root front = some table → Dereferenceable table

theorem clear_of_safe (hmemory : memory.Safe roots) {root : U64} (hroot : root ∈ roots)
    (virtualAddress : U64) : Clear memory.tables root virtualAddress :=
  fun _ _ hfront table hwalk =>
    hmemory.dereferenceable table (Node.of_walk hroot hfront.length_le hwalk)

/-- `translate` looks the page up and adds the page offset. -/
theorem translate_spec (hmemory : memory.Sound roots) {root : U64} (hroot : root ∈ roots)
    {virtualAddress : U64} (hclear : Clear memory.tables root virtualAddress)
    (hcanonical : isCanonical virtualAddress = true) :
    translate memory.tables root virtualAddress =
      match lookup entryTarget memory.tables root (pagePath virtualAddress)
        (pageSlot virtualAddress) with
      | none => some none
      | some entry => (checkedAdd (entryAddress entry) (virtualAddress &&& 0xFFF#64)).map some := by
  have hpdptAt (hpml4 : ¬ pml4Entry memory.tables root virtualAddress &&& presentFlag = 0#64) :=
    deref_of (hclear _ (List.cons_ne_nil _ _) ⟨[_, _], rfl⟩ _ (walk_pdpt hpml4))
  have hpdAt (hpml4 : ¬ pml4Entry memory.tables root virtualAddress &&& presentFlag = 0#64)
      (hpdpt : ¬ pdptEntry memory.tables root virtualAddress &&& presentFlag = 0#64) :=
    deref_of (hclear _ (List.cons_ne_nil _ _) ⟨[_], rfl⟩ _ (walk_pd hpml4 hpdpt))
  rw [translate_canonical _ _ hcanonical]
  rcases page_walk_cases hmemory hroot virtualAddress with
    ⟨hnone, hpml4 | ⟨hpml4, hpdpt⟩ | ⟨hpml4, hpdpt, hpdptHuge, hpd⟩⟩ |
    ⟨hwalk, hpml4, hpdpt, hpdptHuge, hpd, hpdHuge⟩
  · rw [lookup, hnone, if_pos hpml4]
    rfl
  · rw [lookup, hnone, if_neg hpml4, hpdptAt hpml4, Option.bind_some, if_pos hpdpt]
    rfl
  · rw [lookup, hnone, if_neg hpml4, hpdptAt hpml4, Option.bind_some, if_neg hpdpt,
      if_neg (not_not.mpr hpdptHuge), hpdAt hpml4 hpdpt, Option.bind_some, if_pos hpd]
    rfl
  · have hptAt := deref_of (hclear _ (List.cons_ne_nil _ _) List.prefix_rfl _ hwalk)
    rw [if_neg hpml4, hpdptAt hpml4, Option.bind_some, if_neg hpdpt,
      if_neg (not_not.mpr hpdptHuge), hpdAt hpml4 hpdpt, Option.bind_some, if_neg hpd,
      if_neg (not_not.mpr hpdHuge), hptAt, Option.bind_some]
    split
    next hpt => rw [lookup_of_absent hwalk hpt]
    next hpt => rw [lookup_of_present hwalk hpt]

/-- An address that translates: its entries are present, and its tables are not
null, down to the first huge page or to the last level. -/
theorem translate_some_cases {tables : U64 → PageTable} {root virtualAddress physicalAddress : U64}
    (htranslate : translate tables root virtualAddress = some (some physicalAddress)) :
    isCanonical virtualAddress = true ∧
      ¬ pml4Entry tables root virtualAddress &&& presentFlag = 0#64 ∧
      Dereferenceable (entryAddress (pml4Entry tables root virtualAddress)) ∧
      ¬ pdptEntry tables root virtualAddress &&& presentFlag = 0#64 ∧
      (pdptEntry tables root virtualAddress &&& hugePageFlag = 0#64 →
        Dereferenceable (entryAddress (pdptEntry tables root virtualAddress)) ∧
        ¬ pdEntry tables root virtualAddress &&& presentFlag = 0#64 ∧
        (pdEntry tables root virtualAddress &&& hugePageFlag = 0#64 →
          Dereferenceable (entryAddress (pdEntry tables root virtualAddress)) ∧
          ¬ tables (entryAddress (pdEntry tables root virtualAddress)) (pageSlot virtualAddress) &&&
            presentFlag = 0#64)) := by
  have hcanonical : isCanonical virtualAddress = true := by
    by_contra hnot
    rw [PageTable.translate, Bool.eq_false_iff.mpr hnot] at htranslate
    cases htranslate
  have hderef {address : U64} {rest : U64 → Checked (Option U64)}
      (hsome : (deref address).bind rest = some (some physicalAddress)) :
      Dereferenceable address ∧ rest address = some (some physicalAddress) := by
    obtain ⟨table, htable, hrest⟩ := Option.bind_eq_some_iff.mp hsome
    obtain ⟨hvalid, heq⟩ := Option.ite_none_right_eq_some.mp htable
    cases heq
    exact ⟨hvalid, hrest⟩
  rw [translate_canonical _ _ hcanonical] at htranslate
  by_cases hpml4 : pml4Entry tables root virtualAddress &&& presentFlag = 0#64
  · rw [if_pos hpml4] at htranslate
    cases htranslate
  rw [if_neg hpml4] at htranslate
  obtain ⟨hpdptAt, htranslate⟩ := hderef htranslate
  by_cases hpdpt : pdptEntry tables root virtualAddress &&& presentFlag = 0#64
  · rw [if_pos hpdpt] at htranslate
    cases htranslate
  refine ⟨hcanonical, hpml4, hpdptAt, hpdpt, fun hpdptHuge => ?_⟩
  rw [if_neg hpdpt, if_neg (not_not.mpr hpdptHuge)] at htranslate
  obtain ⟨hpdAt, htranslate⟩ := hderef htranslate
  by_cases hpd : pdEntry tables root virtualAddress &&& presentFlag = 0#64
  · rw [if_pos hpd] at htranslate
    cases htranslate
  refine ⟨hpdAt, hpd, fun hpdHuge => ?_⟩
  rw [if_neg hpd, if_neg (not_not.mpr hpdHuge)] at htranslate
  obtain ⟨hptAt, htranslate⟩ := hderef htranslate
  refine ⟨hptAt, fun hpt => ?_⟩
  rw [if_pos hpt] at htranslate
  cases htranslate

/-- Through sound tables, without huge pages, all four levels are there. -/
theorem clear_of_translate (hmemory : memory.Sound roots) {root : U64} (hroot : root ∈ roots)
    {virtualAddress physicalAddress : U64}
    (htranslate : translate memory.tables root virtualAddress = some (some physicalAddress)) :
    (walk entryTarget memory.tables root (pagePath virtualAddress)).isSome ∧
      Clear memory.tables root virtualAddress := by
  obtain ⟨_, hpml4, hpdptAt, hpdpt, hlower⟩ := translate_some_cases htranslate
  have hpdptHuge : pdptEntry memory.tables root virtualAddress &&& hugePageFlag = 0#64 :=
    walk_not_huge hmemory hroot (by simp) (walk_pdpt hpml4) _
  obtain ⟨hpdAt, hpd, hlast⟩ := hlower hpdptHuge
  have hpdHuge : pdEntry memory.tables root virtualAddress &&& hugePageFlag = 0#64 :=
    walk_not_huge hmemory hroot (by simp) (walk_pd hpml4 hpdpt) _
  obtain ⟨hptAt, _⟩ := hlast hpdHuge
  have hwalk := walk_pagePath hpml4 hpdpt hpd
  refine ⟨Option.isSome_of_eq_some hwalk, fun front hfront hbegins table htable => ?_⟩
  -- The front is one of the three ways down to a table.
  rw [pagePath, List.prefix_cons_iff] at hbegins
  obtain rfl | ⟨_, rfl, hbegins⟩ := hbegins
  · exact absurd rfl hfront
  rw [List.prefix_cons_iff] at hbegins
  obtain rfl | ⟨_, rfl, hbegins⟩ := hbegins
  · rw [walk_pdpt hpml4] at htable
    cases htable
    exact hpdptAt
  rw [List.prefix_cons_iff] at hbegins
  obtain rfl | ⟨_, rfl, hbegins⟩ := hbegins
  · rw [walk_pd hpml4 hpdpt] at htable
    cases htable
    exact hpdAt
  rw [List.prefix_nil.mp hbegins] at htable
  cases hwalk.symm.trans htable
  exact hptAt

/-- The permissions the processor applies to a page: the conjunction of the
flags of all entries on the way to it. -/
def effectivePermissions (tables : U64 → PageTable) (table : U64) :
    List (Fin 512) → Option (Bool × Bool)
  | [] => some (true, true)
  | index :: rest =>
      let entry := tables table index
      if entry &&& presentFlag = 0#64 then none
      else (effectivePermissions tables (entryAddress entry) rest).map fun (writable, user) =>
        (decide (entry &&& writableFlag ≠ 0#64) && writable,
          decide (entry &&& userFlag ≠ 0#64) && user)

theorem decide_flag (entry : U64) {bit : Nat} (hbit : bit < 64) :
    decide (entry &&& (1#64 <<< bit) ≠ 0#64) = entry.getLsbD bit := by
  have hiff := and_shift_eq_zero entry hbit
  cases hflag : entry.getLsbD bit with
  | false => exact decide_eq_false (not_not.mpr (hiff.mpr hflag))
  | true => exact decide_eq_true fun hzero => by rw [hiff.mp hzero] at hflag; cases hflag

theorem effectivePermissions_cons (tables : U64 → PageTable) (table : U64) (index : Fin 512)
    (rest : List (Fin 512)) :
    effectivePermissions tables table (index :: rest) =
      if tables table index &&& presentFlag = 0#64 then none
      else (effectivePermissions tables (entryAddress (tables table index)) rest).map
        fun (writable, user) => ((tables table index).getLsbD 1 && writable,
          (tables table index).getLsbD 2 && user) := by
  rw [effectivePermissions, ← decide_flag _ (show 1 < 64 by omega),
    ← decide_flag _ (show 2 < 64 by omega)]
  rfl

/-- Passing through an entry never grants more than the entry does. -/
theorem effectivePermissions_le {tables : U64 → PageTable} {table : U64} {index : Fin 512}
    {rest : List (Fin 512)} {writable user : Bool}
    (heffective : effectivePermissions tables table (index :: rest) = some (writable, user)) :
    Grants (tables table index) writable user ∧ (entryTarget (tables table index)).isSome := by
  rw [effectivePermissions_cons] at heffective
  split at heffective
  · cases heffective
  next hpresent =>
    obtain ⟨⟨writable', user'⟩, _, heq⟩ := Option.map_eq_some_iff.mp heffective
    cases heq
    refine ⟨⟨?_, ?_⟩, by rw [entryTarget_of_present hpresent]; rfl⟩
    · intro hflag
      exact (Bool.and_eq_true_iff.mp hflag).1
    · intro hflag
      exact (Bool.and_eq_true_iff.mp hflag).1

theorem Grants.and_eq {entry : U64} {writable user : Bool} (hgrants : Grants entry writable user) :
    (entry.getLsbD 1 && writable) = writable ∧ (entry.getLsbD 2 && user) = user := by
  constructor
  · cases writable with
    | false => exact Bool.and_false _
    | true => rw [hgrants.1 rfl]; rfl
  · cases user with
    | false => exact Bool.and_false _
    | true => rw [hgrants.2 rfl]; rfl

/-- The last level alone decides: every entry above it allows at least as
much. -/
theorem effectivePermissions_of_walk (hmemory : memory.Sound roots) {root : U64}
    (hroot : root ∈ roots) {path rest : List (Fin 512)} (slot : Fin 512) {table : U64}
    (hlength : path.length + rest.length = 3)
    (hwalk : walk entryTarget memory.tables root path = some table) :
    effectivePermissions memory.tables table (rest ++ [slot]) =
      (lookup entryTarget memory.tables root (path ++ rest) slot).map
        fun entry => (entry.getLsbD 1, entry.getLsbD 2) := by
  induction rest generalizing path table with
  | nil =>
      rw [List.nil_append, List.append_nil, effectivePermissions_cons]
      split
      next habsent => rw [lookup_of_absent hwalk habsent]; rfl
      next hpresent =>
        rw [lookup_of_present hwalk hpresent]
        simp [effectivePermissions]
  | cons index rest ih =>
      rw [List.length_cons] at hlength
      rw [List.cons_append, effectivePermissions_cons, List.append_cons path index rest]
      split
      next habsent =>
        rw [lookup, walk_append, walk_snoc, hwalk, Option.bind_some,
          (entryTarget_eq_none_iff _).mpr habsent]
        rfl
      next hpresent =>
        have hnext : walk entryTarget memory.tables root (path ++ [index]) =
            some (entryAddress (memory.tables table index)) :=
          walk_extend hwalk (entryTarget_of_present hpresent)
        have hrest := ih (by simp only [List.length_append, List.length_singleton]; omega) hnext
        rw [hrest]
        cases hleaf : lookup entryTarget memory.tables root (path ++ [index] ++ rest) slot with
        | none => rfl
        | some entry =>
            rw [hleaf] at hrest
            obtain ⟨first, more, hcons⟩ : ∃ first more, rest ++ [slot] = first :: more := by
              cases rest <;> exact ⟨_, _, rfl⟩
            rw [hcons] at hrest
            obtain ⟨hgrants, hsome⟩ := effectivePermissions_le hrest
            have hbelow := hmemory.forest.chained hroot (by omega) hwalk
              (entryTarget_of_present hpresent) hsome
            have habove : Within entry (memory.tables table index) :=
              ⟨fun hflag => hbelow.1 (hgrants.1 hflag), fun hflag => hbelow.2 (hgrants.2 hflag)⟩
            obtain ⟨hwritable, huser⟩ := Grants.and_eq habove
            simp only [Option.map_some, hwritable, huser]

end PageTable

end UnboundOS.Memory
