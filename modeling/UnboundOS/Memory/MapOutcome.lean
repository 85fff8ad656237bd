import UnboundOS.Memory.PageTree

/-!
The exact outcome of `map` and `unmap` on sound page tables. Whether `map`
succeeds, how many frames it takes and what these become is decided by three
numbers and facts about the memory it starts from, namely the tables missing on
the way, the frames still free and whether the page is mapped already. The
frames taken are the new tables of the forest, also where the call fails in the
end. A call only panics where a table is a null pointer or could become one.
-/

namespace UnboundOS.Memory

open RadixForest PageTable FrameAllocator
open Fallible (exec exec_pure exec_throw exec_read exec_write exec_update exec_checked
  exec_checked_bind exec_bind_ok exec_bind_error exec_bind_panic exec_update_panic)

/-- What going down a tree does to the allocator and to the set of tables:
frames are taken, every one of them becomes a table, and nothing else does or is
written to. -/
structure Grew (roots : Set U64) (before after : PhysicalMemory) : Prop where
  sound : after.Sound roots
  free : after.allocator.freeSet ⊆ before.allocator.freeSet
  alloc : after.allocator.allocSet =
    before.allocator.allocSet ∪ (before.allocator.freeSet \ after.allocator.freeSet)
  walks : ∀ root ∈ roots, ∀ path : List (Fin 512), path.length ≤ 3 → ∀ table,
    walk entryTarget before.tables root path = some table →
    walk entryTarget after.tables root path = some table
  taken : ∀ frame ∈ before.allocator.freeSet \ after.allocator.freeSet,
    Node entryTarget 3 roots after.tables (frameAddress frame)
  nodes : ∀ table, Node entryTarget 3 roots after.tables table →
    Node entryTarget 3 roots before.tables table ∨
      ∃ frame ∈ before.allocator.freeSet \ after.allocator.freeSet, table = frameAddress frame
  outside : ∀ table, ¬ Node entryTarget 3 roots after.tables table →
    after.tables table = before.tables table

namespace Grew

variable {roots : Set U64} {before middle after : PhysicalMemory}

/-- A table that exists stays. -/
theorem node (hgrew : Grew roots before after) {table : U64}
    (hnode : Node entryTarget 3 roots before.tables table) :
    Node entryTarget 3 roots after.tables table := by
  obtain ⟨root, hroot, path, hdepth, hwalk⟩ := hnode
  exact ⟨root, hroot, path, hdepth, hgrew.walks root hroot path hdepth table hwalk⟩

/-- An entry of a table is rewritten, and all tables stay where they are. -/
theorem of_write {table : U64} {index : Fin 512} {entry : U64}
    (hafter : after = ⟨before.allocator, write before.tables table index entry⟩)
    (hsound : after.Sound roots) (htables : SameTables roots before after)
    (hnode : Node entryTarget 3 roots before.tables table) : Grew roots before after where
  sound := hsound
  free := by rw [hafter]
  alloc := by simp [hafter]
  walks := by
    intro root hroot path hdepth table hwalk
    rw [htables root hroot path hdepth, hwalk]
  taken := by simp [hafter]
  nodes := by
    intro other hother
    exact Or.inl ((node_iff_of_walk_eq htables other).mp hother)
  outside := by
    intro other hother
    have hne : other ≠ table := by
      rintro rfl
      exact hother ((node_iff_of_walk_eq htables other).mpr hnode)
    funext slot
    rw [hafter]
    exact write_other _ fun h => hne h.1

theorem refl (hsound : before.Sound roots) : Grew roots before before where
  sound := hsound
  free := subset_rfl
  alloc := by simp
  walks := fun _ _ _ _ _ hwalk => hwalk
  taken := by simp
  nodes := fun _ hnode => Or.inl hnode
  outside := fun _ _ => rfl

/-- A free frame is zeroed and linked below an absent entry. -/
theorem of_linked {parent : U64} {index : Fin 512} {entry : U64} {frame : Frame}
    (hafter : after = ⟨before.allocator.handOut frame,
      write (fill before.tables (frameAddress frame) 0#64) parent index entry⟩)
    (hsound : after.Sound roots) {root : U64} (hroot : root ∈ roots) {path : List (Fin 512)}
    (hdepth : path.length ≤ 3) (habsent : walk entryTarget before.tables root path = none)
    (hfree : frame ∈ before.allocator.freeSet)
    (hparent : Node entryTarget 3 roots before.tables parent)
    (hlinked : TableLinked roots before after root path (frameAddress frame)) :
    Grew roots before after := by
  have hgone : before.allocator.freeSet \ after.allocator.freeSet = {frame} := by
    rw [hafter, freeSet_handOut, Finset.sdiff_erase_self hfree]
  have hwalks : ∀ root' ∈ roots, ∀ path' : List (Fin 512), path'.length ≤ 3 → ∀ table,
      walk entryTarget before.tables root' path' = some table →
      walk entryTarget after.tables root' path' = some table := by
    intro root' hroot' path' hdepth' table hwalk
    rw [hlinked root' hroot' path' hdepth', if_neg, hwalk]
    rintro ⟨rfl, rfl⟩
    rw [habsent] at hwalk
    cases hwalk
  have hnew : Node entryTarget 3 roots after.tables (frameAddress frame) := by
    refine Node.of_walk hroot hdepth ?_
    rw [hlinked root hroot path hdepth, if_pos ⟨rfl, rfl⟩]
  refine ⟨hsound, ?_, ?_, hwalks, ?_, ?_, ?_⟩
  · rw [hafter, freeSet_handOut]
    exact Finset.erase_subset _ _
  · rw [hgone, hafter, allocSet_handOut, Finset.insert_eq, Finset.union_comm]
  · intro other hother
    rw [hgone, Finset.mem_singleton] at hother
    rw [hother]
    exact hnew
  · rintro table ⟨root', hroot', path', hdepth', hwalk⟩
    rw [hlinked root' hroot' path' hdepth'] at hwalk
    split at hwalk
    · right
      refine ⟨frame, ?_, (Option.some.inj hwalk).symm⟩
      rw [hgone]
      exact Finset.mem_singleton_self frame
    · exact Or.inl (Node.of_walk hroot' hdepth' hwalk)
  · intro other hother
    have hneParent : other ≠ parent := by
      rintro rfl
      obtain ⟨root', hroot', path', hdepth', hwalk⟩ := hparent
      exact hother ⟨root', hroot', path', hdepth', hwalks root' hroot' path' hdepth' _ hwalk⟩
    have hneFrame : other ≠ frameAddress frame := by
      rintro rfl
      exact hother hnew
    funext slot
    rw [hafter]
    exact (write_other _ fun h => hneParent h.1).trans (fill_other _ slot hneFrame)

theorem trans (hfirst : Grew roots before middle) (hsecond : Grew roots middle after) :
    Grew roots before after := by
  have hsplit : before.allocator.freeSet \ after.allocator.freeSet =
      (before.allocator.freeSet \ middle.allocator.freeSet) ∪
        (middle.allocator.freeSet \ after.allocator.freeSet) :=
    (Finset.sdiff_union_sdiff_cancel hfirst.free hsecond.free).symm
  refine ⟨hsecond.sound, hsecond.free.trans hfirst.free, ?_, ?_, ?_, ?_, ?_⟩
  · rw [hsecond.alloc, hfirst.alloc, hsplit, Finset.union_assoc]
  · intro root hroot path hdepth table hwalk
    exact hsecond.walks root hroot path hdepth table
      (hfirst.walks root hroot path hdepth table hwalk)
  · intro frame hframe
    rw [hsplit] at hframe
    rcases Finset.mem_union.mp hframe with hold | hnew
    · exact hsecond.node (hfirst.taken frame hold)
    · exact hsecond.taken frame hnew
  · intro table hnode
    rcases hsecond.nodes table hnode with hmiddle | ⟨frame, hframe, heq⟩
    · rcases hfirst.nodes table hmiddle with hbefore | ⟨frame, hframe, heq⟩
      · exact Or.inl hbefore
      · exact Or.inr ⟨frame, by rw [hsplit]; exact Finset.mem_union_left _ hframe, heq⟩
    · exact Or.inr ⟨frame, by rw [hsplit]; exact Finset.mem_union_right _ hframe, heq⟩
  · intro table hnot
    rw [hsecond.outside table hnot, hfirst.outside table fun hnode => hnot (hsecond.node hnode)]

theorem managed (hgrew : Grew roots before after) :
    after.allocator.managed = before.allocator.managed := by
  rw [FrameAllocator.managed, FrameAllocator.managed, hgrew.alloc, Finset.union_left_comm,
    Finset.union_sdiff_of_subset hgrew.free, Finset.union_comm]

/-- New tables are frames that were free, so none of them is null. -/
theorem safe (hgrew : Grew roots before after) (hbefore : before.Safe roots) :
    after.Safe roots where
  toSound := hgrew.sound
  nullReserved := hbefore.nullReserved.of_managed_eq hgrew.managed
  dereferenceable := by
    intro table hnode
    rcases hgrew.nodes table hnode with hold | ⟨frame, hframe, rfl⟩
    · exact hbefore.dereferenceable table hold
    · exact dereferenceable_frameAddress
        (hbefore.nullReserved.free (Finset.mem_sdiff.mp hframe).1)

/-- An address with all its tables keeps them. -/
theorem clear (hgrew : Grew roots before after) {root virtualAddress : U64} (hroot : root ∈ roots)
    (hwalk : (walk entryTarget before.tables root (pagePath virtualAddress)).isSome)
    (hclear : Clear before.tables root virtualAddress) :
    Clear after.tables root virtualAddress := by
  rintro front hfront ⟨back, hback⟩ table htable
  cases hold : walk entryTarget before.tables root front with
  | none =>
      rw [← hback, walk_append, hold] at hwalk
      cases hwalk
  | some old =>
      have hlength : front.length ≤ 3 := by
        have := congrArg List.length hback
        simp only [List.length_append, pagePath, List.length_cons, List.length_nil] at this
        omega
      rw [hgrew.walks root hroot front hlength old hold] at htable
      cases htable
      exact hclear front hfront ⟨back, hback⟩ _ hold

end Grew

namespace PageTable

variable {memory : PhysicalMemory} {roots : Set U64} {root : U64} {writable user : Bool}

/-- One level of the way down of `map`: the table behind an entry, made where it
is missing, as a reference. -/
def level (parent : U64) (index : Fin 512) (writable user : Bool) : Paging U64 := do
  let address ← getOrCreateTable parent index writable user
  tableAt address

/-- The way down of `map`. -/
def descend (writable user : Bool) : U64 → List (Fin 512) → Paging U64
  | table, [] => pure table
  | table, index :: rest => do
      let next ← level table index writable user
      descend writable user next rest

section Exec

variable {parent address : U64} {index : Fin 512} {allocator : FrameAllocator}

theorem exec_tableAt (haddress : Dereferenceable address) (memory : PhysicalMemory) :
    exec (tableAt address) memory = some (.ok address, memory) :=
  exec_checked (deref_of haddress) memory

theorem exec_tableAt_null (haddress : ¬ Dereferenceable address) (memory : PhysicalMemory) :
    exec (tableAt address) memory = none := by
  rw [tableAt, deref, if_neg haddress]
  rfl

theorem exec_getOrCreateTable_present
    (hpresent : ¬ memory.tables parent index &&& presentFlag = 0#64) (writable user : Bool) :
    exec (getOrCreateTable parent index writable user) memory =
      some (.ok (entryAddress (memory.tables parent index)),
        ⟨memory.allocator, write memory.tables parent index
          (widen (memory.tables parent index) writable user)⟩) := by
  rw [getOrCreateTable, readEntry, exec_bind_ok (exec_read _ _), if_pos hpresent, writeEntry,
    exec_bind_ok (exec_write _ _), exec_pure]

/-- A present entry is widened and followed. -/
theorem exec_level_present (hpresent : ¬ memory.tables parent index &&& presentFlag = 0#64)
    (htable : Dereferenceable (entryAddress (memory.tables parent index)))
    (writable user : Bool) :
    exec (level parent index writable user) memory =
      some (.ok (entryAddress (memory.tables parent index)),
        ⟨memory.allocator, write memory.tables parent index
          (widen (memory.tables parent index) writable user)⟩) := by
  rw [level, exec_bind_ok (exec_getOrCreateTable_present hpresent writable user),
    exec_tableAt htable]

/-- It may lead to a null pointer. -/
theorem exec_level_null (hpresent : ¬ memory.tables parent index &&& presentFlag = 0#64)
    (htable : ¬ Dereferenceable (entryAddress (memory.tables parent index)))
    (writable user : Bool) : exec (level parent index writable user) memory = none := by
  rw [level, exec_bind_ok (exec_getOrCreateTable_present hpresent writable user),
    exec_tableAt_null htable]

/-- Widening one entry changes the target of none. -/
theorem entryTarget_write_widen (tables : U64 → PageTable) (table : U64) (index : Fin 512)
    (writable user : Bool) (other : U64) (slot : Fin 512) :
    entryTarget (write tables table index (widen (tables table index) writable user) other slot) =
      entryTarget (tables other slot) := by
  by_cases hhit : other = table ∧ slot = index
  · rw [hhit.1, hhit.2, write_same, entryTarget_widen]
  · rw [write_other _ hhit]

/-- What `get_or_create_table` does behind an absent entry. -/
theorem exec_getOrCreateTable_absent
    (habsent : memory.tables parent index &&& presentFlag = 0#64) (writable user : Bool) :
    exec (getOrCreateTable parent index writable user) memory =
      exec (allocateTableFrame >>= fun frame => do
        let table ← tableAt frame
        zero table
        writeEntry parent index (makeEntry frame writable user)
        return frame) memory := by
  rw [getOrCreateTable, readEntry, exec_bind_ok (exec_read _ _), if_neg (not_not.mpr habsent)]

theorem exec_allocateTableFrame_ok
    (halloc : memory.allocator.allocateFrame = some (some address, allocator)) :
    exec allocateTableFrame memory = some (.ok address, {memory with allocator := allocator}) := by
  rw [allocateTableFrame, exec_bind_ok (exec_update (by rw [halloc]; rfl))]
  rfl

theorem exec_allocateTableFrame_exhausted
    (halloc : memory.allocator.allocateFrame = some (none, memory.allocator)) :
    exec allocateTableFrame memory = some (.error "out of physical memory", memory) := by
  rw [allocateTableFrame, exec_bind_ok (exec_update (by rw [halloc]; rfl))]
  rfl

/-- Behind an absent entry a new table is zeroed and linked. -/
theorem exec_level_absent (habsent : memory.tables parent index &&& presentFlag = 0#64)
    (halloc : memory.allocator.allocateFrame = some (some address, allocator))
    (haddress : Dereferenceable address) (writable user : Bool) :
    exec (level parent index writable user) memory =
      some (.ok address, ⟨allocator, write (fill memory.tables address 0#64) parent index
        (makeEntry address writable user)⟩) := by
  have hlink : exec (getOrCreateTable parent index writable user) memory =
      some (.ok address, ⟨allocator, write (fill memory.tables address 0#64) parent index
        (makeEntry address writable user)⟩) := by
    rw [exec_getOrCreateTable_absent habsent, exec_bind_ok (exec_allocateTableFrame_ok halloc),
      exec_bind_ok (exec_tableAt haddress _), zero, exec_bind_ok (exec_write _ _), writeEntry,
      exec_bind_ok (exec_write _ _), exec_pure]
  rw [level, exec_bind_ok hlink, exec_tableAt haddress]

theorem exec_level_exhausted (habsent : memory.tables parent index &&& presentFlag = 0#64)
    (halloc : memory.allocator.allocateFrame = some (none, memory.allocator))
    (writable user : Bool) :
    exec (level parent index writable user) memory =
      some (.error "out of physical memory", memory) := by
  apply exec_bind_error
  rw [exec_getOrCreateTable_absent habsent,
    exec_bind_error (exec_allocateTableFrame_exhausted halloc)]

/-- The allocator panics, or the frame it hands out is the null pointer. -/
theorem exec_level_panic (habsent : memory.tables parent index &&& presentFlag = 0#64)
    (halloc : memory.allocator.allocateFrame = none ∨ ∃ address allocator,
      memory.allocator.allocateFrame = some (some address, allocator) ∧
        ¬ Dereferenceable address) (writable user : Bool) :
    exec (level parent index writable user) memory = none := by
  apply exec_bind_panic
  rw [exec_getOrCreateTable_absent habsent]
  rcases halloc with hnone | ⟨address, allocator, hframe, hnull⟩
  · exact exec_bind_panic (exec_bind_panic (exec_update_panic (by rw [hnone]; rfl)) _) _
  · rw [exec_bind_ok (exec_allocateTableFrame_ok hframe),
      exec_bind_panic (exec_tableAt_null hnull _)]

end Exec

/-- Following a present entry leaves every page and every table in its
place. -/
theorem level_present {parent : U64} {path : List (Fin 512)}
    (hdescent : Descent memory roots root path parent writable user)
    (hroot : root ∈ roots) (hdepth : path.length < 3) {index : Fin 512}
    (hpresent : ¬ memory.tables parent index &&& presentFlag = 0#64)
    (hvalid : Dereferenceable (entryAddress (memory.tables parent index))) :
    ∃ next, exec (level parent index writable user) memory =
        some (.ok (entryAddress (memory.tables parent index)), next) ∧
      Descent next roots root (path ++ [index]) (entryAddress (memory.tables parent index))
        writable user ∧
      SameLeaves roots memory next ∧ SameTables roots memory next ∧
      next.allocator = memory.allocator ∧ Grew roots memory next := by
  obtain ⟨hmemory, hparent, hgranted⟩ := hdescent
  have hforest := hmemory.forest
  have htarget := entryTarget_of_present hpresent
  have hshape : path.length < 3 → entryTarget (widen (memory.tables parent index) writable user) =
      entryTarget (memory.tables parent index) :=
    fun _ => entryTarget_widen _ _ _
  have hup (_ : (entryTarget (widen (memory.tables parent index) writable user)).isSome)
      (front : List (Fin 512)) (slot : Fin 512) (above : U64) (hpath : path = front ++ [slot])
      (habove : walk entryTarget memory.tables root front = some above) :
      Within (widen (memory.tables parent index) writable user) (memory.tables above slot) := by
    refine Within.widen_below ?_ (hgranted front slot above hpath habove)
    have hstep : entryTarget (memory.tables above slot) = some parent := by
      rwa [hpath, walk_snoc, habove] at hparent
    rw [hpath, List.length_append, List.length_singleton] at hdepth
    exact hforest.chained hroot (by omega) habove hstep (by rw [htarget]; rfl)
  have hok := (hforest.entries (Node.of_walk hroot hdepth.le hparent) index).widen writable user
  have hnext : PhysicalMemory.Sound
      ⟨memory.allocator, write memory.tables parent index
        (widen (memory.tables parent index) writable user)⟩ roots := by
    refine ⟨hmemory.consistent, hforest.write_entry hroot hdepth.le hparent hshape hok
      (fun _ other hother => hother.widen _ _) hup, fun table htable => ?_⟩
    rw [node_write_iff hforest hroot hdepth.le hparent hshape] at htable
    exact hmemory.reserved table htable
  have hreached : walk entryTarget (write memory.tables parent index
      (widen (memory.tables parent index) writable user)) root path = some parent := by
    rwa [walk_write hforest hroot hdepth.le hparent hshape hroot hdepth.le]
  have htables : SameTables roots memory ⟨memory.allocator, write memory.tables parent index
      (widen (memory.tables parent index) writable user)⟩ := fun root' hroot' path' hpath' =>
    walk_write hforest hroot hdepth.le hparent hshape hroot' hpath'
  refine ⟨_, exec_level_present hpresent hvalid writable user,
    Descent.extend hnext hreached ?_ ?_, ?_, htables, rfl,
    .of_write rfl hnext htables (Node.of_walk hroot hdepth.le hparent)⟩
  · simpa only [write_same, entryTarget_widen] using htarget
  · simpa only [write_same] using grants_widen _ writable user
  · intro root' hroot' path' hpath' slot
    rw [lookup_write hforest hroot hdepth.le hparent hshape hroot' hpath'.le, if_neg]
    rintro ⟨_, rfl, _⟩
    omega

/-- A free frame behind an absent entry is one more table of the tree, and no
page changes. -/
theorem level_absent {parent : U64} {path : List (Fin 512)}
    (hdescent : Descent memory roots root path parent writable user)
    (hroot : root ∈ roots) (hdepth : path.length < 3) {index : Fin 512}
    (hpresent : memory.tables parent index &&& presentFlag = 0#64) {frame : Frame}
    (hfree : frame ∈ memory.allocator.freeSet)
    (halloc : memory.allocator.allocateFrame =
      some (some (frameAddress frame), memory.allocator.handOut frame))
    (hframe : frame.val ≠ 0) :
    ∃ next, exec (level parent index writable user) memory =
        some (.ok (frameAddress frame), next) ∧
      Descent next roots root (path ++ [index]) (frameAddress frame) writable user ∧
      SameLeaves roots memory next ∧
      TableLinked roots memory next root (path ++ [index]) (frameAddress frame) ∧
      next.allocator = memory.allocator.handOut frame ∧ Grew roots memory next := by
  obtain ⟨hmemory, hparent, hgranted⟩ := hdescent
  have hforest := hmemory.forest
  have habsent := (entryTarget_eq_none_iff _).mpr hpresent
  have hfresh := free_not_node hmemory hfree
  have htarget := entryTarget_makeEntry (addressable_frameAddress frame) writable user
  have hnodes (table : U64) := node_link_iff hforest hroot hdepth hparent habsent hfresh
    entryTarget_zero htarget table
  have hnext : PhysicalMemory.Sound
      ⟨memory.allocator.handOut frame,
        write (fill memory.tables (frameAddress frame) 0#64) parent index
          (makeEntry (frameAddress frame) writable user)⟩ roots := by
    obtain ⟨hhand, hgone⟩ := handOut_sound hmemory hfree
    refine ⟨hhand.consistent, hforest.link hroot hdepth hparent habsent hfresh
      entryTarget_zero htarget (by simp [NotHuge]) (notHuge_makeEntry _ _ _) ?_, ?_⟩
    · intro front slot above hpath habove
      exact within_makeEntry _ (hgranted front slot above hpath habove)
    · intro table hnode
      rcases (hnodes table).mp hnode with rfl | hold
      · exact hgone
      · exact hhand.reserved table hold
  have hreached : walk entryTarget (write (fill memory.tables (frameAddress frame) 0#64) parent
      index (makeEntry (frameAddress frame) writable user)) root path = some parent := by
    rw [walk_link hforest hroot hdepth hparent habsent hfresh entryTarget_zero htarget hroot
      hdepth.le, if_neg (fun hsame => absurd hsame.2 (by simp))]
    exact hparent
  have hlinked : TableLinked roots memory ⟨memory.allocator.handOut frame,
      write (fill memory.tables (frameAddress frame) 0#64) parent index
        (makeEntry (frameAddress frame) writable user)⟩ root (path ++ [index])
      (frameAddress frame) := fun root' hroot' path' hpath' =>
    walk_link hforest hroot hdepth hparent habsent hfresh entryTarget_zero htarget hroot' hpath'
  have hnone : walk entryTarget memory.tables root (path ++ [index]) = none := by
    rw [walk_snoc, hparent, Option.bind_some, habsent]
  have hlength : (path ++ [index]).length ≤ 3 := by
    rw [List.length_append, List.length_singleton]
    omega
  refine ⟨_, exec_level_absent hpresent halloc
    (dereferenceable_frameAddress hframe) writable user,
    Descent.extend hnext hreached ?_ ?_, ?_, hlinked, rfl,
    .of_linked rfl hnext hroot hlength hnone hfree (Node.of_walk hroot hdepth.le hparent) hlinked⟩
  · simpa only [write_same] using htarget
  · simpa only [write_same] using grants_makeEntry _ writable user
  · intro root' hroot' path' hpath' slot
    exact lookup_link hforest hroot hdepth hparent habsent hfresh entryTarget_zero htarget
      hroot' hpath' slot

/-- Below a table that has just been zeroed everything is missing. -/
theorem missing_blank {tables : U64 → PageTable} {table : U64}
    (hblank : ∀ index, tables table index = 0#64) (rest : List (Fin 512)) :
    missing entryTarget tables table rest = rest.length := by
  cases rest with
  | nil => rfl
  | cons index rest =>
      have hnone : entryTarget (tables table index) = none := by rw [hblank, entryTarget_zero]
      rw [missing_of_none entryTarget hnone, List.length_cons]

theorem missing_created {table : U64} {path : List (Fin 512)}
    (hdescent : Descent memory roots root path table writable user) (hroot : root ∈ roots)
    (hdepth : path.length < 3) {index : Fin 512}
    (habsent : memory.tables table index &&& presentFlag = 0#64) {frame : Frame}
    (hfree : frame ∈ memory.allocator.freeSet)
    (halloc : memory.allocator.allocateFrame =
      some (some (frameAddress frame), memory.allocator.handOut frame)) (hframe : frame.val ≠ 0)
    {linked : PhysicalMemory}
    (hexec : exec (level table index writable user) memory =
      some (.ok (frameAddress frame), linked)) (rest : List (Fin 512)) :
    missing entryTarget linked.tables (frameAddress frame) rest = rest.length := by
  rw [exec_level_absent habsent halloc (dereferenceable_frameAddress hframe)] at hexec
  cases hexec
  apply missing_blank
  intro slot
  have hne : ¬ (frameAddress frame = table ∧ slot = index) := by
    rintro ⟨rfl, _⟩
    exact free_not_node hdescent.sound hfree (Node.of_walk hroot hdepth.le hdescent.reached)
  simp only [write_other _ hne, fill_same]

/-- Behind an entry that is present as much is missing as before it. -/
theorem missing_present {table : U64} {index : Fin 512}
    (hpresent : ¬ memory.tables table index &&& presentFlag = 0#64)
    (hvalid : Dereferenceable (entryAddress (memory.tables table index)))
    {widened : PhysicalMemory}
    (hexec : exec (level table index writable user) memory =
      some (.ok (entryAddress (memory.tables table index)), widened)) (rest : List (Fin 512)) :
    missing entryTarget widened.tables (entryAddress (memory.tables table index)) rest =
      missing entryTarget memory.tables table (index :: rest) := by
  rw [exec_level_present hpresent hvalid] at hexec
  cases hexec
  rw [missing_of_some entryTarget (entryTarget_of_present hpresent)]
  apply missing_pointwise
  exact entryTarget_write_widen memory.tables table index writable user

/-- The way down from any of its tables. It takes one frame for each missing
table while there are frames; it succeeds exactly if they last. -/
theorem descend_outcome {table : U64} {path rest : List (Fin 512)}
    (hdescent : Descent memory roots root path table writable user) (hroot : root ∈ roots)
    (hlength : path.length + rest.length ≤ 3) :
    (exec (descend writable user table rest) memory = none ∧ ¬ memory.Safe roots) ∨
    ∃ result next, exec (descend writable user table rest) memory = some (result, next) ∧
      Grew roots memory next ∧ SameLeaves roots memory next ∧
      next.allocator.freeSet.card = memory.allocator.freeSet.card -
        missing entryTarget memory.tables table rest ∧
      ((∃ pt, result = .ok pt ∧
          missing entryTarget memory.tables table rest ≤ memory.allocator.freeSet.card ∧
          Descent next roots root (path ++ rest) pt writable user) ∨
        ∃ message, result = .error message ∧
          memory.allocator.freeSet.card < missing entryTarget memory.tables table rest) := by
  induction rest generalizing memory path table with
  | nil =>
      refine Or.inr ⟨.ok table, memory, rfl, .refl hdescent.sound, fun _ _ _ _ _ => rfl, ?_,
        Or.inl ⟨table, rfl, Nat.zero_le _, ?_⟩⟩
      · rw [missing, Nat.sub_zero]
      · rwa [List.append_nil]
  | cons index rest ih =>
      have hdepth : path.length < 3 := by
        rw [List.length_cons] at hlength
        omega
      have hsnoc : (path ++ [index]).length + rest.length ≤ 3 := by
        rw [List.length_cons] at hlength
        rw [List.length_append, List.length_singleton]
        omega
      by_cases habsent : memory.tables table index &&& presentFlag = 0#64
      · have hnone := (entryTarget_eq_none_iff _).mpr habsent
        rw [missing_of_none entryTarget hnone]
        rcases allocateFrame_spec hdescent.sound.consistent with
          ⟨hempty, halloc⟩ | ⟨frame, hfree, _, halloc⟩
        · refine Or.inr ⟨_, memory, exec_bind_error (exec_level_exhausted habsent halloc _ _) _,
            .refl hdescent.sound, fun _ _ _ _ _ => rfl, ?_, Or.inr ⟨_, rfl, ?_⟩⟩
          · simp [hempty]
          · simp [hempty]
        · by_cases hframe : frame.val = 0
          · have hnull : ¬ Dereferenceable (frameAddress frame) := fun hvalid => hvalid.1 (by
              rw [← BitVec.toNat_inj, frameAddress_toNat, hframe]
              rfl)
            refine Or.inl ⟨exec_bind_panic (exec_level_panic habsent
              (Or.inr ⟨_, _, halloc, hnull⟩) writable user) _, fun hsafe => ?_⟩
            exact hsafe.nullReserved.free hfree hframe
          obtain ⟨linked, hexec, hnext, hsame, _, hallocator, hgrew⟩ :=
            level_absent hdescent hroot hdepth habsent hfree halloc hframe
          have hcard : linked.allocator.freeSet.card = memory.allocator.freeSet.card - 1 := by
            rw [hallocator, freeSet_handOut, Finset.card_erase_of_mem hfree]
          have hpositive : 0 < memory.allocator.freeSet.card := Finset.card_pos.mpr ⟨frame, hfree⟩
          have hmissing :=
            missing_created hdescent hroot hdepth habsent hfree halloc hframe hexec rest
          rcases ih hnext hsnoc with ⟨hpanic, hunsafe⟩ |
            ⟨result, next, hrest, hgrewRest, hsameRest, hcardRest, houtcome⟩
          · refine Or.inl ⟨?_, fun hsafe => hunsafe (hgrew.safe hsafe)⟩
            rw [descend, exec_bind_ok hexec, hpanic]
          rw [hmissing, hcard] at hcardRest houtcome
          refine Or.inr ⟨result, next, ?_, hgrew.trans hgrewRest, hsame.trans hsameRest,
            by omega, ?_⟩
          · rw [descend, exec_bind_ok hexec]
            exact hrest
          · rcases houtcome with ⟨pt, hresult, hroom, hreached⟩ | ⟨message, hresult, hshort⟩
            · rw [List.append_assoc] at hreached
              exact Or.inl ⟨pt, hresult, by omega, hreached⟩
            · exact Or.inr ⟨message, hresult, by omega⟩
      · by_cases hvalid : Dereferenceable (entryAddress (memory.tables table index))
        swap
        · refine Or.inl ⟨exec_bind_panic (exec_level_null habsent hvalid writable user) _,
            fun hsafe => hvalid (hsafe.dereferenceable _ ?_)⟩
          exact Node.of_walk hroot (by simp only [List.length_append, List.length_singleton]; omega)
            (walk_extend hdescent.reached (entryTarget_of_present habsent))
        obtain ⟨widened, hexec, hnext, hsame, _, hallocator, hgrew⟩ :=
          level_present hdescent hroot hdepth habsent hvalid
        have hmissing := missing_present habsent hvalid hexec rest
        rcases ih hnext hsnoc with ⟨hpanic, hunsafe⟩ |
          ⟨result, next, hrest, hgrewRest, hsameRest, hcardRest, houtcome⟩
        · refine Or.inl ⟨?_, fun hsafe => hunsafe (hgrew.safe hsafe)⟩
          rw [descend, exec_bind_ok hexec, hpanic]
        rw [hmissing, hallocator] at hcardRest houtcome
        refine Or.inr ⟨result, next, ?_, hgrew.trans hgrewRest, hsame.trans hsameRest, hcardRest,
          ?_⟩
        · rw [descend, exec_bind_ok hexec]
          exact hrest
        · rcases houtcome with ⟨pt, hresult, hroom, hreached⟩ | hshort
          · rw [List.append_assoc] at hreached
            exact Or.inl ⟨pt, hresult, hroom, hreached⟩
          · exact Or.inr hshort

/-- What `map` does with the last-level table. -/
def setLeaf (pt : U64) (virtualAddress physicalAddress : U64) (writable user : Bool) :
    Paging Unit := do
  let entry ← readEntry pt (pageSlot virtualAddress)
  if entry &&& presentFlag ≠ 0#64 then throw "virtual page is already mapped"
  else writeEntry pt (pageSlot virtualAddress) (makeEntry physicalAddress writable user)

theorem map_eq_descend {pml4 virtualAddress physicalAddress : U64}
    (hargs : Mappable virtualAddress physicalAddress) (writable user : Bool) :
    map pml4 virtualAddress physicalAddress writable user =
      descend writable user pml4 (pagePath virtualAddress) >>= fun pt =>
        setLeaf pt virtualAddress physicalAddress writable user := by
  obtain ⟨hcanonical, haligned, hphysical, hbound⟩ := hargs
  rw [map, hcanonical, if_neg (by simp), if_neg (not_not.mpr haligned),
    if_neg (not_not.mpr hphysical), if_neg hbound]
  simp only [pagePath, descend, level, setLeaf, bind_assoc, pure_bind]
  rfl

theorem exec_setLeaf_absent {pt virtualAddress : U64}
    (habsent : memory.tables pt (pageSlot virtualAddress) &&& presentFlag = 0#64)
    (physicalAddress : U64) (writable user : Bool) :
    exec (setLeaf pt virtualAddress physicalAddress writable user) memory =
      some (.ok (), ⟨memory.allocator, write memory.tables pt (pageSlot virtualAddress)
        (makeEntry physicalAddress writable user)⟩) := by
  rw [setLeaf, readEntry, exec_bind_ok (exec_read _ _), if_neg (not_not.mpr habsent), writeEntry,
    exec_write]

theorem exec_setLeaf_present {pt virtualAddress : U64}
    (hpresent : ¬ memory.tables pt (pageSlot virtualAddress) &&& presentFlag = 0#64)
    (physicalAddress : U64) (writable user : Bool) :
    exec (setLeaf pt virtualAddress physicalAddress writable user) memory =
      some (.error "virtual page is already mapped", memory) := by
  rw [setLeaf, readEntry, exec_bind_ok (exec_read _ _), if_pos hpresent, exec_throw]

theorem setLeaf_of_error {next : PhysicalMemory} {pt virtualAddress physicalAddress : U64}
    {writable user : Bool} {message : String}
    (hfail : exec (setLeaf pt virtualAddress physicalAddress writable user) memory =
      some (.error message, next)) : next = memory := by
  by_cases habsent : memory.tables pt (pageSlot virtualAddress) &&& presentFlag = 0#64
  · rw [exec_setLeaf_absent habsent] at hfail
    cases hfail
  · rw [exec_setLeaf_present habsent] at hfail
    cases hfail
    rfl

/-- A rejected argument leaves memory alone. -/
theorem map_of_not_mappable (pml4 : U64) (memory : PhysicalMemory)
    {virtualAddress physicalAddress : U64}
    (hargs : ¬ Mappable virtualAddress physicalAddress) (writable user : Bool) :
    ∃ message, exec (map pml4 virtualAddress physicalAddress writable user) memory =
      some (.error message, memory) := by
  by_cases hcanonical : isCanonical virtualAddress = true
  · by_cases haligned : virtualAddress % pageSize = 0#64
    · by_cases hphysical : physicalAddress % pageSize = 0#64
      · have hbound : addressMask < physicalAddress := by
          by_contra hbound
          exact hargs ⟨hcanonical, haligned, hphysical, hbound⟩
        exact ⟨_, by rw [map, hcanonical, if_neg (by simp), if_neg (not_not.mpr haligned),
          if_neg (not_not.mpr hphysical), if_pos hbound, exec_throw]⟩
      · exact ⟨_, by rw [map, hcanonical, if_neg (by simp), if_neg (not_not.mpr haligned),
          if_pos hphysical, exec_throw]⟩
    · exact ⟨_, by rw [map, hcanonical, if_neg (by simp), if_pos haligned, exec_throw]⟩
  · exact ⟨_, by rw [map, Bool.eq_false_iff.mpr hcanonical, if_pos (by simp), exec_throw]⟩

theorem mappable_of_ok {next : PhysicalMemory} {virtualAddress physicalAddress : U64}
    (hok : exec (map root virtualAddress physicalAddress writable user) memory =
      some (.ok (), next)) : Mappable virtualAddress physicalAddress := by
  by_contra hargs
  obtain ⟨message, hfail⟩ := map_of_not_mappable root memory hargs writable user
  rw [hok] at hfail
  cases hfail

/-- What a call of `map` with arguments it accepts has done when it returns. It
succeeds exactly if the page is not mapped and there is a frame for every
missing table, and takes as many of these frames as it can get. -/
structure MapOutcome (roots : Set U64) (memory : PhysicalMemory)
    (root virtualAddress physicalAddress : U64) (writable user : Bool)
    (result : Except String Unit) (next : PhysicalMemory) : Prop where
  grew : Grew roots memory next
  taken : next.allocator.freeSet.card = memory.allocator.freeSet.card -
    missing entryTarget memory.tables root (pagePath virtualAddress)
  pages : (result = .ok () ∧
      lookup entryTarget memory.tables root (pagePath virtualAddress)
        (pageSlot virtualAddress) = none ∧
      missing entryTarget memory.tables root (pagePath virtualAddress) ≤
        memory.allocator.freeSet.card ∧
      LeafSet roots memory next root virtualAddress
        (some (makeEntry physicalAddress writable user))) ∨
    ∃ message, result = .error message ∧
      (lookup entryTarget memory.tables root (pagePath virtualAddress)
          (pageSlot virtualAddress) ≠ none ∨
        memory.allocator.freeSet.card <
          missing entryTarget memory.tables root (pagePath virtualAddress)) ∧
      SameLeaves roots memory next

theorem map_outcome (hmemory : memory.Sound roots) (hroot : root ∈ roots)
    {virtualAddress physicalAddress : U64} (hargs : Mappable virtualAddress physicalAddress)
    (writable user : Bool) :
    (exec (map root virtualAddress physicalAddress writable user) memory = none ∧
      ¬ memory.Safe roots) ∨
    ∃ result next, exec (map root virtualAddress physicalAddress writable user) memory =
        some (result, next) ∧
      MapOutcome roots memory root virtualAddress physicalAddress writable user result next := by
  rw [map_eq_descend hargs]
  rcases descend_outcome (Descent.start hmemory root writable user) hroot
      (show [].length + (pagePath virtualAddress).length ≤ 3 from le_rfl) with
    ⟨hpanic, hunsafe⟩ | ⟨reachedResult, reached, hdescend, hgrew, hsame, hcard, houtcome⟩
  · exact Or.inl ⟨exec_bind_panic hpanic _, hunsafe⟩
  right
  rcases houtcome with ⟨pt, rfl, hroom, hreached⟩ | ⟨message, rfl, hshort⟩
  swap
  · exact ⟨_, reached, exec_bind_error hdescend _, hgrew, hcard,
      Or.inr ⟨message, rfl, Or.inr hshort, hsame⟩⟩
  rw [List.nil_append] at hreached
  rw [exec_bind_ok hdescend]
  have hlookup := hsame root hroot (pagePath virtualAddress) rfl (pageSlot virtualAddress)
  by_cases habsent : reached.tables pt (pageSlot virtualAddress) &&& presentFlag = 0#64
  · rw [lookup_of_absent hreached.reached habsent] at hlookup
    obtain ⟨hsound, hleaf, htables⟩ := writeLeaf_spec (makeEntry physicalAddress writable user)
      hreached hroot (notHuge_makeEntry _ _ _) (fun _ bound hgrants => within_makeEntry _ hgrants)
    refine ⟨_, _, exec_setLeaf_absent habsent _ _ _,
      hgrew.trans (.of_write rfl hsound htables (hreached.node hroot le_rfl)), hcard,
      Or.inl ⟨rfl, hlookup.symm, hroom, fun root' hroot' path hpath slot => ?_⟩⟩
    rw [hleaf root' hroot' path hpath slot, entryTarget_makeEntry hargs.addressable,
      hsame root' hroot' path hpath slot]
    rfl
  · rw [lookup_of_present hreached.reached habsent] at hlookup
    refine ⟨_, _, exec_setLeaf_present habsent _ _ _, hgrew, hcard,
      Or.inr ⟨_, rfl, Or.inl ?_, hsame⟩⟩
    rw [← hlookup]
    exact Option.some_ne_none _

/-- On safe tables `map` never panics. -/
theorem map_returns (hmemory : memory.Safe roots) (hroot : root ∈ roots)
    {virtualAddress physicalAddress : U64} (hargs : Mappable virtualAddress physicalAddress)
    (writable user : Bool) :
    ∃ result next, exec (map root virtualAddress physicalAddress writable user) memory =
        some (result, next) ∧
      MapOutcome roots memory root virtualAddress physicalAddress writable user result next :=
  (map_outcome hmemory.toSound hroot hargs writable user).resolve_left
    fun hpanic => hpanic.2 hmemory

/-- It either fails and changes no page, or sets exactly the page it was asked
for. -/
theorem map_spec (hmemory : memory.Safe roots) (hroot : root ∈ roots)
    (virtualAddress physicalAddress : U64) (writable user : Bool) :
    (∃ message next,
      exec (map root virtualAddress physicalAddress writable user) memory =
        some (.error message, next) ∧ next.Safe roots ∧ SameLeaves roots memory next) ∨
    ∃ next, exec (map root virtualAddress physicalAddress writable user) memory =
        some (.ok (), next) ∧ next.Safe roots ∧ Mappable virtualAddress physicalAddress ∧
      LeafSet roots memory next root virtualAddress
        (some (makeEntry physicalAddress writable user)) := by
  by_cases hargs : Mappable virtualAddress physicalAddress
  swap
  · obtain ⟨message, hfail⟩ := map_of_not_mappable root memory hargs writable user
    exact Or.inl ⟨message, memory, hfail, hmemory, fun _ _ _ _ _ => rfl⟩
  obtain ⟨result, next, hexec, hgrew, _, hpages⟩ := map_returns hmemory hroot hargs writable user
  rcases hpages with ⟨rfl, _, _, hleaf⟩ | ⟨message, rfl, _, hsame⟩
  · exact Or.inr ⟨next, hexec, hgrew.safe hmemory, hargs, hleaf⟩
  · exact Or.inl ⟨message, next, hexec, hgrew.safe hmemory, hsame⟩

/-- A call that succeeded, on tables that need only be sound. -/
theorem map_ok_spec (hmemory : memory.Sound roots) (hroot : root ∈ roots)
    {virtualAddress physicalAddress : U64} {next : PhysicalMemory}
    (hmap : exec (map root virtualAddress physicalAddress writable user) memory =
      some (.ok (), next)) :
    Grew roots memory next ∧ Mappable virtualAddress physicalAddress ∧
      LeafSet roots memory next root virtualAddress
        (some (makeEntry physicalAddress writable user)) := by
  have hargs := mappable_of_ok hmap
  rcases map_outcome hmemory hroot hargs writable user with
    ⟨hpanic, _⟩ | ⟨_, _, hexec, hgrew, _, hpages⟩
  · rw [hmap] at hpanic
    cases hpanic
  rw [hmap] at hexec
  cases hexec
  rcases hpages with ⟨_, _, _, hleaf⟩ | ⟨_, hfail, _⟩
  · exact ⟨hgrew, hargs, hleaf⟩
  · cases hfail

/-- Without permissions to grant, any walk is a descent. -/
theorem Descent.of_walk (hmemory : memory.Sound roots) {table : U64}
    {path : List (Fin 512)} (hwalk : walk entryTarget memory.tables root path = some table) :
    Descent memory roots root path table false false where
  sound := hmemory
  reached := hwalk
  granted := by
    intro front slot above hpath habove
    exact ⟨nofun, nofun⟩

/-- The part of `unmap` behind its argument checks. -/
theorem unmap_checked {pml4 virtualAddress : U64} (hcanonical : isCanonical virtualAddress = true)
    (haligned : virtualAddress % pageSize = 0#64) :
    exec (unmap pml4 virtualAddress) memory =
      if pml4Entry memory.tables pml4 virtualAddress &&& presentFlag = 0#64 then
        some (.error "PML4 entry is not present", memory)
      else (deref (entryAddress (pml4Entry memory.tables pml4 virtualAddress))).bind fun pdpt =>
        if memory.tables pdpt (indexes virtualAddress).2.1 &&& presentFlag = 0#64 then
          some (.error "PDPT entry is not present", memory)
        else if memory.tables pdpt (indexes virtualAddress).2.1 &&& hugePageFlag ≠ 0#64 then
          some (.error "cannot unmap a huge page with 4 KiB unmap", memory)
        else (deref (entryAddress (memory.tables pdpt (indexes virtualAddress).2.1))).bind fun pd =>
          if memory.tables pd (indexes virtualAddress).2.2.1 &&& presentFlag = 0#64 then
            some (.error "PD entry is not present", memory)
          else if memory.tables pd (indexes virtualAddress).2.2.1 &&& hugePageFlag ≠ 0#64 then
            some (.error "cannot unmap a huge page with 4 KiB unmap", memory)
          else (deref (entryAddress (memory.tables pd (indexes virtualAddress).2.2.1))).bind
            fun pt =>
              if memory.tables pt (pageSlot virtualAddress) &&& presentFlag = 0#64 then
                some (.error "virtual page is not mapped", memory)
              else
                some (.ok (entryAddress (memory.tables pt (pageSlot virtualAddress))),
                  ⟨memory.allocator,
                    write memory.tables pt (pageSlot virtualAddress) 0#64⟩) := by
  rw [unmap, hcanonical, if_neg (by simp), if_neg (not_not.mpr haligned)]
  simp only [readEntry, writeEntry, tableAt, exec_bind_ok (exec_read _ _),
    exec_bind_ok (exec_write _ _), exec_checked_bind, apply_ite (fun action => exec action memory),
    exec_throw, exec_pure]
  rfl

/-- `unmap` fails and changes nothing, or clears exactly the page it was asked
for and returns what that page was mapped to. A page that is mapped can be
unmapped. -/
theorem unmap_spec (hmemory : memory.Safe roots) (hroot : root ∈ roots)
    (virtualAddress : U64) :
    (∃ message, exec (unmap root virtualAddress) memory = some (.error message, memory) ∧
      (isCanonical virtualAddress = true → virtualAddress % pageSize = 0#64 →
        lookup entryTarget memory.tables root (pagePath virtualAddress)
          (pageSlot virtualAddress) = none)) ∨
    ∃ entry next, exec (unmap root virtualAddress) memory = some (.ok (entryAddress entry), next) ∧
      lookup entryTarget memory.tables root (pagePath virtualAddress) (pageSlot virtualAddress) =
        some entry ∧
      next.Safe roots ∧ isCanonical virtualAddress = true ∧ virtualAddress % pageSize = 0#64 ∧
      LeafSet roots memory next root virtualAddress none ∧ SameTables roots memory next ∧
      next.allocator = memory.allocator ∧ Grew roots memory next := by
  by_cases hcanonical : isCanonical virtualAddress = true
  swap
  · refine Or.inl ⟨"virtual address is not canonical", ?_, fun h => absurd h hcanonical⟩
    rw [unmap, Bool.eq_false_iff.mpr hcanonical, if_pos (by simp), exec_throw]
  by_cases haligned : virtualAddress % pageSize = 0#64
  swap
  · refine Or.inl ⟨"virtual address is not page aligned", ?_, fun _ h => absurd h haligned⟩
    rw [unmap, hcanonical, if_neg (by simp), if_pos haligned, exec_throw]
  rw [unmap_checked hcanonical haligned]
  have habsent (hnone : walk entryTarget memory.tables root (pagePath virtualAddress) = none) :
      lookup entryTarget memory.tables root (pagePath virtualAddress)
        (pageSlot virtualAddress) = none := by
    rw [lookup, hnone]
    rfl
  have hclear := clear_of_safe hmemory hroot virtualAddress
  have hpdptAt (hpml4 : ¬ pml4Entry memory.tables root virtualAddress &&& presentFlag = 0#64) :=
    deref_of (hclear _ (List.cons_ne_nil _ _) ⟨[_, _], rfl⟩ _ (walk_pdpt hpml4))
  have hpdAt (hpml4 : ¬ pml4Entry memory.tables root virtualAddress &&& presentFlag = 0#64)
      (hpdpt : ¬ pdptEntry memory.tables root virtualAddress &&& presentFlag = 0#64) :=
    deref_of (hclear _ (List.cons_ne_nil _ _) ⟨[_], rfl⟩ _ (walk_pd hpml4 hpdpt))
  rcases page_walk_cases hmemory.toSound hroot virtualAddress with
    ⟨hnone, hpml4 | ⟨hpml4, hpdpt⟩ | ⟨hpml4, hpdpt, hpdptHuge, hpd⟩⟩ |
    ⟨hwalk, hpml4, hpdpt, hpdptHuge, hpd, hpdHuge⟩
  · exact Or.inl ⟨_, if_pos hpml4, fun _ _ => habsent hnone⟩
  · exact Or.inl ⟨_, by rw [if_neg hpml4, hpdptAt hpml4, Option.bind_some, if_pos hpdpt],
      fun _ _ => habsent hnone⟩
  · exact Or.inl ⟨_, by
      rw [if_neg hpml4, hpdptAt hpml4, Option.bind_some, if_neg hpdpt,
        if_neg (not_not.mpr hpdptHuge), hpdAt hpml4 hpdpt, Option.bind_some, if_pos hpd],
      fun _ _ => habsent hnone⟩
  · rw [if_neg hpml4, hpdptAt hpml4, Option.bind_some, if_neg hpdpt,
      if_neg (not_not.mpr hpdptHuge), hpdAt hpml4 hpdpt, Option.bind_some, if_neg hpd,
      if_neg (not_not.mpr hpdHuge),
      deref_of (hclear _ (List.cons_ne_nil _ _) List.prefix_rfl _ hwalk), Option.bind_some]
    split
    next hunmapped =>
      exact Or.inl ⟨_, rfl, fun _ _ => lookup_of_absent hwalk hunmapped⟩
    next hmapped =>
      have hdescent := Descent.of_walk hmemory.toSound hwalk
      obtain ⟨hsound, hleaf, htables⟩ := writeLeaf_spec 0#64 hdescent hroot (by simp [NotHuge])
        (fun hsome => by rw [entryTarget_zero] at hsome; cases hsome)
      have hgrew : Grew roots memory ⟨memory.allocator, write memory.tables
          (entryAddress (pdEntry memory.tables root virtualAddress)) (pageSlot virtualAddress)
          0#64⟩ := .of_write rfl hsound htables (hdescent.node hroot le_rfl)
      exact Or.inr ⟨_, _, rfl, lookup_of_present hwalk hmapped, hgrew.safe hmemory, hcanonical,
        haligned, hleaf, htables, rfl, hgrew⟩

end PageTable

end UnboundOS.Memory
