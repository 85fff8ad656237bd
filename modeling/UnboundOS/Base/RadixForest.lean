import UnboundOS.Base.Checked

/-!
Forests of fixed-depth radix trees in a flat store. A store gives every node
address one entry per index, and an entry may point to a child node. Nothing
in the store itself prevents sharing or cycles; `Forest` states that below a
set of roots, and down to a fixed depth, every node is reached in one way only.

The three writes a tree builder needs are covered: overwriting a node outside
the forest, writing an entry that leaves the shape alone, and linking a blank
node under an absent entry.
-/

namespace UnboundOS.RadixForest

variable {A I E : Type}

section Walk

variable (child : E → Option A)

/-- The node at the end of a path of indices. -/
def walk (store : A → I → E) (root : A) : List I → Option A
  | [] => some root
  | index :: rest => (child (store root index)).bind fun next => walk store next rest

@[simp] theorem walk_nil (store : A → I → E) (root : A) : walk child store root [] = some root :=
  rfl

theorem walk_cons (store : A → I → E) (root : A) (index : I) (rest : List I) :
    walk child store root (index :: rest) =
      (child (store root index)).bind fun next => walk child store next rest := rfl

theorem walk_append (store : A → I → E) (root : A) (path rest : List I) :
    walk child store root (path ++ rest) =
      (walk child store root path).bind fun node => walk child store node rest := by
  induction path generalizing root with
  | nil => rfl
  | cons first more ih =>
      simp only [List.cons_append, walk_cons, Option.bind_assoc]
      exact congrArg _ (funext fun next => ih next)

theorem walk_snoc (store : A → I → E) (root : A) (path : List I) (index : I) :
    walk child store root (path ++ [index]) =
      (walk child store root path).bind fun node => child (store node index) := by
  rw [walk_append]
  congr
  funext node
  rw [walk_cons]
  exact Option.bind_fun_some _

variable {child} in
theorem walk_extend {store : A → I → E} {root node next : A} {path : List I} {index : I}
    (hwalk : walk child store root path = some node)
    (hnext : child (store node index) = some next) :
    walk child store root (path ++ [index]) = some next := by
  rw [walk_snoc, hwalk]
  exact hnext

/-- A walk only reads the entries on its path. -/
theorem walk_congr {store store' : A → I → E} {root : A} {path : List I}
    (hsame : ∀ front index rest node, path = front ++ index :: rest →
      walk child store root front = some node →
      child (store' node index) = child (store node index)) :
    walk child store' root path = walk child store root path := by
  induction path generalizing root with
  | nil => rfl
  | cons first rest ih =>
      have hfirst : child (store' root first) = child (store root first) :=
        hsame [] first rest root rfl rfl
      rw [walk_cons, walk_cons, hfirst]
      cases hchild : child (store root first) with
      | none => rfl
      | some next =>
          refine ih fun front index more node hpath hfront => ?_
          refine hsame (first :: front) index more node (by rw [hpath]; rfl) ?_
          rw [walk_cons, hchild]
          exact hfront

/-- The entry at the end of a path, if it points anywhere. -/
def lookup (store : A → I → E) (root : A) (path : List I) (index : I) : Option E :=
  (walk child store root path).bind fun node =>
    if (child (store node index)).isSome then some (store node index) else none

/-- The entries a walk follows, each by its node and index. -/
def Passes (store : A → I → E) (root : A) : List I → A → I → Prop
  | [], _, _ => False
  | index :: rest, node, slot => ∃ next, child (store root index) = some next ∧
      (node = root ∧ slot = index ∨ Passes store next rest node slot)

/-- A passed entry points somewhere, and its node is reached before the end of
the path. -/
theorem Passes.reached {store : A → I → E} {root node : A} {path : List I} {slot : I}
    (hpasses : Passes child store root path node slot) :
    (child (store node slot)).isSome ∧
      ∃ front : List I, front.length < path.length ∧ walk child store root front = some node := by
  induction path generalizing root with
  | nil => exact hpasses.elim
  | cons index rest ih =>
      obtain ⟨next, hnext, ⟨rfl, rfl⟩ | hlater⟩ := hpasses
      · exact ⟨by rw [hnext]; rfl, [], Nat.succ_pos _, rfl⟩
      · obtain ⟨hsome, front, hfront, hwalk⟩ := ih hlater
        refine ⟨hsome, index :: front, Nat.succ_lt_succ hfront, ?_⟩
        rw [walk_cons, hnext]
        exact hwalk

/-- The nodes of a walk, as far as it gets. -/
def visited (store : A → I → E) (root : A) : List I → List A
  | [] => [root]
  | index :: rest => root ::
      match child (store root index) with
      | some next => visited store next rest
      | none => []

theorem visited_of_some {store : A → I → E} {root next : A} {index : I} {rest : List I}
    (hnext : child (store root index) = some next) :
    visited child store root (index :: rest) = root :: visited child store next rest := by
  rw [visited, hnext]

theorem Passes.mem_visited {store : A → I → E} {root node : A} {path : List I} {slot : I}
    (hpasses : Passes child store root path node slot) : node ∈ visited child store root path := by
  induction path generalizing root with
  | nil => exact hpasses.elim
  | cons index rest ih =>
      obtain ⟨next, hnext, ⟨rfl, rfl⟩ | hlater⟩ := hpasses
      · exact List.mem_cons_self
      · rw [visited_of_some child hnext]
        exact List.mem_cons_of_mem _ (ih hlater)

/-- The number of nodes to be made for a path to exist. -/
def missing (store : A → I → E) (root : A) : List I → Nat
  | [] => 0
  | index :: rest =>
      match child (store root index) with
      | some next => missing store next rest
      | none => rest.length + 1

theorem missing_of_some {store : A → I → E} {root next : A} {index : I} {rest : List I}
    (hnext : child (store root index) = some next) :
    missing child store root (index :: rest) = missing child store next rest := by
  rw [missing, hnext]

theorem missing_of_none {store : A → I → E} {root : A} {index : I} {rest : List I}
    (hnone : child (store root index) = none) :
    missing child store root (index :: rest) = rest.length + 1 := by
  rw [missing, hnone]

theorem missing_eq_zero_iff {store : A → I → E} {root : A} {path : List I} :
    missing child store root path = 0 ↔ (walk child store root path).isSome := by
  induction path generalizing root with
  | nil => simp [missing]
  | cons index rest ih =>
      cases hnext : child (store root index) with
      | none => simp [missing_of_none child hnext, walk_cons, hnext]
      | some next => simp [missing_of_some child hnext, walk_cons, hnext, ih]

section Pointwise

variable {store store' : A → I → E}
  (hsame : ∀ node index, child (store' node index) = child (store node index))

include hsame

theorem walk_pointwise (root : A) (path : List I) :
    walk child store' root path = walk child store root path :=
  walk_congr child fun _ index _ node _ _ => hsame node index

theorem passes_pointwise (root : A) (path : List I) (node : A) (slot : I) :
    Passes child store' root path node slot ↔ Passes child store root path node slot := by
  induction path generalizing root with
  | nil => exact Iff.rfl
  | cons index rest ih => simp only [Passes, hsame, ih]

theorem visited_pointwise (root : A) (path : List I) :
    visited child store' root path = visited child store root path := by
  induction path generalizing root with
  | nil => rfl
  | cons index rest ih => simp only [visited, hsame, ih]

theorem missing_pointwise (root : A) (path : List I) :
    missing child store' root path = missing child store root path := by
  induction path generalizing root with
  | nil => rfl
  | cons index rest ih => simp only [missing, hsame, ih]

end Pointwise

end Walk

section Writes

variable [DecidableEq A]

/-- The store with every entry of one node replaced. -/
def fill (store : A → I → E) (node : A) (entry : E) : A → I → E :=
  fun other slot => if other = node then entry else store other slot

@[simp] theorem fill_same (store : A → I → E) (node : A) (entry : E) (slot : I) :
    fill store node entry node slot = entry :=
  if_pos rfl

theorem fill_other {store : A → I → E} {node other : A} (entry : E) (slot : I)
    (hother : other ≠ node) : fill store node entry other slot = store other slot :=
  if_neg hother

variable [DecidableEq I]

/-- The store with one entry replaced. -/
def write (store : A → I → E) (node : A) (index : I) (entry : E) : A → I → E :=
  fun other slot => if other = node ∧ slot = index then entry else store other slot

@[simp] theorem write_same (store : A → I → E) (node : A) (index : I) (entry : E) :
    write store node index entry node index = entry := by
  simp [write]

theorem write_other {store : A → I → E} {node other : A} {index slot : I} (entry : E)
    (hother : ¬ (other = node ∧ slot = index)) :
    write store node index entry other slot = store other slot :=
  if_neg hother

end Writes

variable (child : E → Option A) (ok : E → Prop) (below : E → E → Prop)

/-- The nodes reached from the roots in at most `depth` steps. -/
def Node (depth : Nat) (roots : Set A) (store : A → I → E) (node : A) : Prop :=
  ∃ root ∈ roots, ∃ path : List I, path.length ≤ depth ∧ walk child store root path = some node

/-- Every node is reached from one root by one path, every entry is `ok`, and
an entry that points anywhere is `below` the entry its own node hangs on. -/
structure Forest (depth : Nat) (roots : Set A) (store : A → I → E) : Prop where
  unique : ∀ {root root' : A} {path path' : List I} {node : A}, root ∈ roots → root' ∈ roots →
    path.length ≤ depth → path'.length ≤ depth → walk child store root path = some node →
    walk child store root' path' = some node → root = root' ∧ path = path'
  entries : ∀ {node : A}, Node child depth roots store node → ∀ index, ok (store node index)
  chained : ∀ {root : A} {path : List I} {node next : A} {index slot : I}, root ∈ roots →
    path.length < depth → walk child store root path = some node →
    child (store node index) = some next → (child (store next slot)).isSome →
    below (store next slot) (store node index)

variable {child ok below} {depth : Nat} {roots : Set A} {store store' : A → I → E}

theorem Node.of_walk {root node : A} {path : List I} (hroot : root ∈ roots)
    (hdepth : path.length ≤ depth) (hwalk : walk child store root path = some node) :
    Node child depth roots store node :=
  ⟨root, hroot, path, hdepth, hwalk⟩

section Unchanged

variable (hwalk : ∀ root ∈ roots, ∀ path : List I, path.length ≤ depth →
  walk child store' root path = walk child store root path)

include hwalk

theorem node_iff_of_walk_eq (node : A) :
    Node child depth roots store' node ↔ Node child depth roots store node := by
  constructor
  · rintro ⟨root, hroot, path, hdepth, hpath⟩
    exact ⟨root, hroot, path, hdepth, by rwa [← hwalk root hroot path hdepth]⟩
  · rintro ⟨root, hroot, path, hdepth, hpath⟩
    exact ⟨root, hroot, path, hdepth, by rwa [hwalk root hroot path hdepth]⟩

/-- Two stores with the same walks and the same entries at the nodes hold the
same forest. -/
theorem Forest.of_agree (hforest : Forest child ok below depth roots store)
    (hentries : ∀ node, Node child depth roots store node → ∀ index,
      store' node index = store node index) :
    Forest child ok below depth roots store' where
  unique := by
    intro root root' path path' node hroot hroot' hdepth hdepth' hpath hpath'
    rw [hwalk root hroot path hdepth] at hpath
    rw [hwalk root' hroot' path' hdepth'] at hpath'
    exact hforest.unique hroot hroot' hdepth hdepth' hpath hpath'
  entries := by
    intro node hnode index
    have hold := (node_iff_of_walk_eq hwalk node).mp hnode
    rw [hentries node hold]
    exact hforest.entries hold index
  chained := by
    intro root path node next index slot hroot hdepth hpath hnext hslot
    rw [hwalk root hroot path hdepth.le] at hpath
    have hnode := Node.of_walk hroot hdepth.le hpath
    rw [hentries node hnode] at hnext ⊢
    have hchildWalk := walk_extend hpath hnext
    have hchild : Node child depth roots store next :=
      Node.of_walk hroot (by simp only [List.length_append, List.length_singleton]; omega)
        hchildWalk
    rw [hentries next hchild] at hslot ⊢
    exact hforest.chained hroot hdepth hpath hnext hslot

omit hwalk in
theorem lookup_eq_of_agree {root : A} {path : List I} (index : I)
    (hpath : walk child store' root path = walk child store root path)
    (hentry : ∀ node, walk child store root path = some node →
      store' node index = store node index) :
    lookup child store' root path index = lookup child store root path index := by
  rw [lookup, lookup, hpath]
  cases hnode : walk child store root path with
  | none => rfl
  | some node => simp only [Option.bind_some, hentry node hnode]

end Unchanged

section Outside

variable [DecidableEq A] {fresh : A} (blank : E)

theorem walk_fill (houtside : ¬ Node child depth roots store fresh)
    {root : A} (hroot : root ∈ roots)
    {path : List I} (hdepth : path.length ≤ depth) :
    walk child (fill store fresh blank) root path = walk child store root path := by
  refine walk_congr child fun front index rest node hpath hfront => ?_
  have hlength := congrArg List.length hpath
  simp only [List.length_append, List.length_cons] at hlength
  have hne : node ≠ fresh := by
    rintro rfl
    exact houtside (Node.of_walk hroot (by omega) hfront)
  rw [fill_other blank index hne]

/-- Overwriting a node outside the forest changes nothing in it. -/
theorem Forest.fill_outside (hforest : Forest child ok below depth roots store)
    (houtside : ¬ Node child depth roots store fresh) :
    Forest child ok below depth roots (fill store fresh blank) := by
  refine hforest.of_agree (fun root hroot path hdepth => walk_fill blank houtside hroot hdepth) ?_
  intro node hnode index
  refine fill_other blank index ?_
  rintro rfl
  exact houtside hnode

theorem lookup_fill (houtside : ¬ Node child depth roots store fresh) {root : A}
    (hroot : root ∈ roots) {path : List I} (hdepth : path.length ≤ depth) (index : I) :
    lookup child (fill store fresh blank) root path index =
      lookup child store root path index := by
  refine lookup_eq_of_agree index (walk_fill blank houtside hroot hdepth) fun node hnode => ?_
  refine fill_other blank index ?_
  rintro rfl
  exact houtside (Node.of_walk hroot hdepth hnode)

theorem node_fill_iff (houtside : ¬ Node child depth roots store fresh) (node : A) :
    Node child depth roots (fill store fresh blank) node ↔ Node child depth roots store node :=
  node_iff_of_walk_eq (fun _ hroot _ hdepth => walk_fill blank houtside hroot hdepth) node

variable {blank}

/-- Below a blank root there is nothing. -/
theorem walk_blank (hblank : child blank = none) (path : List I) :
    walk child (fill store fresh blank) fresh path = if path = [] then some fresh else none := by
  cases path with
  | nil => rfl
  | cons index rest => rw [walk_cons, fill_same, hblank, if_neg (List.cons_ne_nil _ _)]; rfl

theorem node_plant_iff (houtside : ¬ Node child depth roots store fresh)
    (hblank : child blank = none) (node : A) :
    Node child depth (insert fresh roots) (fill store fresh blank) node ↔
      node = fresh ∨ Node child depth roots store node := by
  rw [← node_fill_iff blank houtside]
  constructor
  · rintro ⟨root, rfl | hroot, path, hdepth, hwalk⟩
    · rw [walk_blank hblank] at hwalk
      split at hwalk
      · exact Or.inl (Option.some.inj hwalk).symm
      · cases hwalk
    · exact Or.inr ⟨root, hroot, path, hdepth, hwalk⟩
  · rintro (rfl | ⟨root, hroot, path, hdepth, hwalk⟩)
    · exact ⟨node, Set.mem_insert _ _, [], Nat.zero_le _, rfl⟩
    · exact ⟨root, Set.mem_insert_of_mem _ hroot, path, hdepth, hwalk⟩

/-- A blank node outside the forest is a new tree of its own. -/
theorem Forest.plant (hforest : Forest child ok below depth roots store)
    (houtside : ¬ Node child depth roots store fresh) (hblank : child blank = none)
    (hok : ok blank) :
    Forest child ok below depth (insert fresh roots) (fill store fresh blank) := by
  have hfilled := hforest.fill_outside blank houtside
  have hstill : ¬ Node child depth roots (fill store fresh blank) fresh := by
    rwa [node_fill_iff blank houtside]
  constructor
  · intro root root' path path' node hroot hroot' hdepth hdepth' hwalk hwalk'
    rcases hroot with rfl | hroot
    · rw [walk_blank hblank] at hwalk
      split at hwalk
      next hempty =>
        cases hwalk
        rcases hroot' with rfl | hroot'
        · rw [walk_blank hblank] at hwalk'
          split at hwalk'
          next hempty' => exact ⟨rfl, hempty.trans hempty'.symm⟩
          next => cases hwalk'
        · exact absurd (Node.of_walk hroot' hdepth' hwalk') hstill
      next => cases hwalk
    · rcases hroot' with rfl | hroot'
      · rw [walk_blank hblank] at hwalk'
        split at hwalk'
        next =>
          cases hwalk'
          exact absurd (Node.of_walk hroot hdepth hwalk) hstill
        next => cases hwalk'
      · exact hfilled.unique hroot hroot' hdepth hdepth' hwalk hwalk'
  · intro node hnode index
    rw [node_plant_iff houtside hblank, ← node_fill_iff blank houtside] at hnode
    rcases hnode with rfl | hnode
    · rwa [fill_same]
    · exact hfilled.entries hnode index
  · intro root path node next index slot hroot hdepth hwalk hnext hslot
    rcases hroot with rfl | hroot
    · rw [walk_blank hblank] at hwalk
      split at hwalk
      next =>
        cases hwalk
        rw [fill_same, hblank] at hnext
        cases hnext
      next => cases hwalk
    · exact hfilled.chained hroot hdepth hwalk hnext hslot

theorem lookup_blank (hblank : child blank = none) (path : List I) (index : I) :
    lookup child (fill store fresh blank) fresh path index = none := by
  rw [lookup, walk_blank hblank]
  split
  next => simp [hblank]
  next => rfl

end Outside

section Write

variable {root node : A} {path : List I} {index : I} {entry : E}
  (hforest : Forest child ok below depth roots store) (hroot : root ∈ roots)
  (hdepth : path.length ≤ depth) (hnode : walk child store root path = some node)

include hforest hroot hdepth hnode

/-- Only the path that leads to a node reads its entries. -/
theorem eq_of_walk_node {root' : A} {path' : List I} (hroot' : root' ∈ roots)
    (hdepth' : path'.length ≤ depth) (hwalk : walk child store root' path' = some node) :
    root' = root ∧ path' = path :=
  hforest.unique hroot' hroot hdepth' hdepth hwalk hnode

section Shape

variable [DecidableEq A] [DecidableEq I]
  (hshape : path.length < depth → child entry = child (store node index))

include hshape

/-- A write that keeps the child of an interior entry, or that hits a node of
the last level, leaves every walk alone. -/
theorem child_write_eq {root' : A} {path' : List I} {other : A} (hroot' : root' ∈ roots)
    (hdepth' : path'.length < depth) (hwalk : walk child store root' path' = some other)
    (slot : I) :
    child (write store node index entry other slot) = child (store other slot) := by
  by_cases hhit : other = node ∧ slot = index
  · obtain ⟨rfl, rfl⟩ := hhit
    obtain ⟨_, rfl⟩ := eq_of_walk_node hforest hroot hdepth hnode hroot' hdepth'.le hwalk
    rw [write_same, hshape hdepth']
  · rw [write_other entry hhit]

theorem walk_write {root' : A} (hroot' : root' ∈ roots) {path' : List I}
    (hdepth' : path'.length ≤ depth) :
    walk child (write store node index entry) root' path' = walk child store root' path' := by
  refine walk_congr child fun front slot rest other hpath hfront => ?_
  have hlength := congrArg List.length hpath
  simp only [List.length_append, List.length_cons] at hlength
  exact child_write_eq hforest hroot hdepth hnode hshape hroot' (by omega) hfront slot

theorem node_write_iff (other : A) :
    Node child depth roots (write store node index entry) other ↔
      Node child depth roots store other :=
  node_iff_of_walk_eq (fun _ hroot' _ hdepth' =>
    walk_write hforest hroot hdepth hnode hshape hroot' hdepth') other

/-- Such a write keeps the forest if the entry respects the chain upwards and
downwards. -/
theorem Forest.write_entry (hok : ok entry)
    (hdown : path.length < depth → ∀ other, below other (store node index) → below other entry)
    (hup : (child entry).isSome → ∀ front slot parent, path = front ++ [slot] →
      walk child store root front = some parent → below entry (store parent slot)) :
    Forest child ok below depth roots (write store node index entry) := by
  have hwalks {root' : A} (hroot' : root' ∈ roots) {path' : List I}
      (hdepth' : path'.length ≤ depth) :=
    walk_write hforest hroot hdepth hnode hshape hroot' hdepth'
  constructor
  · intro root₁ root₂ path₁ path₂ other hroot₁ hroot₂ hdepth₁ hdepth₂ hwalk₁ hwalk₂
    rw [hwalks hroot₁ hdepth₁] at hwalk₁
    rw [hwalks hroot₂ hdepth₂] at hwalk₂
    exact hforest.unique hroot₁ hroot₂ hdepth₁ hdepth₂ hwalk₁ hwalk₂
  · intro other hother slot
    rw [node_write_iff hforest hroot hdepth hnode hshape] at hother
    by_cases hhit : other = node ∧ slot = index
    · obtain ⟨rfl, rfl⟩ := hhit
      rwa [write_same]
    · rw [write_other entry hhit]
      exact hforest.entries hother slot
  · intro root' path' other next slot deeper hroot' hdepth' hwalk hnext hdeeper
    rw [hwalks hroot' hdepth'.le] at hwalk
    rw [child_write_eq hforest hroot hdepth hnode hshape hroot' hdepth' hwalk] at hnext
    have hnextWalk := walk_extend hwalk hnext
    have hnextDepth : (path' ++ [slot]).length ≤ depth := by
      simp only [List.length_append, List.length_singleton]
      omega
    by_cases hchild : next = node ∧ deeper = index
    · obtain ⟨rfl, rfl⟩ := hchild
      obtain ⟨rfl, rfl⟩ :=
        eq_of_walk_node hforest hroot hdepth hnode hroot' hnextDepth hnextWalk
      have hparent : ¬ (other = next ∧ slot = deeper) := by
        rintro ⟨rfl, _⟩
        have hpath := (hforest.unique hroot' hroot' hdepth'.le hnextDepth hwalk hnextWalk).2
        have hlength := congrArg List.length hpath
        simp at hlength
      rw [write_same] at hdeeper ⊢
      rw [write_other entry hparent]
      exact hup hdeeper path' slot other rfl hwalk
    · rw [write_other entry hchild] at hdeeper ⊢
      have hold := hforest.chained hroot' hdepth' hwalk hnext hdeeper
      by_cases hparent : other = node ∧ slot = index
      · obtain ⟨rfl, rfl⟩ := hparent
        obtain ⟨_, rfl⟩ := eq_of_walk_node hforest hroot hdepth hnode hroot' hdepth'.le hwalk
        rw [write_same]
        exact hdown hdepth' _ hold
      · rwa [write_other entry hparent]

/-- Among the lookups only the written one can change. -/
theorem lookup_write {root' : A} (hroot' : root' ∈ roots) {path' : List I}
    (hdepth' : path'.length ≤ depth) (slot : I) :
    lookup child (write store node index entry) root' path' slot =
      if root' = root ∧ path' = path ∧ slot = index then
        if (child entry).isSome then some entry else none
      else lookup child store root' path' slot := by
  have hwalks := walk_write hforest hroot hdepth hnode hshape hroot' hdepth'
  by_cases hhit : root' = root ∧ path' = path ∧ slot = index
  · rw [if_pos hhit]
    obtain ⟨rfl, rfl, rfl⟩ := hhit
    rw [lookup, hwalks, hnode]
    simp only [Option.bind_some, write_same]
  · rw [if_neg hhit]
    refine lookup_eq_of_agree slot hwalks fun other hother => write_other entry ?_
    rintro ⟨rfl, rfl⟩
    obtain ⟨rfl, rfl⟩ := eq_of_walk_node hforest hroot hdepth hnode hroot' hdepth' hother
    exact hhit ⟨rfl, rfl, rfl⟩

end Shape

end Write

section Link

variable [DecidableEq A] [DecidableEq I] {root parent fresh : A} {path : List I} {index : I}
  {blank entry : E} (hforest : Forest child ok below depth roots store) (hroot : root ∈ roots)
  (hdepth : path.length < depth) (hparent : walk child store root path = some parent)
  (habsent : child (store parent index) = none)
  (houtside : ¬ Node child depth roots store fresh) (hblank : child blank = none)
  (hentry : child entry = some fresh)

include hforest hroot hdepth hparent habsent houtside hblank hentry

/-- Linking a blank node adds exactly one walk. -/
theorem walk_link {root' : A} (hroot' : root' ∈ roots) {path' : List I}
    (hdepth' : path'.length ≤ depth) :
    walk child (write (fill store fresh blank) parent index entry) root' path' =
      if root' = root ∧ path' = path ++ [index] then some fresh
      else walk child store root' path' := by
  have hparentNode : Node child depth roots store parent := Node.of_walk hroot hdepth.le hparent
  have hne : fresh ≠ parent := by
    rintro rfl
    exact houtside hparentNode
  induction path' using List.reverseRecOn with
  | nil =>
      rw [if_neg (fun hsame => absurd hsame.2 (by simp))]
      rfl
  | append_singleton front slot ih =>
      have hfront : front.length ≤ depth := by
        simp only [List.length_append, List.length_singleton] at hdepth'
        omega
      rw [walk_snoc, walk_snoc, ih hfront]
      by_cases hnew : root' = root ∧ front = path ++ [index]
      · obtain ⟨rfl, rfl⟩ := hnew
        rw [if_pos ⟨rfl, rfl⟩, if_neg (fun hsame => absurd hsame.2 (by simp)), walk_snoc,
          hparent, Option.bind_some, Option.bind_some, habsent,
          write_other entry (fun hhit => hne hhit.1), fill_same, hblank]
        rfl
      · rw [if_neg hnew]
        cases hother : walk child store root' front with
        | none =>
            rw [if_neg]
            · rfl
            · rintro ⟨rfl, hsame⟩
              rw [(List.append_inj' hsame rfl).1, hparent] at hother
              cases hother
        | some other =>
            have hotherNode : Node child depth roots store other :=
              Node.of_walk hroot' hfront hother
            have hold : fill store fresh blank other slot = store other slot := by
              refine fill_other blank slot ?_
              rintro rfl
              exact houtside hotherNode
            simp only [Option.bind_some]
            by_cases hhit : other = parent ∧ slot = index
            · obtain ⟨rfl, rfl⟩ := hhit
              obtain ⟨rfl, rfl⟩ := hforest.unique hroot' hroot hfront hdepth.le hother hparent
              rw [if_pos ⟨rfl, rfl⟩, write_same, hentry]
            · rw [write_other entry hhit, hold, if_neg]
              rintro ⟨rfl, hsame⟩
              obtain ⟨rfl, hslot⟩ := List.append_inj' hsame rfl
              rw [hparent] at hother
              exact hhit ⟨(Option.some.inj hother).symm, List.singleton_inj.mp hslot⟩

theorem node_link_iff (node : A) :
    Node child depth roots (write (fill store fresh blank) parent index entry) node ↔
      node = fresh ∨ Node child depth roots store node := by
  have hlink {root' : A} (hroot' : root' ∈ roots) {path' : List I}
      (hdepth' : path'.length ≤ depth) :=
    walk_link hforest hroot hdepth hparent habsent houtside hblank hentry hroot' hdepth'
  constructor
  · rintro ⟨root', hroot', path', hdepth', hwalk⟩
    rw [hlink hroot' hdepth'] at hwalk
    split at hwalk
    · exact Or.inl (Option.some.inj hwalk).symm
    · exact Or.inr (Node.of_walk hroot' hdepth' hwalk)
  · rintro (rfl | ⟨root', hroot', path', hdepth', hwalk⟩)
    · have hlength : (path ++ [index]).length ≤ depth := by
        simp only [List.length_append, List.length_singleton]
        omega
      exact ⟨root, hroot, path ++ [index], hlength, by rw [hlink hroot hlength, if_pos ⟨rfl, rfl⟩]⟩
    · refine ⟨root', hroot', path', hdepth', ?_⟩
      rw [hlink hroot' hdepth', if_neg]
      · exact hwalk
      · rintro ⟨rfl, rfl⟩
        rw [walk_snoc, hparent, Option.bind_some, habsent] at hwalk
        cases hwalk

theorem Forest.link (hokBlank : ok blank) (hok : ok entry)
    (hup : ∀ front slot above, path = front ++ [slot] →
      walk child store root front = some above → below entry (store above slot)) :
    Forest child ok below depth roots
      (write (fill store fresh blank) parent index entry) := by
  have hlink {root' : A} (hroot' : root' ∈ roots) {path' : List I}
      (hdepth' : path'.length ≤ depth) :=
    walk_link hforest hroot hdepth hparent habsent houtside hblank hentry hroot' hdepth'
  have hne : fresh ≠ parent := by
    rintro rfl
    exact houtside (Node.of_walk hroot hdepth.le hparent)
  have hold {node : A} (hnode : Node child depth roots store node) (slot : I)
      (hhit : ¬ (node = parent ∧ slot = index)) :
      write (fill store fresh blank) parent index entry node slot = store node slot := by
    rw [write_other entry hhit, fill_other blank slot]
    rintro rfl
    exact houtside hnode
  have hfreshEntry (slot : I) :
      write (fill store fresh blank) parent index entry fresh slot = blank := by
    rw [write_other entry (fun hhit => hne hhit.1), fill_same]
  constructor
  · intro root₁ root₂ path₁ path₂ node hroot₁ hroot₂ hdepth₁ hdepth₂ hwalk₁ hwalk₂
    rw [hlink hroot₁ hdepth₁] at hwalk₁
    rw [hlink hroot₂ hdepth₂] at hwalk₂
    split at hwalk₁ <;> split at hwalk₂
    next hnew₁ hnew₂ => exact ⟨hnew₁.1.trans hnew₂.1.symm, hnew₁.2.trans hnew₂.2.symm⟩
    next =>
      cases hwalk₁
      exact absurd (Node.of_walk hroot₂ hdepth₂ hwalk₂) houtside
    next =>
      cases hwalk₂
      exact absurd (Node.of_walk hroot₁ hdepth₁ hwalk₁) houtside
    next => exact hforest.unique hroot₁ hroot₂ hdepth₁ hdepth₂ hwalk₁ hwalk₂
  · intro node hnode slot
    rw [node_link_iff hforest hroot hdepth hparent habsent houtside hblank hentry] at hnode
    rcases hnode with rfl | hnode
    · rwa [hfreshEntry]
    · by_cases hhit : node = parent ∧ slot = index
      · obtain ⟨rfl, rfl⟩ := hhit
        rwa [write_same]
      · rw [hold hnode slot hhit]
        exact hforest.entries hnode slot
  · intro root' path' node next slot deeper hroot' hdepth' hwalk hnext hdeeper
    rw [hlink hroot' hdepth'.le] at hwalk
    split at hwalk
    next =>
      cases hwalk
      rw [hfreshEntry, hblank] at hnext
      cases hnext
    next =>
      have hnode := Node.of_walk hroot' hdepth'.le hwalk
      by_cases hhit : node = parent ∧ slot = index
      · obtain ⟨rfl, rfl⟩ := hhit
        rw [write_same, hentry] at hnext
        cases hnext
        rw [hfreshEntry, hblank] at hdeeper
        cases hdeeper
      · rw [hold hnode slot hhit] at hnext ⊢
        have hnextWalk := walk_extend hwalk hnext
        have hnextDepth : (path' ++ [slot]).length ≤ depth := by
          simp only [List.length_append, List.length_singleton]
          omega
        have hnextNode := Node.of_walk hroot' hnextDepth hnextWalk
        by_cases hchild : next = parent ∧ deeper = index
        · obtain ⟨rfl, rfl⟩ := hchild
          obtain ⟨rfl, hpath⟩ :=
            hforest.unique hroot' hroot hnextDepth hdepth.le hnextWalk hparent
          rw [write_same]
          exact hup path' slot node hpath.symm hwalk
        · rw [hold hnextNode deeper hchild] at hdeeper ⊢
          exact hforest.chained hroot' hdepth' hwalk hnext hdeeper

/-- The new node is blank, so no lookup at the last level sees it. -/
theorem lookup_link {root' : A} (hroot' : root' ∈ roots) {path' : List I}
    (hdepth' : path'.length = depth) (slot : I) :
    lookup child (write (fill store fresh blank) parent index entry) root' path' slot =
      lookup child store root' path' slot := by
  have hne : fresh ≠ parent := by
    rintro rfl
    exact houtside (Node.of_walk hroot hdepth.le hparent)
  rw [lookup, walk_link hforest hroot hdepth hparent habsent houtside hblank hentry hroot'
    hdepth'.le, lookup]
  split
  next hnew =>
    obtain ⟨rfl, rfl⟩ := hnew
    rw [walk_snoc, hparent, Option.bind_some, Option.bind_some, habsent,
      write_other entry (fun hhit => hne hhit.1), fill_same, hblank]
    rfl
  next hold =>
    cases hother : walk child store root' path' with
    | none => rfl
    | some other =>
        have hentryOld : write (fill store fresh blank) parent index entry other slot =
            store other slot := by
          rw [write_other, fill_other]
          · rintro rfl
            exact houtside (Node.of_walk hroot' hdepth'.le hother)
          · rintro ⟨rfl, rfl⟩
            have hpath := (hforest.unique hroot' hroot hdepth'.le hdepth.le hother hparent).2
            rw [hpath] at hdepth'
            omega
        simp only [Option.bind_some, hentryOld]

end Link

end UnboundOS.RadixForest
