import UnboundOS.Objects.ObjectTable

/-!
Object lifetimes over whole runs of the object table. As long as no slot has
gone through all its generations, the table is a reference-counted registry of
capacity 64 that never issues a handle twice.
-/

namespace UnboundOS.Objects.ObjectTable

theorem create_cases (self : ObjectTable) (objectType : ObjectType) :
    (∃ index, (self.slots index).occupied = false ∧ self.create objectType =
      (some (self.handleAt index), self.set index ((self.slots index).occupy objectType))) ∨
    ((∀ index, (self.slots index).occupied = true) ∧ self.create objectType = (none, self)) := by
  unfold create
  cases hscan : firstFit (fun index => (self.slots index).isFree) with
  | some index =>
      have hfree : (!(self.slots index).occupied) = true := firstFit_sat hscan
      exact Or.inl ⟨index, by simpa using hfree, rfl⟩
  | none =>
      have hnone (index : Fin maxKernelObjects) : (!(self.slots index).occupied) = false :=
        firstFit_eq_none.mp hscan index
      exact Or.inr ⟨fun index => by simpa using hnone index, rfl⟩

theorem retain_cases (self : ObjectTable) (handle : ObjectHandle) :
    (self.entry handle = none ∧ self.retain handle = (false, self)) ∨
    ∃ index held, handle = self.handleAt index ∧ (self.slots index).record = some held ∧
      self.entry handle = some (view held) ∧
      ((held.references = BitVec.allOnes 32 ∧ self.retain handle = (false, self)) ∨
        ∃ hmax : held.references ≠ BitVec.allOnes 32, self.retain handle =
          (true, self.set index ((self.slots index).setReferences (held.references + 1#32)
            (references_succ_ne_zero hmax)))) := by
  rcases self.lookup_cases handle with ⟨hlookup, hentry⟩ |
    ⟨index, held, hlookup, hhandle, hrecord, hentry⟩
  · exact Or.inl ⟨hentry, by simp only [retain, hlookup]⟩
  · refine Or.inr ⟨index, held, hhandle, hrecord, hentry, ?_⟩
    by_cases hmax : held.references = BitVec.allOnes 32
    · exact Or.inl ⟨hmax, by simp only [retain, hlookup, hrecord, dif_pos hmax]⟩
    · exact Or.inr ⟨hmax, by simp only [retain, hlookup, hrecord, dif_neg hmax]⟩

theorem release_cases (self : ObjectTable) (handle : ObjectHandle) :
    (self.entry handle = none ∧ self.release handle = (false, self)) ∨
    ∃ index held, handle = self.handleAt index ∧ (self.slots index).record = some held ∧
      self.entry handle = some (view held) ∧
      ((held.references - 1#32 = 0#32 ∧
          self.release handle = (true, self.set index (self.slots index).clear)) ∨
        ∃ hlast : held.references - 1#32 ≠ 0#32, self.release handle =
          (true,
            self.set index ((self.slots index).setReferences (held.references - 1#32) hlast))) := by
  rcases self.lookup_cases handle with ⟨hlookup, hentry⟩ |
    ⟨index, held, hlookup, hhandle, hrecord, hentry⟩
  · exact Or.inl ⟨hentry, by simp only [release, hlookup]⟩
  · have hzero : held.references ≠ 0#32 := (self.slots index).references_ne_zero held hrecord
    refine Or.inr ⟨index, held, hhandle, hrecord, hentry, ?_⟩
    by_cases hlast : held.references - 1#32 = 0#32
    · exact Or.inl ⟨hlast, by simp only [release, hlookup, hrecord, if_neg hzero, dif_pos hlast]⟩
    · exact Or.inr ⟨hlast, by simp only [release, hlookup, hrecord, if_neg hzero, dif_neg hlast]⟩

theorem destroy_cases (self : ObjectTable) (handle : ObjectHandle) :
    (self.entry handle = none ∧ self.destroy handle = (false, self)) ∨
    ∃ index, handle = self.handleAt index ∧ (self.slots index).occupied = true ∧
      (self.entry handle).isSome ∧
      self.destroy handle = (true, self.set index (self.slots index).clear) := by
  rcases self.lookup_cases handle with ⟨hlookup, hentry⟩ |
    ⟨index, held, hlookup, hhandle, hrecord, hentry⟩
  · exact Or.inl ⟨hentry, by simp only [destroy, hlookup]⟩
  · exact Or.inr ⟨index, hhandle, ObjectSlot.occupied_of_record hrecord, by rw [hentry]; rfl,
      by simp only [destroy, hlookup]⟩

/-- All a call can do to the table: nothing, or one write that follows the
discipline of slot tags. -/
theorem step_writes (self : ObjectTable) (op : Registry.Op ObjectHandle ObjectType) :
    (self.step op).2 = self ∨
    ∃ index slot, (self.step op).2 = self.set index slot ∧
      SlotTag.Step (self.tags index) slot.tag := by
  cases op with
  | create objectType =>
      rcases self.create_cases objectType with ⟨index, _, hcreate⟩ | ⟨_, hcreate⟩
      · exact Or.inr ⟨index, (self.slots index).occupy objectType, by rw [step, hcreate],
          .keep rfl (fun _ => rfl)⟩
      · exact Or.inl (by rw [step, hcreate])
  | isValid handle => exact Or.inl rfl
  | getType handle => exact Or.inl rfl
  | retain handle =>
      rcases self.retain_cases handle with ⟨_, hretain⟩ |
        ⟨index, held, _, _, _, ⟨_, hretain⟩ | ⟨hmax, hretain⟩⟩
      · exact Or.inl (by rw [step, hretain])
      · exact Or.inl (by rw [step, hretain])
      · exact Or.inr ⟨index, (self.slots index).setReferences (held.references + 1#32)
          (references_succ_ne_zero hmax), by rw [step, hretain], .keep rfl id⟩
  | release handle =>
      rcases self.release_cases handle with ⟨_, hrelease⟩ |
        ⟨index, held, _, hrecord, _, ⟨_, hrelease⟩ | ⟨hlast, hrelease⟩⟩
      · exact Or.inl (by rw [step, hrelease])
      · exact Or.inr ⟨index, _, by rw [step, hrelease],
          .clear (ObjectSlot.occupied_of_record hrecord) rfl rfl⟩
      · exact Or.inr ⟨index, (self.slots index).setReferences (held.references - 1#32) hlast,
          by rw [step, hrelease], .keep rfl id⟩
  | destroy handle =>
      rcases self.destroy_cases handle with ⟨_, hdestroy⟩ | ⟨index, _, hoccupied, _, hdestroy⟩
      · exact Or.inl (by rw [step, hdestroy])
      · exact Or.inr ⟨index, _, by rw [step, hdestroy], .clear hoccupied rfl rfl⟩
  | count => exact Or.inl rfl

theorem tags_step (self : ObjectTable) (op : Registry.Op ObjectHandle ObjectType)
    (slot : Fin maxKernelObjects) :
    SlotTag.Step (self.tags slot) ((self.step op).2.tags slot) := by
  refine SlotTag.Step.of_write ?_ slot
  rcases self.step_writes op with hsame | ⟨index, written, hwrite, htag⟩
  · exact Or.inl (congrArg slots hsame)
  · exact Or.inr ⟨index, written, congrArg slots hwrite, htag⟩

/-- The number of live handles is the number of occupied slots. -/
theorem card_live {self : ObjectTable} {registry : Registry ObjectHandle ObjectType}
    (hentry : registry.entry = self.entry) : registry.live.card = self.count := by
  have hlive : registry.live =
      (Finset.univ.filter (fun index => (self.slots index).occupied = true)).image
        self.handleAt := by
    ext handle
    rw [Registry.mem_live, hentry, Option.isSome_iff_exists, Finset.mem_image]
    constructor
    · rintro ⟨value, hvalue⟩
      obtain ⟨index, held, hrecord, hhandle, _⟩ := entry_eq_some.mp hvalue
      have hoccupied := ObjectSlot.occupied_of_record hrecord
      exact ⟨index, Finset.mem_filter.mpr ⟨Finset.mem_univ _, hoccupied⟩, hhandle.symm⟩
    · rintro ⟨index, hmem, rfl⟩
      obtain ⟨held, hrecord⟩ :=
        ObjectSlot.record_of_occupied (Finset.mem_filter.mp hmem).2
      exact ⟨view held, entry_eq_some.mpr ⟨index, held, hrecord, rfl, rfl⟩⟩
  rw [hlive, Finset.card_image_of_injective _ self.handleAt_injective, count]

theorem count_lt_of_free {self : ObjectTable} {index : Fin maxKernelObjects}
    (hfree : (self.slots index).occupied = false) : self.count < maxKernelObjects := by
  have hproper : Finset.univ.filter (fun index => (self.slots index).occupied = true) ⊂
      Finset.univ := by
    refine Finset.filter_ssubset.mpr ⟨index, Finset.mem_univ _, ?_⟩
    rw [hfree]
    decide
  have hcard := Finset.card_lt_card hproper
  rwa [Finset.card_univ, Fintype.card_fin] at hcard

theorem count_of_full {self : ObjectTable} (hfull : ∀ index, (self.slots index).occupied = true) :
    self.count = maxKernelObjects := by
  rw [count, Finset.filter_true_of_mem (fun index _ => hfull index), Finset.card_univ,
    Fintype.card_fin]

theorem isValid_eq (self : ObjectTable) (handle : ObjectHandle) :
    self.isValid handle = (self.entry handle).isSome := by
  rcases self.lookup_cases handle with ⟨hlookup, hentry⟩ | ⟨_, _, hlookup, _, _, hentry⟩
  · rw [isValid, hlookup, hentry]
    rfl
  · rw [isValid, hlookup, hentry]
    rfl

theorem getType_eq (self : ObjectTable) (handle : ObjectHandle) :
    self.getType handle = (self.entry handle).map Prod.fst := by
  rcases self.lookup_cases handle with ⟨hlookup, hentry⟩ | ⟨_, _, hlookup, _, hrecord, hentry⟩
  · rw [getType, hlookup, hentry]
    rfl
  · rw [getType, hlookup, hentry]
    simp only [hrecord, Option.map_some, view]

theorem entry_occupy (self : ObjectTable) (index : Fin maxKernelObjects)
    (objectType : ObjectType) :
    (self.set index ((self.slots index).occupy objectType)).entry =
      Function.update self.entry (self.handleAt index) (some (objectType, 1)) :=
  self.entry_set index fun _ => rfl

theorem entry_setReferences (self : ObjectTable) (index : Fin maxKernelObjects)
    {references : U32} (hreferences : references ≠ 0#32) {held : ObjectRecord}
    (hrecord : (self.slots index).record = some held) :
    (self.set index ((self.slots index).setReferences references hreferences)).entry =
      Function.update self.entry (self.handleAt index)
        (some (held.objectType, references.toNat)) := by
  have hwritten : ((self.slots index).setReferences references hreferences).record =
      some ⟨held.objectType, references⟩ := by
    simp only [ObjectSlot.setReferences, hrecord, Option.map_some]
  have hkeep : ((self.slots index).setReferences references hreferences).generation =
      (self.slots index).generation := rfl
  rw [self.entry_set index (fun _ => hkeep), hwritten]
  rfl

theorem entry_clear (self : ObjectTable) (index : Fin maxKernelObjects) :
    (self.set index (self.slots index).clear).entry =
      Function.update self.entry (self.handleAt index) none :=
  self.entry_set index fun hoccupied => absurd hoccupied Bool.false_ne_true

/-- `u32::MAX`. -/
def maxReferences : Nat := 2 ^ 32 - 1

/-- A count that is not saturated goes up by one. -/
theorem references_succ {references : U32} (hmax : references ≠ BitVec.allOnes 32) :
    references.toNat < maxReferences ∧ (references + 1#32).toNat = references.toNat + 1 := by
  have hlt := references.isLt
  have hne : references.toNat ≠ 2 ^ 32 - 1 := fun heq =>
    hmax (BitVec.eq_of_toNat_eq (heq.trans BitVec.toNat_allOnes.symm))
  have hlimit : references.toNat < maxReferences := by
    unfold maxReferences
    omega
  refine ⟨hlimit, ?_⟩
  rw [BitVec.toNat_add]
  exact Nat.mod_eq_of_lt (by change _ + 1 < _; omega)

/-- A count that stays above zero goes down by one. -/
theorem references_pred {references : U32} (hzero : references ≠ 0#32)
    (hlast : references - 1#32 ≠ 0#32) :
    1 ≤ (references - 1#32).toNat ∧ references.toNat = (references - 1#32).toNat + 1 := by
  refine ⟨?_, by bv_omega⟩
  exact Nat.one_le_iff_ne_zero.mpr fun heq => hlast (BitVec.eq_of_toNat_eq heq)

/-- One call is one step of the registry, as long as the handles of free slots
have not been issued yet. -/
theorem step_refines {self : ObjectTable} {registry : Registry ObjectHandle ObjectType}
    (hentry : registry.entry = self.entry)
    (hfresh : ∀ index, (self.slots index).occupied = false →
      self.handleAt index ∉ registry.issued)
    (op : Registry.Op ObjectHandle ObjectType) :
    ∃ next, Registry.Step maxKernelObjects maxReferences registry (self.step op).1 next ∧
      next.entry = (self.step op).2.entry := by
  cases op with
  | create objectType =>
      rcases self.create_cases objectType with ⟨index, hfree, hcreate⟩ | ⟨hfull, hcreate⟩
      · rw [step, hcreate]
        refine ⟨_, .create ?_ (hfresh index hfree), ?_⟩
        · rw [card_live hentry]
          exact count_lt_of_free hfree
        · rw [entry_occupy, ← hentry]
          rfl
      · rw [step, hcreate]
        exact ⟨registry, .createFull ((card_live hentry).trans (count_of_full hfull)), hentry⟩
  | isValid handle =>
      have hvalid : self.isValid handle = (registry.entry handle).isSome := by
        rw [isValid_eq, hentry]
      rw [step, hvalid]
      exact ⟨registry, .valid, hentry⟩
  | getType handle =>
      have htype : self.getType handle = (registry.entry handle).map Prod.fst := by
        rw [getType_eq, hentry]
      rw [step, htype]
      exact ⟨registry, .typed, hentry⟩
  | retain handle =>
      rcases self.retain_cases handle with ⟨hdead, hretain⟩ |
        ⟨index, held, rfl, hrecord, hlive, ⟨hmax, hretain⟩ | ⟨hmax, hretain⟩⟩
      · rw [step, hretain]
        exact ⟨registry, .retainDead (hentry ▸ hdead), hentry⟩
      · rw [step, hretain]
        rw [← hentry, view, hmax] at hlive
        exact ⟨registry, .retainSaturated hlive, hentry⟩
      · rw [step, hretain]
        rw [← hentry] at hlive
        obtain ⟨hlimit, hsucc⟩ := references_succ hmax
        refine ⟨_, .retain hlive hlimit, ?_⟩
        rw [entry_setReferences self index _ hrecord, hsucc, ← hentry]
        rfl
  | release handle =>
      rcases self.release_cases handle with ⟨hdead, hrelease⟩ |
        ⟨index, held, rfl, hrecord, hlive, ⟨hlast, hrelease⟩ | ⟨hlast, hrelease⟩⟩
      · rw [step, hrelease]
        exact ⟨registry, .releaseDead (hentry ▸ hdead), hentry⟩
      · rw [step, hrelease]
        have hone : held.references.toNat = 1 := by bv_omega
        rw [← hentry, view, hone] at hlive
        refine ⟨_, .releaseLast hlive, ?_⟩
        rw [entry_clear, ← hentry]
        rfl
      · rw [step, hrelease]
        have hzero : held.references ≠ 0#32 := (self.slots index).references_ne_zero held hrecord
        obtain ⟨hmore, hpred⟩ := references_pred hzero hlast
        rw [← hentry, view, hpred] at hlive
        refine ⟨_, .release hlive hmore, ?_⟩
        rw [entry_setReferences self index hlast hrecord, ← hentry]
        rfl
  | destroy handle =>
      rcases self.destroy_cases handle with ⟨hdead, hdestroy⟩ | ⟨index, rfl, _, hlive, hdestroy⟩
      · rw [step, hdestroy]
        exact ⟨registry, .destroyDead (hentry ▸ hdead), hentry⟩
      · rw [step, hdestroy]
        refine ⟨_, .destroy (hentry ▸ hlive), ?_⟩
        rw [entry_clear, ← hentry]
        rfl
  | count =>
      rw [step, ← card_live hentry]
      exact ⟨registry, .count, hentry⟩

/-- The table means the registry, and the handles issued so far come from
clear counts up to the present ones. -/
structure Follows (table : ObjectTable) (registry : Registry ObjectHandle ObjectType)
    (cleared : Fin maxKernelObjects → Nat) : Prop where
  entry_eq : registry.entry = table.entry
  generation_eq : ∀ index, (table.tags index).generation = nextGeneration^[cleared index] 1#32
  issued : ∀ handle ∈ registry.issued, Issued table.tags cleared handle.raw

theorem new_follows : new.Follows Registry.empty (fun _ => 0) where
  entry_eq := by
    funext handle
    rcases new.lookup_cases handle with ⟨_, hentry⟩ | ⟨_, _, _, _, hrecord, _⟩
    · exact hentry.symm
    · cases hrecord
  generation_eq := fun _ => rfl
  issued := fun handle hmem => absurd hmem (Finset.notMem_empty handle)

/-- A call issues the handle of the slot it occupies. -/
theorem step_issues {self : ObjectTable} {op : Registry.Op ObjectHandle ObjectType}
    {handle : ObjectHandle} (hissues : (self.step op).1.issues = some handle) :
    ∃ index, handle = self.handleAt index ∧ (self.slots index).occupied = false ∧
      ((self.step op).2.slots index).occupied = true := by
  cases op with
  | create objectType =>
      rcases self.create_cases objectType with ⟨index, hfree, hcreate⟩ | ⟨_, hcreate⟩
      · rw [step, hcreate] at hissues ⊢
        refine ⟨index, (Option.some.inj hissues).symm, hfree, ?_⟩
        rw [set_slots_self]
        rfl
      · rw [step, hcreate] at hissues
        cases hissues
  | isValid handle => cases hissues
  | getType handle => cases hissues
  | retain handle => cases hissues
  | release handle => cases hissues
  | destroy handle => cases hissues
  | count => cases hissues

theorem step_follows {self : ObjectTable} {registry : Registry ObjectHandle ObjectType}
    {cleared : Fin maxKernelObjects → Nat} (hself : self.Follows registry cleared)
    (hcleared : ∀ index, cleared index < generationPeriod)
    (op : Registry.Op ObjectHandle ObjectType) :
    ∃ next, Registry.Step maxKernelObjects maxReferences registry (self.step op).1 next ∧
      (self.step op).2.Follows next (fun index =>
        cleared index + (self.tags index).vacated ((self.step op).2.tags index)) := by
  have hfresh : ∀ index, (self.slots index).occupied = false →
      self.handleAt index ∉ registry.issued := by
    intro index hfree hmem
    exact (hself.issued _ hmem).ne_of_free maxKernelObjects_le (hself.generation_eq index) hfree
      (hcleared index) rfl
  obtain ⟨next, hstep, hentry⟩ := step_refines hself.entry_eq hfresh op
  refine ⟨next, hstep, hentry, fun index => ?_, fun handle hmem => ?_⟩
  · rw [(self.tags_step op index).generation_eq, hself.generation_eq, ← Function.iterate_add_apply,
      Nat.add_comm]
  · rw [hstep.issued_eq, Finset.mem_union] at hmem
    rcases hmem with hold | hnew
    · exact (hself.issued handle hold).step _
    · obtain ⟨index, rfl, hfree, hoccupied⟩ := step_issues (Option.mem_toFinset.mp hnew)
      refine ⟨index, cleared index, ?_, Or.inr ⟨?_, hoccupied⟩⟩
      · rw [← hself.generation_eq]
        rfl
      · have hnone : (self.tags index).vacated ((self.step op).2.tags index) = 0 := by
          have htag : (self.tags index).occupied = false := hfree
          rw [SlotTag.vacated, htag]
          rfl
        simp only [hnone, Nat.add_zero]

theorem run_follows {self : ObjectTable} {registry : Registry ObjectHandle ObjectType}
    {cleared : Fin maxKernelObjects → Nat} (hself : self.Follows registry cleared)
    (ops : List (Registry.Op ObjectHandle ObjectType))
    (hcleared : ∀ index, cleared index + clearsOf tags step index self ops < generationPeriod) :
    ∃ final, Registry.Run maxKernelObjects maxReferences registry (runAll step self ops).1 final ∧
      (runAll step self ops).2.Follows final
        (fun index => cleared index + clearsOf tags step index self ops) := by
  induction ops generalizing self registry cleared with
  | nil => exact ⟨registry, .nil, hself⟩
  | cons op rest ih =>
      obtain ⟨next, hstep, hnext⟩ := step_follows hself (fun index => by
        have hindex := hcleared index
        omega) op
      have hrest : ∀ index,
          cleared index + (self.tags index).vacated ((self.step op).2.tags index) +
          clearsOf tags step index (self.step op).2 rest < generationPeriod := by
        intro index
        have hindex := hcleared index
        rw [clearsOf] at hindex
        omega
      obtain ⟨final, hrun, hfinal⟩ := ih hnext hrest
      refine ⟨final, .cons hstep hrun, ?_⟩
      simp only [clearsOf, ← Nat.add_assoc]
      exact hfinal

/-- A call that reports `None` or `false` changes nothing. -/
theorem step_failed {self : ObjectTable} {op : Registry.Op ObjectHandle ObjectType}
    (hfailed : (self.step op).1.failed = true) : (self.step op).2 = self := by
  cases op with
  | create objectType =>
      rcases self.create_cases objectType with ⟨_, _, hcreate⟩ | ⟨_, hcreate⟩
      · rw [step, hcreate] at hfailed
        cases hfailed
      · rw [step, hcreate]
  | isValid handle => rfl
  | getType handle => rfl
  | retain handle =>
      rcases self.retain_cases handle with ⟨_, hretain⟩ |
        ⟨_, _, _, _, _, ⟨_, hretain⟩ | ⟨_, hretain⟩⟩
      · rw [step, hretain]
      · rw [step, hretain]
      · rw [step, hretain] at hfailed
        cases hfailed
  | release handle =>
      rcases self.release_cases handle with ⟨_, hrelease⟩ |
        ⟨_, _, _, _, _, ⟨_, hrelease⟩ | ⟨_, hrelease⟩⟩
      · rw [step, hrelease]
      · rw [step, hrelease] at hfailed
        cases hfailed
      · rw [step, hrelease] at hfailed
        cases hfailed
  | destroy handle =>
      rcases self.destroy_cases handle with ⟨_, hdestroy⟩ | ⟨_, _, _, _, hdestroy⟩
      · rw [step, hdestroy]
      · rw [step, hdestroy] at hfailed
        cases hfailed
  | count => rfl

/-- What the events of a run say about the table they lead to. -/
structure Accounted (events : List (Registry.Event ObjectHandle ObjectType))
    (table : ObjectTable) : Prop where
  /-- The run is one of the registry, which ends with the live handles of the table. -/
  refines : ∃ registry, Registry.Run maxKernelObjects maxReferences Registry.empty events registry ∧
    registry.entry = table.entry ∧ registry.live.card = table.count
  /-- No two creations return the same handle. -/
  issued_once : (events.filterMap Registry.Event.issues).Nodup
  /-- Kind and stored count of a live handle follow from its own events. -/
  history : ∀ handle kind count, table.entry handle = some (kind, count) →
    .created kind (some handle) ∈ events ∧ table.getType handle = some kind ∧ 1 ≤ count ∧
      count + Registry.releases handle events = 1 + Registry.retains handle events
  failed_unchanged : ∀ op, (table.step op).1.failed = true → (table.step op).2 = table
  others_unchanged : ∀ op handle, (table.step op).1.target ≠ some handle →
    (table.step op).2.entry handle = table.entry handle

/-- Every run of the table in which no slot is cleared through a whole period
of generations is a run of a reference-counted registry of capacity 64. -/
theorem object_lifetimes (ops : List (Registry.Op ObjectHandle ObjectType))
    (hcleared : ∀ index, clearsOf tags step index new ops < generationPeriod) :
    Accounted (runAll step new ops).1 (runAll step new ops).2 := by
  obtain ⟨registry, hrun, hfollows⟩ := run_follows new_follows ops (fun index => by
    rw [Nat.zero_add]
    exact hcleared index)
  simp only [Nat.zero_add] at hfollows
  refine ⟨⟨registry, hrun, hfollows.entry_eq, card_live hfollows.entry_eq⟩, hrun.issues_nodup.1,
    fun handle kind count hentry => ?_, fun op => step_failed, fun op handle hother => ?_⟩
  · have hlive : registry.entry handle = some (kind, count) := hfollows.entry_eq ▸ hentry
    obtain ⟨hcreated, hcount⟩ := hrun.account_new (Finset.notMem_empty handle) hlive
    refine ⟨hcreated, ?_, registry.positive handle kind count hlive, hcount⟩
    rw [getType_eq, hentry]
    rfl
  · obtain ⟨next, hstep, hnext⟩ := step_follows hfollows hcleared op
    rw [← hnext.entry_eq, hstep.entry_other hother, hfollows.entry_eq]

/-- A process object is shared, given up once, destroyed, and its slot reused. -/
theorem object_lifetimes_reuse :
    Accounted
      (runAll step new [.create .process, .retain ⟨0x100000000#64⟩, .release ⟨0x100000000#64⟩,
        .destroy ⟨0x100000000#64⟩, .create .file]).1
      (runAll step new [.create .process, .retain ⟨0x100000000#64⟩, .release ⟨0x100000000#64⟩,
        .destroy ⟨0x100000000#64⟩, .create .file]).2 :=
  object_lifetimes _ fun index =>
    (clearsOf_le_length index new _).trans_lt (by unfold generationPeriod; decide)

end UnboundOS.Objects.ObjectTable
