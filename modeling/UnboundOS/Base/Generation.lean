import UnboundOS.Base.Run

/-!
Generational handles. A table slot carries a tag: whether it is occupied, and
a generation that moves on each time the slot is cleared. A handle packs a
slot index and the generation it was issued under, and is accepted as long as
the slot is occupied under that generation. Generations are 32-bit and skip
zero, so they come round after `2 ^ 32 - 1` clears; the results here say
exactly what that means for a handle along a run of any table with such tags.
-/

namespace UnboundOS

/-- Generation in the upper half, index in the lower half. -/
def packHandle (index : Nat) (generation : U32) : U64 :=
  (generation.setWidth 64 <<< 32) ||| BitVec.ofNat 64 index

def handleIndex (raw : U64) : Nat :=
  (raw.setWidth 32).toNat

def handleGeneration (raw : U64) : U32 :=
  (raw >>> 32).setWidth 32

theorem packHandle_toNat {index : Nat} (hindex : index < 2 ^ 32) (generation : U32) :
    (packHandle index generation).toNat = generation.toNat * 2 ^ 32 + index := by
  have hgeneration := generation.isLt
  have hshift : (generation.setWidth 64 <<< 32).toNat = generation.toNat <<< 32 := by
    rw [BitVec.toNat_shiftLeft, BitVec.toNat_setWidth, Nat.shiftLeft_eq,
      Nat.mod_eq_of_lt (by omega : generation.toNat < 2 ^ 64), Nat.mod_eq_of_lt (by omega),
      Nat.shiftLeft_eq]
  rw [packHandle, BitVec.toNat_or, hshift, BitVec.toNat_ofNat,
    Nat.mod_eq_of_lt (by omega : index < 2 ^ 64), ← Nat.shiftLeft_add_eq_or_of_lt hindex,
    Nat.shiftLeft_eq]

theorem handleIndex_toNat (raw : U64) : handleIndex raw = raw.toNat % 2 ^ 32 :=
  BitVec.toNat_setWidth 32 raw

theorem handleGeneration_toNat (raw : U64) :
    (handleGeneration raw).toNat = raw.toNat / 2 ^ 32 := by
  have hlt := raw.isLt
  rw [handleGeneration, BitVec.toNat_setWidth, BitVec.toNat_ushiftRight,
    Nat.shiftRight_eq_div_pow]
  omega

theorem handleIndex_pack {index : Nat} (hindex : index < 2 ^ 32) (generation : U32) :
    handleIndex (packHandle index generation) = index := by
  rw [handleIndex_toNat, packHandle_toNat hindex]
  omega

theorem handleGeneration_pack {index : Nat} (hindex : index < 2 ^ 32) (generation : U32) :
    handleGeneration (packHandle index generation) = generation := by
  apply BitVec.eq_of_toNat_eq
  rw [handleGeneration_toNat, packHandle_toNat hindex]
  omega

/-- A handle is its two halves. -/
theorem packHandle_parts (raw : U64) :
    packHandle (handleIndex raw) (handleGeneration raw) = raw := by
  have hindex : handleIndex raw < 2 ^ 32 := (raw.setWidth 32).isLt
  apply BitVec.eq_of_toNat_eq
  rw [packHandle_toNat hindex, handleGeneration_toNat, handleIndex_toNat]
  omega

theorem packHandle_inj {i j : Nat} (hi : i < 2 ^ 32) (hj : j < 2 ^ 32) {g k : U32}
    (hsame : packHandle i g = packHandle j k) : i = j ∧ g = k := by
  constructor
  · rw [← handleIndex_pack hi g, hsame, handleIndex_pack hj]
  · rw [← handleGeneration_pack hi g, hsame, handleGeneration_pack hj]

/-- `generation.wrapping_add(1)`, except that zero is skipped. -/
def nextGeneration (generation : U32) : U32 :=
  if generation + 1#32 = 0#32 then 1#32 else generation + 1#32

/-- Slots start with generation one. -/
theorem firstGeneration_ne_zero : 1#32 ≠ 0#32 := by decide

theorem nextGeneration_ne_zero (generation : U32) : nextGeneration generation ≠ 0#32 := by
  unfold nextGeneration
  split
  · exact firstGeneration_ne_zero
  · assumption

/-- How many clears bring a generation back. -/
def generationPeriod : Nat := 2 ^ 32 - 1

theorem nextGeneration_toNat {generation : U32} (hgeneration : generation ≠ 0#32) :
    (nextGeneration generation).toNat = generation.toNat % generationPeriod + 1 := by
  have hpos : generation.toNat ≠ 0 := fun hzero => hgeneration (BitVec.eq_of_toNat_eq hzero)
  have hlt := generation.isLt
  unfold nextGeneration generationPeriod
  split
  · rename_i hwrap
    have hmax : generation.toNat = 2 ^ 32 - 1 := by bv_omega
    rw [hmax, Nat.mod_self]
    rfl
  · rename_i hstay
    have hless : generation.toNat < 2 ^ 32 - 1 := by
      by_contra hmax
      exact hstay (BitVec.eq_of_toNat_eq (by rw [BitVec.toNat_add]; change (_ + 1) % _ = 0; omega))
    rw [Nat.mod_eq_of_lt hless, BitVec.toNat_add]
    change (_ + 1) % _ = _
    omega

theorem nextGeneration_iterate_ne_zero {generation : U32} (hgeneration : generation ≠ 0#32)
    (clears : Nat) : nextGeneration^[clears] generation ≠ 0#32 := by
  cases clears with
  | zero => exact hgeneration
  | succ clears =>
      rw [Function.iterate_succ_apply']
      exact nextGeneration_ne_zero _

/-- Generations count the clears modulo their period. -/
theorem nextGeneration_iterate_toNat {generation : U32} (hgeneration : generation ≠ 0#32)
    (clears : Nat) :
    (nextGeneration^[clears] generation).toNat =
      (generation.toNat - 1 + clears) % generationPeriod + 1 := by
  have hpos : generation.toNat ≠ 0 := fun hzero => hgeneration (BitVec.eq_of_toNat_eq hzero)
  have hlt := generation.isLt
  induction clears with
  | zero =>
      have hless : generation.toNat - 1 < generationPeriod := by unfold generationPeriod; omega
      have hmod : (generation.toNat - 1 + 0) % generationPeriod = generation.toNat - 1 :=
        Nat.mod_eq_of_lt hless
      rw [Function.iterate_zero_apply, hmod]
      omega
  | succ clears ih =>
      rw [Function.iterate_succ_apply',
        nextGeneration_toNat (nextGeneration_iterate_ne_zero hgeneration clears), ih,
        Nat.mod_add_mod, Nat.add_assoc]

/-- Two clear counts give the same generation exactly if they differ by a
multiple of the period. -/
theorem nextGeneration_iterate_eq_iff {generation : U32} (hgeneration : generation ≠ 0#32)
    {fewer more : Nat} (hle : fewer ≤ more) :
    nextGeneration^[fewer] generation = nextGeneration^[more] generation ↔
      generationPeriod ∣ more - fewer := by
  rw [← BitVec.toNat_inj, nextGeneration_iterate_toNat hgeneration,
    nextGeneration_iterate_toNat hgeneration, Nat.add_right_cancel_iff]
  have hshift : generation.toNat - 1 + more - (generation.toNat - 1 + fewer) = more - fewer := by
    omega
  rw [← hshift]
  exact Nat.modEq_iff_dvd' (by omega)

/-- What a handle is checked against. -/
structure SlotTag where
  occupied : Bool
  generation : U32
  generation_ne_zero : generation ≠ 0#32

variable {n : Nat}

/-- The handle a slot answers to. -/
def slotHandle (tags : Fin n → SlotTag) (slot : Fin n) : U64 :=
  packHandle slot.val (tags slot).generation

/-- The check every table operation starts with: not the invalid handle, an
index inside the table, an occupied slot of the same generation. -/
def resolve (tags : Fin n → SlotTag) (raw : U64) : Option (Fin n) :=
  if raw = 0#64 then none
  else if hindex : handleIndex raw < n then
    let tag := tags ⟨handleIndex raw, hindex⟩
    if !tag.occupied || tag.generation != handleGeneration raw then none
    else some ⟨handleIndex raw, hindex⟩
  else none

section Resolve

variable (hn : n ≤ 2 ^ 32) {tags : Fin n → SlotTag}
include hn

theorem slotHandle_ne_zero (slot : Fin n) : slotHandle tags slot ≠ 0#64 := by
  intro hzero
  have hslot : slot.val < 2 ^ 32 := by omega
  have hgeneration := handleGeneration_pack hslot (tags slot).generation
  rw [← slotHandle, hzero] at hgeneration
  exact (tags slot).generation_ne_zero hgeneration.symm

theorem slotHandle_injective : Function.Injective (slotHandle tags) := by
  intro first second hsame
  exact Fin.ext (packHandle_inj (by omega) (by omega) hsame).1

/-- A handle is accepted exactly if it is the handle of an occupied slot. -/
theorem resolve_eq_some {raw : U64} {slot : Fin n} :
    resolve tags raw = some slot ↔ (tags slot).occupied = true ∧ raw = slotHandle tags slot := by
  constructor
  · intro hresolve
    unfold resolve at hresolve
    split at hresolve
    · cases hresolve
    · split at hresolve
      · dsimp only at hresolve
        split at hresolve
        · cases hresolve
        · rename_i hindex hchecks
          cases hresolve
          simp only [Bool.or_eq_true, Bool.not_eq_true', bne_iff_ne, not_or, Bool.not_eq_false,
            not_not] at hchecks
          refine ⟨hchecks.1, ?_⟩
          rw [slotHandle, hchecks.2, packHandle_parts]
      · cases hresolve
  · rintro ⟨hoccupied, rfl⟩
    have hslot : slot.val < 2 ^ 32 := by omega
    have hindex : handleIndex (slotHandle tags slot) = slot.val := handleIndex_pack hslot _
    have hgeneration : handleGeneration (slotHandle tags slot) = (tags slot).generation :=
      handleGeneration_pack hslot _
    unfold resolve
    simp [slotHandle_ne_zero hn, hindex, hgeneration, hoccupied]

theorem resolve_index {raw : U64} {slot : Fin n} (hresolve : resolve tags raw = some slot) :
    handleIndex raw = slot.val := by
  obtain ⟨_, rfl⟩ := (resolve_eq_some hn).mp hresolve
  exact handleIndex_pack (by omega) _

/-- The handle of a free slot is refused. -/
theorem resolve_slotHandle_free {slot : Fin n} (hfree : (tags slot).occupied = false) :
    resolve tags (slotHandle tags slot) = none := by
  by_contra hsome
  obtain ⟨found, hfound⟩ := Option.ne_none_iff_exists'.mp hsome
  obtain ⟨hoccupied, hsame⟩ := (resolve_eq_some hn).mp hfound
  rw [← slotHandle_injective hn hsame, hfree] at hoccupied
  cases hoccupied

end Resolve

section Meaning

variable {β : Type}

/-- What a table means to its clients, if the slots hold these values. -/
def valueOf (tags : Fin n → SlotTag) (values : Fin n → Option β) (raw : U64) : Option β :=
  (resolve tags raw).bind values

theorem valueOf_eq_some (hn : n ≤ 2 ^ 32) {tags : Fin n → SlotTag} {values : Fin n → Option β}
    {raw : U64} {value : β} :
    valueOf tags values raw = some value ↔
      ∃ slot, (tags slot).occupied = true ∧ raw = slotHandle tags slot ∧
        values slot = some value := by
  simp only [valueOf, Option.bind_eq_some_iff, resolve_eq_some hn, and_assoc]

/-- Writing a slot without reissuing its handle is one update of the meaning. -/
theorem valueOf_update (hn : n ≤ 2 ^ 32) (tags : Fin n → SlotTag) (values : Fin n → Option β)
    (slot : Fin n) {tag : SlotTag} {value : Option β}
    (hkeep : tag.occupied = true → tag.generation = (tags slot).generation)
    (hvalue : tag.occupied = false → value = none) :
    valueOf (Function.update tags slot tag) (Function.update values slot value) =
      Function.update (valueOf tags values) (slotHandle tags slot) value := by
  have hsame (hoccupied : tag.occupied = true) :
      slotHandle (Function.update tags slot tag) slot = slotHandle tags slot := by
    rw [slotHandle, Function.update_self, hkeep hoccupied, slotHandle]
  have hothers {other : Fin n} (hother : other ≠ slot) :
      slotHandle (Function.update tags slot tag) other = slotHandle tags other := by
    rw [slotHandle, Function.update_of_ne hother, slotHandle]
  funext raw
  apply Option.ext
  intro result
  rw [valueOf_eq_some hn]
  by_cases hraw : raw = slotHandle tags slot
  · rw [hraw, Function.update_self]
    constructor
    · rintro ⟨other, _, hat, hresult⟩
      by_cases hother : other = slot
      · rwa [hother, Function.update_self] at hresult
      · rw [hothers hother] at hat
        exact absurd (slotHandle_injective hn hat).symm hother
    · intro hresult
      have hoccupied : tag.occupied = true := by
        cases htag : tag.occupied with
        | true => rfl
        | false =>
            rw [hvalue htag] at hresult
            cases hresult
      refine ⟨slot, ?_, (hsame hoccupied).symm, ?_⟩
      · rwa [Function.update_self]
      · rwa [Function.update_self]
  · rw [Function.update_of_ne hraw, valueOf_eq_some hn]
    constructor
    · rintro ⟨other, hoccupied, hat, hresult⟩
      by_cases hother : other = slot
      · rw [hother, Function.update_self] at hoccupied
        rw [hother, hsame hoccupied] at hat
        exact absurd hat hraw
      · rw [Function.update_of_ne hother] at hoccupied hresult
        rw [hothers hother] at hat
        exact ⟨other, hoccupied, hat, hresult⟩
    · rintro ⟨other, hoccupied, hat, hresult⟩
      have hother : other ≠ slot := by
        rintro rfl
        exact hraw hat
      refine ⟨other, ?_, by rw [hothers hother]; exact hat, ?_⟩
      · rwa [Function.update_of_ne hother]
      · rwa [Function.update_of_ne hother]

/-- The same for a table of slots that carry tag and value, and clients that
hold the handles in a type of their own. -/
theorem valueOf_write {S H : Type} [DecidableEq H] (tag : S → SlotTag) (value : S → Option β)
    {raw : H → U64} (hn : n ≤ 2 ^ 32) (hraw : Function.Injective raw) (slots : Fin n → S)
    (index : Fin n) {handle : H} (hhandle : raw handle = slotHandle (tag ∘ slots) index) {slot : S}
    (hkeep : (tag slot).occupied = true →
      (tag slot).generation = (tag (slots index)).generation)
    (hvalue : (tag slot).occupied = false → value slot = none) :
    (fun other => valueOf (tag ∘ Function.update slots index slot)
        (value ∘ Function.update slots index slot) (raw other)) =
      Function.update (fun other => valueOf (tag ∘ slots) (value ∘ slots) (raw other)) handle
        (value slot) := by
  rw [Function.comp_update, Function.comp_update,
    valueOf_update hn (tag ∘ slots) (value ∘ slots) index hkeep hvalue, ← hhandle]
  exact Function.update_comp_eq_of_injective _ hraw handle _

end Meaning

/-- What one table operation may do to a slot's tag: keep the generation and
not vacate the slot, or vacate it and move the generation on. -/
inductive SlotTag.Step (before after : SlotTag) : Prop where
  | keep (hgeneration : after.generation = before.generation)
      (hoccupied : before.occupied = true → after.occupied = true)
  | clear (hbefore : before.occupied = true) (hafter : after.occupied = false)
      (hgeneration : after.generation = nextGeneration before.generation)

/-- A call that writes at most one slot, by that discipline, follows it at
every slot. -/
theorem SlotTag.Step.of_write {S : Type} {tag : S → SlotTag} {before after : Fin n → S}
    (hwrite : after = before ∨ ∃ index slot, after = Function.update before index slot ∧
      SlotTag.Step (tag (before index)) (tag slot)) (slot : Fin n) :
    SlotTag.Step (tag (before slot)) (tag (after slot)) := by
  rcases hwrite with rfl | ⟨index, written, rfl, hstep⟩
  · exact .keep rfl id
  · by_cases hslot : slot = index
    · rw [hslot, Function.update_self]
      exact hstep
    · rw [Function.update_of_ne hslot]
      exact .keep rfl id

/-- One if the slot was vacated. -/
def SlotTag.vacated (before after : SlotTag) : Nat :=
  if before.occupied && !after.occupied then 1 else 0

theorem SlotTag.Step.generation_eq {before after : SlotTag} (hstep : SlotTag.Step before after) :
    after.generation = nextGeneration^[before.vacated after] before.generation := by
  cases hstep with
  | keep hgeneration hoccupied =>
      cases hbefore : before.occupied with
      | false => simp [vacated, hbefore, hgeneration]
      | true => simp [vacated, hoccupied hbefore, hgeneration]
  | clear hbefore hafter hgeneration => simp [vacated, hbefore, hafter, hgeneration]

/-- The handle was issued for a slot before some clear of it, or after the last
one and the slot is still occupied; `cleared` counts the clears of each slot
since all generations were one. -/
def Issued (tags : Fin n → SlotTag) (cleared : Fin n → Nat) (raw : U64) : Prop :=
  ∃ slot earlier, raw = packHandle slot.val (nextGeneration^[earlier] 1#32) ∧
    (earlier < cleared slot ∨ earlier = cleared slot ∧ (tags slot).occupied = true)

theorem Issued.step {before : Fin n → SlotTag} {cleared : Fin n → Nat} {raw : U64}
    (hissued : Issued before cleared raw) (after : Fin n → SlotTag) :
    Issued after (fun slot => cleared slot + (before slot).vacated (after slot)) raw := by
  obtain ⟨slot, earlier, hraw, hearlier | ⟨hearlier, hoccupied⟩⟩ := hissued
  · exact ⟨slot, earlier, hraw, Or.inl (Nat.lt_add_right _ hearlier)⟩
  · refine ⟨slot, earlier, hraw, ?_⟩
    cases hafter : (after slot).occupied with
    | false =>
        refine Or.inl ?_
        simp [SlotTag.vacated, hoccupied, hafter, hearlier]
    | true =>
        refine Or.inr ⟨?_, rfl⟩
        simp [SlotTag.vacated, hafter, hearlier]

/-- Within its first period, a free slot's handle has not been issued. -/
theorem Issued.ne_of_free (hn : n ≤ 2 ^ 32) {tags : Fin n → SlotTag} {cleared : Fin n → Nat}
    {raw : U64} (hissued : Issued tags cleared raw) {slot : Fin n}
    (hgeneration : (tags slot).generation = nextGeneration^[cleared slot] 1#32)
    (hfree : (tags slot).occupied = false) (hperiod : cleared slot < generationPeriod) :
    raw ≠ slotHandle tags slot := by
  rintro rfl
  obtain ⟨issuer, earlier, hraw, hearlier⟩ := hissued
  obtain ⟨hslot, hsame⟩ := packHandle_inj (by omega) (by omega) hraw
  cases Fin.ext hslot
  have hless : earlier < cleared slot := by
    rcases hearlier with hless | ⟨_, hoccupied⟩
    · exact hless
    · rw [hfree] at hoccupied
      cases hoccupied
  rw [hgeneration] at hsame
  have hdvd := (nextGeneration_iterate_eq_iff (by decide) hless.le).mp hsame.symm
  have hle := Nat.le_of_dvd (by omega) hdvd
  omega

section Runs

variable {σ ω ε : Type} (tagsOf : σ → Fin n → SlotTag) (step : σ → ω → ε × σ)

/-- How many operations of a run vacate the slot. -/
def clearsOf (slot : Fin n) : σ → List ω → Nat
  | _, [] => 0
  | state, op :: ops =>
      (tagsOf state slot).vacated (tagsOf (step state op).2 slot) +
        clearsOf slot (step state op).2 ops

variable {tagsOf step}

theorem clearsOf_le_length (slot : Fin n) (state : σ) (ops : List ω) :
    clearsOf tagsOf step slot state ops ≤ ops.length := by
  induction ops generalizing state with
  | nil => exact le_rfl
  | cons op rest ih =>
      have hone : (tagsOf state slot).vacated (tagsOf (step state op).2 slot) ≤ 1 := by
        unfold SlotTag.vacated
        split <;> omega
      have hrest := ih (step state op).2
      rw [clearsOf, List.length_cons]
      omega

/-- The generation at the end of a run counts the clears of the run. -/
theorem generation_runAll
    (hstep : ∀ state op slot, SlotTag.Step (tagsOf state slot) (tagsOf (step state op).2 slot))
    (state : σ) (ops : List ω) (slot : Fin n) :
    (tagsOf (runAll step state ops).2 slot).generation =
      nextGeneration^[clearsOf tagsOf step slot state ops] (tagsOf state slot).generation := by
  induction ops generalizing state with
  | nil => rfl
  | cons op rest ih =>
      rw [runAll_cons, ih, (hstep state op slot).generation_eq, ← Function.iterate_add_apply,
        clearsOf, Nat.add_comm]

/-- A handle issued for a slot is accepted later in a run exactly if the slot
is occupied and has been cleared a multiple of the period since. -/
theorem resolve_runAll (hn : n ≤ 2 ^ 32)
    (hstep : ∀ state op slot, SlotTag.Step (tagsOf state slot) (tagsOf (step state op).2 slot))
    (state : σ) (ops : List ω) (slot : Fin n) :
    (resolve (tagsOf (runAll step state ops).2) (slotHandle (tagsOf state) slot)).isSome ↔
      (tagsOf (runAll step state ops).2 slot).occupied = true ∧
        generationPeriod ∣ clearsOf tagsOf step slot state ops := by
  have hgeneration := generation_runAll hstep state ops slot
  have hperiod := nextGeneration_iterate_eq_iff (tagsOf state slot).generation_ne_zero
    (Nat.zero_le (clearsOf tagsOf step slot state ops))
  rw [Nat.sub_zero, Function.iterate_zero_apply, ← hgeneration] at hperiod
  rw [Option.isSome_iff_exists, ← hperiod]
  constructor
  · rintro ⟨found, hfound⟩
    obtain ⟨hoccupied, hsame⟩ := (resolve_eq_some hn).mp hfound
    obtain ⟨hslot, hmatch⟩ := packHandle_inj (by omega) (by omega) hsame
    cases Fin.ext hslot
    exact ⟨hoccupied, hmatch⟩
  · rintro ⟨hoccupied, hmatch⟩
    exact ⟨slot, (resolve_eq_some hn).mpr ⟨hoccupied, by rw [slotHandle, slotHandle, hmatch]⟩⟩

variable (tagsOf step)

/-- What becomes of a handle of `slot` in a run that begins when it is issued.
`accepts` and `refuses` say what the operations make of it. -/
structure SlotFate (accepts refuses : σ → Prop) (state : σ) (ops : List ω) (raw : U64)
    (slot : Fin n) : Prop where
  index_eq : handleIndex raw = slot.val
  ne_zero : raw ≠ 0#64
  accepted_iff : (resolve (tagsOf (runAll step state ops).2) raw).isSome ↔
    (tagsOf (runAll step state ops).2 slot).occupied = true ∧
      generationPeriod ∣ clearsOf tagsOf step slot state ops
  accepted : (resolve (tagsOf (runAll step state ops).2) raw).isSome = true →
    accepts (runAll step state ops).2
  refused : (resolve (tagsOf (runAll step state ops).2) raw).isSome = false →
    refuses (runAll step state ops).2
  /-- No free slot has it while it is accepted. -/
  taken : ∀ other, (tagsOf (runAll step state ops).2 other).occupied = false →
    (resolve (tagsOf (runAll step state ops).2) raw).isSome = true →
    slotHandle (tagsOf (runAll step state ops).2) other ≠ raw

/-- The slot has just been vacated, and its old handle is refused until it has
been cleared a whole period of times, the clear that vacated it included. -/
structure Retired (state : σ) (slot : Fin n) (refuses : σ → Prop) : Prop where
  free : (tagsOf state slot).occupied = false
  refused : ∀ later, clearsOf tagsOf step slot state later + 1 < generationPeriod →
    refuses (runAll step state later).2

variable {tagsOf step}

theorem slotFate (hn : n ≤ 2 ^ 32)
    (hstep : ∀ state op slot, SlotTag.Step (tagsOf state slot) (tagsOf (step state op).2 slot))
    {accepts refuses : σ → Prop} {raw : U64}
    (haccepts : ∀ state slot, resolve (tagsOf state) raw = some slot → accepts state)
    (hrefuses : ∀ state, resolve (tagsOf state) raw = none → refuses state)
    (state : σ) (ops : List ω) {slot : Fin n} (hraw : raw = slotHandle (tagsOf state) slot) :
    SlotFate tagsOf step accepts refuses state ops raw slot where
  index_eq := by
    rw [hraw]
    exact handleIndex_pack (by omega) _
  ne_zero := by
    rw [hraw]
    exact slotHandle_ne_zero hn slot
  accepted_iff := by
    rw [hraw]
    exact resolve_runAll hn hstep state ops slot
  accepted := by
    intro hsome
    obtain ⟨found, hfound⟩ := Option.isSome_iff_exists.mp hsome
    exact haccepts _ found hfound
  refused := by
    intro hnone
    rw [Option.isSome_eq_false_iff, Option.isNone_iff_eq_none] at hnone
    exact hrefuses _ hnone
  taken := by
    rintro other hfree hsome rfl
    rw [resolve_slotHandle_free hn hfree] at hsome
    cases hsome

/-- A call that vacates a slot retires the handle the slot answered to. -/
theorem Retired.of_clear (hn : n ≤ 2 ^ 32)
    (hstep : ∀ state op slot, SlotTag.Step (tagsOf state slot) (tagsOf (step state op).2 slot))
    {refuses : σ → Prop} {raw : U64}
    (hrefuses : ∀ state, resolve (tagsOf state) raw = none → refuses state) (state : σ) (op : ω)
    {slot : Fin n} (hbefore : resolve (tagsOf state) raw = some slot)
    (hafter : (tagsOf (step state op).2 slot).occupied = false) :
    Retired tagsOf step (step state op).2 slot refuses := by
  refine ⟨hafter, fun later hfew => hrefuses _ ?_⟩
  obtain ⟨hoccupied, rfl⟩ := (resolve_eq_some hn).mp hbefore
  have hclears : clearsOf tagsOf step slot state (op :: later) =
      1 + clearsOf tagsOf step slot (step state op).2 later := by
    rw [clearsOf, SlotTag.vacated, hoccupied, hafter]
    rfl
  have hlater := resolve_runAll hn hstep state (op :: later) slot
  rw [runAll_cons, hclears] at hlater
  by_contra hsome
  obtain ⟨_, hdvd⟩ := hlater.mp (Option.isSome_iff_ne_none.mpr hsome)
  have hle := Nat.le_of_dvd (by omega) hdvd
  omega

end Runs

end UnboundOS
