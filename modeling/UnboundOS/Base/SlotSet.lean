import UnboundOS.Base.Checked

/-!
Sets kept in an array with holes. As long as no value stands in two slots, the
occupied slots are as many as the values held, and filling or emptying a slot
is inserting or erasing a value.
-/

namespace UnboundOS

variable {α : Type} {n m : Nat}

/-- No value stands in two slots. -/
def Distinct (cells : Fin n → Option α) : Prop :=
  ∀ first second value, cells first = some value → cells second = some value → first = second

/-- How many slots are occupied. -/
def occupancy (cells : Fin n → Option α) : Nat :=
  (Finset.univ.filter (fun slot => (cells slot).isSome)).card

theorem occupancy_le (cells : Fin n → Option α) : occupancy cells ≤ n := by
  have hle := Finset.card_filter_le Finset.univ (fun slot => (cells slot).isSome)
  rwa [Finset.card_univ, Fintype.card_fin] at hle

variable [DecidableEq α]

/-- The values in the array. -/
def held (cells : Fin n → Option α) : Finset α :=
  Finset.univ.biUnion (fun slot => (cells slot).toFinset)

theorem mem_held {cells : Fin n → Option α} {value : α} :
    value ∈ held cells ↔ ∃ slot, cells slot = some value := by
  simp [held]

theorem held_none : held (fun _ : Fin n => (none : Option α)) = ∅ := by
  ext value
  simp [mem_held]

/-- Distinct values are counted by their slots. -/
theorem card_held {cells : Fin n → Option α} (hdistinct : Distinct cells) :
    (held cells).card = occupancy cells := by
  have himage : (held cells).image some =
      (Finset.univ.filter (fun slot => (cells slot).isSome)).image cells := by
    ext value
    simp only [Finset.mem_image, mem_held, Finset.mem_filter, Finset.mem_univ, true_and,
      Option.isSome_iff_exists]
    constructor
    · rintro ⟨inner, ⟨slot, hslot⟩, rfl⟩
      exact ⟨slot, ⟨inner, hslot⟩, hslot⟩
    · rintro ⟨slot, ⟨inner, hslot⟩, rfl⟩
      exact ⟨inner, ⟨slot, hslot⟩, hslot.symm⟩
  have hinjective : Set.InjOn cells
      (Finset.univ.filter (fun slot => (cells slot).isSome) : Finset (Fin n)) := by
    intro first hfirst second _ hsame
    obtain ⟨value, hvalue⟩ := Option.isSome_iff_exists.mp (Finset.mem_filter.mp hfirst).2
    exact hdistinct first second value hvalue (hsame ▸ hvalue)
  rw [occupancy, ← Finset.card_image_of_injOn hinjective, ← himage,
    Finset.card_image_of_injective _ (Option.some_injective α)]

section Fill

variable {cells : Fin n → Option α} {slot : Fin n} {value : α}

theorem held_fill (hfree : cells slot = none) (value : α) :
    held (Function.update cells slot (some value)) = insert value (held cells) := by
  ext other
  rw [Finset.mem_insert, mem_held, mem_held]
  constructor
  · rintro ⟨found, hfound⟩
    rcases of_update_some hfound with ⟨_, hsame⟩ | ⟨_, hkept⟩
    · exact Or.inl hsame
    · exact Or.inr ⟨found, hkept⟩
  · rintro (rfl | ⟨found, hfound⟩)
    · exact ⟨slot, Function.update_self _ _ _⟩
    · have hslot : found ≠ slot := by
        rintro rfl
        rw [hfree] at hfound
        cases hfound
      exact ⟨found, by rw [Function.update_of_ne hslot, hfound]⟩

theorem Distinct.fill (hdistinct : Distinct cells) (slot : Fin n) (hnew : value ∉ held cells) :
    Distinct (Function.update cells slot (some value)) := by
  have hunique {found : Fin n}
      (hfound : Function.update cells slot (some value) found = some value) : found = slot := by
    by_contra hslot
    rw [Function.update_of_ne hslot] at hfound
    exact hnew (mem_held.mpr ⟨found, hfound⟩)
  intro first second other hfirst hsecond
  by_cases hother : other = value
  · subst hother
    rw [hunique hfirst, hunique hsecond]
  · have hslots {found : Fin n}
        (hfound : Function.update cells slot (some value) found = some other) :
        cells found = some other := by
      rcases of_update_some hfound with ⟨_, hsame⟩ | ⟨_, hkept⟩
      · exact absurd hsame hother
      · exact hkept
    exact hdistinct first second other (hslots hfirst) (hslots hsecond)

theorem held_empty (hdistinct : Distinct cells) (hslot : cells slot = some value) :
    held (Function.update cells slot none) = (held cells).erase value := by
  ext other
  rw [Finset.mem_erase, mem_held, mem_held]
  constructor
  · rintro ⟨found, hfound⟩
    obtain ⟨hne, hkept⟩ := of_update_none hfound
    refine ⟨?_, found, hkept⟩
    rintro rfl
    exact hne (hdistinct found slot other hkept hslot)
  · rintro ⟨hother, found, hfound⟩
    have hsame : found ≠ slot := by
      rintro rfl
      rw [hslot] at hfound
      exact hother (Option.some.inj hfound).symm
    exact ⟨found, by rw [Function.update_of_ne hsame, hfound]⟩

omit [DecidableEq α] in
theorem Distinct.empty (hdistinct : Distinct cells) (slot : Fin n) :
    Distinct (Function.update cells slot none) := by
  intro first second other hfirst hsecond
  exact hdistinct first second other (of_update_none hfirst).2 (of_update_none hsecond).2

end Fill

/-- Rearranging the slots changes neither set nor distinctness. -/
theorem held_comp (cells : Fin n → Option α) {move : Fin m → Fin n}
    (hmove : Function.Surjective move) : held (cells ∘ move) = held cells := by
  ext value
  rw [mem_held, mem_held]
  constructor
  · rintro ⟨slot, hslot⟩
    exact ⟨move slot, hslot⟩
  · rintro ⟨slot, hslot⟩
    obtain ⟨source, rfl⟩ := hmove slot
    exact ⟨source, hslot⟩

omit [DecidableEq α] in
theorem Distinct.comp {cells : Fin n → Option α} (hdistinct : Distinct cells)
    {move : Fin m → Fin n} (hmove : Function.Injective move) : Distinct (cells ∘ move) :=
  fun first second value hfirst hsecond =>
    hmove (hdistinct (move first) (move second) value hfirst hsecond)

end UnboundOS
