import UnboundOS.Base.Generation
import UnboundOS.Sync.Guarded

/-!
Methods on one slot of a table behind a lock. Both tables of the kernel check a
handle the same way: against zero and the table size before the lock is taken,
against the slot's occupied flag and generation after. The rule here turns what
a method does to a slot that answers into what the call does to the table.
-/

namespace UnboundOS.Sync

/-- Where a slot keeps what a handle is checked against. -/
structure SlotFields (S : Type) where
  occupied : S → Bool
  generation : S → U32

namespace SlotFields

variable {S ρ : Type} {n : Nat}

/-- `slot.occupied && slot.generation == handle.generation()`. -/
def answers (fields : SlotFields S) (generation : U32) : Code S Bool := do
  let occupied ← .load fields.occupied
  if occupied then .load fun slot => fields.generation slot == generation else return false

/-- `if !slot.occupied || slot.generation != handle.generation() { return refused; }`
before the rest of a method. -/
def checked (fields : SlotFields S) (refused : ρ) (generation : U32) (rest : Code S ρ) :
    Code S ρ := do
  let valid ← fields.answers generation
  if valid then rest else return refused

/-- The checks of a method that takes a handle, and the rest of it. -/
def atSlot (fields : SlotFields S) (refused : ρ) (raw : U64) (rest : Code S ρ) :
    Code (SpinLock (Fin n → S)) ρ :=
  if raw = 0#64 then pure refused
  else if hindex : handleIndex raw < n then
    SpinLock.withLock ((fields.checked refused (handleGeneration raw) rest).zoom
      (.at ⟨handleIndex raw, hindex⟩))
  else pure refused

/-- The tag of a slot is what its fields say. -/
def Tags (fields : SlotFields S) (cells : Fin n → S) (tags : Fin n → SlotTag) : Prop :=
  ∀ index, fields.occupied (cells index) = (tags index).occupied ∧
    fields.generation (cells index) = (tags index).generation

theorem exec_answers (fields : SlotFields S) (generation : U32) (slot : S) :
    (fields.answers generation).exec slot =
      some (fields.occupied slot && fields.generation slot == generation, slot) := by
  cases hoccupied : fields.occupied slot <;> simp [answers, hoccupied]

theorem exec_checked (fields : SlotFields S) (refused : ρ) (generation : U32) (rest : Code S ρ)
    (slot : S) :
    (fields.checked refused generation rest).exec slot =
      if fields.occupied slot && fields.generation slot == generation then rest.exec slot
      else some (refused, slot) := by
  simp [checked, exec_answers]

/-- A handle that passes the checks before the lock resolves exactly if its slot
answers to it. -/
theorem resolve_of_index {fields : SlotFields S} {cells : Fin n → S} {tags : Fin n → SlotTag}
    (htags : fields.Tags cells tags) {raw : U64} (hraw : raw ≠ 0#64)
    (hindex : handleIndex raw < n) :
    resolve tags raw =
      if fields.occupied (cells ⟨handleIndex raw, hindex⟩) &&
          fields.generation (cells ⟨handleIndex raw, hindex⟩) == handleGeneration raw then
        some ⟨handleIndex raw, hindex⟩
      else none := by
  rw [(htags _).1, (htags _).2]
  simp only [resolve, if_neg hraw, dif_pos hindex]
  cases (tags ⟨handleIndex raw, hindex⟩).occupied <;>
    cases hsame : (tags ⟨handleIndex raw, hindex⟩).generation == handleGeneration raw <;>
    simp [bne, hsame]

/-- A method on a slot implements its sequential counterpart if it does so on
the slots that answer to the handle. -/
theorem serves_atSlot {τ ω ε : Type} {fields : SlotFields S} {spec : τ → ω → ε × τ}
    {image : τ → Fin n → S} {tags : τ → Fin n → SlotTag} {op : ω} {respond : ρ → ε} {refused : ρ}
    {raw : U64} {rest : Code S ρ}
    (htags : ∀ state, fields.Tags (image state) (tags state))
    (hdead : ∀ state, resolve (tags state) raw = none → spec state op = (respond refused, state))
    (hlive : ∀ state index, resolve (tags state) raw = some index →
      ∃ result slot, rest.exec (image state index) = some (result, slot) ∧
        (spec state op).1 = respond result ∧
        image (spec state op).2 = Function.update (image state) index slot) :
    Serves spec image op (respond <$> fields.atSlot refused raw rest) := by
  unfold atSlot
  split
  · rename_i hraw
    refine .unlocked (respond refused) fun state => hdead state ?_
    simp [resolve, hraw]
  · rename_i hraw
    split
    · rename_i hindex
      rw [SpinLock.map_withLock, ← Code.zoom_map]
      refine .locked _ fun state => ?_
      have hresolve := resolve_of_index (htags state) hraw hindex
      have hcell := fields.exec_checked refused (handleGeneration raw) rest
        (image state ⟨handleIndex raw, hindex⟩)
      rw [Code.exec_zoom, Code.exec_map]
      simp only [Lens.at]
      split at hresolve
      · rename_i hanswers
        obtain ⟨result, slot, hexec, hresult, himage⟩ := hlive state _ hresolve
        rw [if_pos hanswers, hexec] at hcell
        rw [hcell, hresult, himage]
        rfl
      · rename_i hanswers
        rw [if_neg hanswers] at hcell
        rw [hcell, hdead state hresolve]
        simp
    · rename_i hindex
      refine .unlocked (respond refused) fun state => hdead state ?_
      simp [resolve, hraw, hindex]

end SlotFields

end UnboundOS.Sync
