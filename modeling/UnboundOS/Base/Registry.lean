import UnboundOS.Base.Run

/-!
An abstract registry of reference-counted objects: a finite map from handles
to a kind and a count. Handles are never issued twice, so the history of a
handle is the history of one object; the results about whole runs say that a
count is one plus the successful retains minus the successful releases.
-/

namespace UnboundOS

structure Registry (κ τ : Type) where
  entry : κ → Option (τ × Nat)
  issued : Finset κ
  issued_of_live : ∀ handle, (entry handle).isSome → handle ∈ issued
  positive : ∀ handle kind count, entry handle = some (kind, count) → 1 ≤ count

namespace Registry

variable {κ τ : Type}

inductive Op (κ τ : Type) where
  | create (kind : τ)
  | isValid (handle : κ)
  | getType (handle : κ)
  | retain (handle : κ)
  | release (handle : κ)
  | destroy (handle : κ)
  | count

inductive Event (κ τ : Type) where
  | created (kind : τ) (result : Option κ)
  | valid (handle : κ) (result : Bool)
  | typed (handle : κ) (result : Option τ)
  | retained (handle : κ) (result : Bool)
  | released (handle : κ) (result : Bool)
  | destroyed (handle : κ) (result : Bool)
  | counted (result : Nat)
deriving DecidableEq

/-- The handle an event issues. -/
def Event.issues : Event κ τ → Option κ
  | .created _ result => result
  | _ => none

/-- The handle an event is about. -/
def Event.target : Event κ τ → Option κ
  | .created _ result => result
  | .valid handle _ => some handle
  | .typed handle _ => some handle
  | .retained handle _ => some handle
  | .released handle _ => some handle
  | .destroyed handle _ => some handle
  | .counted _ => none

/-- The operation reported `None` or `false`. -/
def Event.failed : Event κ τ → Bool
  | .created _ result => result.isNone
  | .valid _ result => !result
  | .typed _ result => result.isNone
  | .retained _ result => !result
  | .released _ result => !result
  | .destroyed _ result => !result
  | .counted _ => false

def empty : Registry κ τ where
  entry := fun _ => none
  issued := ∅
  issued_of_live := by simp
  positive := by simp

def live (registry : Registry κ τ) : Finset κ :=
  registry.issued.filter (fun handle => (registry.entry handle).isSome)

theorem mem_live {registry : Registry κ τ} {handle : κ} :
    handle ∈ registry.live ↔ (registry.entry handle).isSome := by
  rw [live, Finset.mem_filter]
  exact ⟨fun hmem => hmem.2, fun hlive => ⟨registry.issued_of_live handle hlive, hlive⟩⟩

variable [DecidableEq κ]

def put (registry : Registry κ τ) (handle : κ) (kind : τ) (count : Nat) (hcount : 1 ≤ count) :
    Registry κ τ where
  entry := Function.update registry.entry handle (some (kind, count))
  issued := insert handle registry.issued
  issued_of_live := by
    intro other hlive
    by_cases hother : other = handle
    · exact hother ▸ Finset.mem_insert_self _ _
    · rw [Function.update_of_ne hother] at hlive
      exact Finset.mem_insert_of_mem (registry.issued_of_live other hlive)
  positive := by
    intro other kind' count' hentry
    rcases of_update_some hentry with ⟨_, hsame⟩ | ⟨_, hother⟩
    · cases hsame
      exact hcount
    · exact registry.positive other kind' count' hother

def drop (registry : Registry κ τ) (handle : κ) : Registry κ τ where
  entry := Function.update registry.entry handle none
  issued := registry.issued
  issued_of_live := by
    intro other hlive
    by_cases hother : other = handle
    · rw [hother, Function.update_self] at hlive
      cases hlive
    · rw [Function.update_of_ne hother] at hlive
      exact registry.issued_of_live other hlive
  positive := by
    intro other kind count hentry
    exact registry.positive other kind count (of_update_none hentry).2

theorem put_entry_self (registry : Registry κ τ) (handle : κ) (kind : τ) (count : Nat)
    (hcount : 1 ≤ count) :
    (registry.put handle kind count hcount).entry handle = some (kind, count) :=
  Function.update_self _ _ _

theorem drop_entry_self (registry : Registry κ τ) (handle : κ) :
    (registry.drop handle).entry handle = none :=
  Function.update_self _ _ _

/-- The registry's behaviour for a capacity and a largest count. -/
inductive Step (capacity limit : Nat) (before : Registry κ τ) :
    Event κ τ → Registry κ τ → Prop where
  | create {kind : τ} {handle : κ} (hroom : before.live.card < capacity)
      (hfresh : handle ∉ before.issued) :
      Step capacity limit before (.created kind (some handle)) (before.put handle kind 1 le_rfl)
  | createFull {kind : τ} (hfull : before.live.card = capacity) :
      Step capacity limit before (.created kind none) before
  | valid {handle : κ} : Step capacity limit before
      (.valid handle (before.entry handle).isSome) before
  | typed {handle : κ} : Step capacity limit before
      (.typed handle ((before.entry handle).map Prod.fst)) before
  | retain {handle : κ} {kind : τ} {count : Nat}
      (hlive : before.entry handle = some (kind, count)) (hlimit : count < limit) :
      Step capacity limit before (.retained handle true)
        (before.put handle kind (count + 1) (Nat.le_add_left 1 count))
  | retainSaturated {handle : κ} {kind : τ} (hlive : before.entry handle = some (kind, limit)) :
      Step capacity limit before (.retained handle false) before
  | retainDead {handle : κ} (hdead : before.entry handle = none) :
      Step capacity limit before (.retained handle false) before
  | release {handle : κ} {kind : τ} {count : Nat}
      (hlive : before.entry handle = some (kind, count + 1)) (hmore : 1 ≤ count) :
      Step capacity limit before (.released handle true) (before.put handle kind count hmore)
  | releaseLast {handle : κ} {kind : τ} (hlive : before.entry handle = some (kind, 1)) :
      Step capacity limit before (.released handle true) (before.drop handle)
  | releaseDead {handle : κ} (hdead : before.entry handle = none) :
      Step capacity limit before (.released handle false) before
  | destroy {handle : κ} (hlive : (before.entry handle).isSome) :
      Step capacity limit before (.destroyed handle true) (before.drop handle)
  | destroyDead {handle : κ} (hdead : before.entry handle = none) :
      Step capacity limit before (.destroyed handle false) before
  | count : Step capacity limit before (.counted before.live.card) before

inductive Run (capacity limit : Nat) : Registry κ τ → List (Event κ τ) → Registry κ τ → Prop where
  | nil {registry : Registry κ τ} : Run capacity limit registry [] registry
  | cons {before middle after : Registry κ τ} {event : Event κ τ} {events : List (Event κ τ)}
      (hhead : Step capacity limit before event middle)
      (htail : Run capacity limit middle events after) :
      Run capacity limit before (event :: events) after

variable {capacity limit : Nat} {before after : Registry κ τ} {event : Event κ τ}

/-- A step issues at most the handle its event names. -/
theorem Step.issued_eq (hstep : Step capacity limit before event after) :
    after.issued = before.issued ∪ event.issues.toFinset := by
  have hknown {handle : κ} (hlive : (before.entry handle).isSome) :
      insert handle before.issued = before.issued :=
    Finset.insert_eq_of_mem (before.issued_of_live handle hlive)
  cases hstep with
  | create hroom hfresh =>
      change insert _ _ = _ ∪ {_}
      rw [Finset.union_comm]
      rfl
  | retain hlive hlimit => exact (hknown (by rw [hlive]; rfl)).trans (Finset.union_empty _).symm
  | release hlive hmore => exact (hknown (by rw [hlive]; rfl)).trans (Finset.union_empty _).symm
  | _ => exact (Finset.union_empty _).symm

/-- A step changes at most the entry its event is about. -/
theorem Step.entry_other (hstep : Step capacity limit before event after) {handle : κ}
    (hother : event.target ≠ some handle) : after.entry handle = before.entry handle := by
  have hne {named : κ} (htarget : event.target = some named) : handle ≠ named :=
    fun hsame => hother (htarget.trans (congrArg some hsame.symm))
  cases hstep with
  | create hroom hfresh => exact Function.update_of_ne (hne rfl) _ _
  | retain hlive hlimit => exact Function.update_of_ne (hne rfl) _ _
  | release hlive hmore => exact Function.update_of_ne (hne rfl) _ _
  | releaseLast hlive => exact Function.update_of_ne (hne rfl) _ _
  | destroy hlive => exact Function.update_of_ne (hne rfl) _ _
  | _ => rfl

/-- Each handle is issued at most once in a run, and never one issued before. -/
theorem Run.issues_nodup {events : List (Event κ τ)}
    (hrun : Run capacity limit before events after) :
    (events.filterMap Event.issues).Nodup ∧
      ∀ handle ∈ events.filterMap Event.issues, handle ∉ before.issued := by
  induction hrun with
  | nil => simp
  | @cons before middle after event events hhead htail ih =>
      have hissued := hhead.issued_eq
      cases hissues : event.issues with
      | none =>
          rw [hissues, Option.toFinset_none, Finset.union_empty] at hissued
          rw [List.filterMap_cons_none hissues, ← hissued]
          exact ih
      | some handle =>
          rw [hissues, Option.toFinset_some] at hissued
          have hfresh : handle ∉ before.issued := by
            cases hhead with
            | create hroom hfresh => exact (Option.some.inj hissues) ▸ hfresh
            | _ => cases hissues
          rw [List.filterMap_cons_some hissues]
          constructor
          · refine List.nodup_cons.mpr ⟨fun hagain => ?_, ih.1⟩
            exact ih.2 handle hagain
              (hissued ▸ Finset.mem_union_right _ (Finset.mem_singleton_self _))
          · intro other hother
            rcases List.mem_cons.mp hother with rfl | hlater
            · exact hfresh
            · intro hold
              exact ih.2 other hlater (hissued ▸ Finset.mem_union_left _ hold)

variable [DecidableEq τ]

/-- The successful retains of a handle. -/
def retains (handle : κ) (events : List (Event κ τ)) : Nat :=
  events.count (.retained handle true)

/-- The successful releases of a handle. -/
def releases (handle : κ) (events : List (Event κ τ)) : Nat :=
  events.count (.released handle true)

/-- One step of a handle that is already known: its kind stays, its count
moves with the event. -/
theorem Step.account (hstep : Step capacity limit before event after) {handle : κ}
    (hknown : handle ∈ before.issued) {kind : τ} {count : Nat}
    (hafter : after.entry handle = some (kind, count)) :
    ∃ earlier, before.entry handle = some (kind, earlier) ∧
      count + releases handle [event] = earlier + retains handle [event] := by
  by_cases hother : event.target = some handle
  · cases hstep with
    | create hroom hfresh =>
        cases hother
        exact absurd hknown hfresh
    | retain hlive hlimit =>
        cases hother
        rw [put_entry_self] at hafter
        cases hafter
        exact ⟨_, hlive, by simp [retains, releases]⟩
    | release hlive hmore =>
        cases hother
        rw [put_entry_self] at hafter
        cases hafter
        exact ⟨_, hlive, by simp [retains, releases]⟩
    | releaseLast hlive =>
        cases hother
        rw [drop_entry_self] at hafter
        cases hafter
    | destroy hlive =>
        cases hother
        rw [drop_entry_self] at hafter
        cases hafter
    | _ => exact ⟨count, hafter, by simp [retains, releases]⟩
  · have hretains : retains handle [event] = 0 := by
      refine List.count_eq_zero.mpr fun hmem => hother ?_
      rw [← List.mem_singleton.mp hmem]
      rfl
    have hreleases : releases handle [event] = 0 := by
      refine List.count_eq_zero.mpr fun hmem => hother ?_
      rw [← List.mem_singleton.mp hmem]
      rfl
    rw [hstep.entry_other hother] at hafter
    exact ⟨count, hafter, by rw [hretains, hreleases]⟩

theorem retains_cons (handle : κ) (event : Event κ τ) (events : List (Event κ τ)) :
    retains handle (event :: events) = retains handle [event] + retains handle events := by
  rw [retains, ← List.singleton_append, List.count_append]
  rfl

theorem releases_cons (handle : κ) (event : Event κ τ) (events : List (Event κ τ)) :
    releases handle (event :: events) = releases handle [event] + releases handle events := by
  rw [releases, ← List.singleton_append, List.count_append]
  rfl

theorem Run.account {events : List (Event κ τ)} (hrun : Run capacity limit before events after)
    {handle : κ} (hknown : handle ∈ before.issued) {kind : τ} {count : Nat}
    (hafter : after.entry handle = some (kind, count)) :
    ∃ earlier, before.entry handle = some (kind, earlier) ∧
      count + releases handle events = earlier + retains handle events := by
  induction hrun with
  | nil => exact ⟨count, hafter, rfl⟩
  | @cons before middle after event events hhead htail ih =>
      have hstill : handle ∈ middle.issued := by
        rw [hhead.issued_eq]
        exact Finset.mem_union_left _ hknown
      obtain ⟨between, hbetween, htailCount⟩ := ih hstill hafter
      obtain ⟨earlier, hearlier, hheadCount⟩ := hhead.account hknown hbetween
      refine ⟨earlier, hearlier, ?_⟩
      rw [retains_cons, releases_cons]
      omega

/-- A live handle that was not known before the run was issued in it, with its
kind and the count one, and its count has followed its events since. -/
theorem Run.account_new {events : List (Event κ τ)} (hrun : Run capacity limit before events after)
    {handle : κ} (hnew : handle ∉ before.issued) {kind : τ} {count : Nat}
    (hafter : after.entry handle = some (kind, count)) :
    .created kind (some handle) ∈ events ∧
      count + releases handle events = 1 + retains handle events := by
  induction hrun with
  | nil =>
      exact absurd (by rw [hafter]; rfl) (fun hlive => hnew (Registry.issued_of_live _ _ hlive))
  | @cons before middle after event events hhead htail ih =>
      have hdead : before.entry handle = none := by
        rw [← Option.not_isSome_iff_eq_none]
        exact fun hlive => hnew (before.issued_of_live handle hlive)
      rw [retains_cons, releases_cons]
      by_cases hissues : event.issues = some handle
      · cases hhead with
        | create hroom hfresh =>
            cases hissues
            obtain ⟨earlier, hearlier, htailCount⟩ :=
              htail.account (Finset.mem_insert_self _ _) hafter
            rw [put_entry_self] at hearlier
            cases hearlier
            refine ⟨List.mem_cons_self, ?_⟩
            simpa [retains, releases] using htailCount
        | _ => cases hissues
      · have hstill : handle ∉ middle.issued := by
          rw [hhead.issued_eq, Finset.mem_union]
          rintro (hold | hissued)
          · exact hnew hold
          · exact hissues (Option.mem_toFinset.mp hissued)
        obtain ⟨hcreated, htailCount⟩ := ih hstill hafter
        refine ⟨List.mem_cons_of_mem _ hcreated, ?_⟩
        have hretains : retains handle [event] = 0 := by
          refine List.count_eq_zero.mpr fun hmem => ?_
          cases List.mem_singleton.mp hmem
          cases hhead with
          | retain hlive hlimit => rw [hdead] at hlive; cases hlive
        have hreleases : releases handle [event] = 0 := by
          refine List.count_eq_zero.mpr fun hmem => ?_
          cases List.mem_singleton.mp hmem
          cases hhead with
          | release hlive hmore => rw [hdead] at hlive; cases hlive
          | releaseLast hlive => rw [hdead] at hlive; cases hlive
        omega

end Registry

end UnboundOS
