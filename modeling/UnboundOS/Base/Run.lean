import UnboundOS.Base.Checked

/-!
Runs of operations over a state. A total machine and a checked machine have
the same shape: one step per operation, one event per step. The rules here are
the two inductions the developments use, an invariant along a run and a
step-by-step simulation of one machine by another.
-/

namespace UnboundOS

variable {σ τ ω ε : Type}

/-- The events and the final state of a run. -/
def runAll (step : σ → ω → ε × σ) : σ → List ω → List ε × σ
  | state, [] => ([], state)
  | state, op :: ops =>
      let (event, next) := step state op
      let (events, final) := runAll step next ops
      (event :: events, final)

/-- The same for steps that may panic; a panic ends the run. -/
def runChecked (step : σ → ω → Checked (ε × σ)) : σ → List ω → Checked (List ε × σ)
  | state, [] => some ([], state)
  | state, op :: ops => do
      let (event, next) ← step state op
      let (events, final) ← runChecked step next ops
      some (event :: events, final)

@[simp] theorem runAll_nil (step : σ → ω → ε × σ) (state : σ) :
    runAll step state [] = ([], state) := rfl

@[simp] theorem runAll_cons (step : σ → ω → ε × σ) (state : σ) (op : ω) (ops : List ω) :
    runAll step state (op :: ops) =
      ((step state op).1 :: (runAll step (step state op).2 ops).1,
        (runAll step (step state op).2 ops).2) := rfl

/-- What every step keeps, every run keeps. -/
theorem runAll_invariant {step : σ → ω → ε × σ} {invariant : σ → Prop}
    (hstep : ∀ state op, invariant state → invariant (step state op).2)
    {state : σ} (ops : List ω) (hstate : invariant state) :
    invariant (runAll step state ops).2 := by
  induction ops generalizing state with
  | nil => exact hstate
  | cons op rest ih => exact ih (hstep state op hstate)

theorem runChecked_cons {step : σ → ω → Checked (ε × σ)} {state next : σ} {op : ω} {event : ε}
    (hstep : step state op = some (event, next)) (ops : List ω) :
    runChecked step state (op :: ops) =
      (runChecked step next ops).map (fun run => (event :: run.1, run.2)) := by
  rw [runChecked, hstep]
  simp only [Option.bind_eq_bind, Option.bind_some]
  cases runChecked step next ops <;> rfl

theorem runChecked_cons_eq_some {step : σ → ω → Checked (ε × σ)} {state final : σ} {op : ω}
    {ops : List ω} {events : List ε} :
    runChecked step state (op :: ops) = some (events, final) ↔
      ∃ event next rest, step state op = some (event, next) ∧
        runChecked step next ops = some (rest, final) ∧ events = event :: rest := by
  constructor
  · intro hrun
    cases hstep : step state op with
    | none => simp [runChecked, hstep] at hrun
    | some result =>
        obtain ⟨event, next⟩ := result
        rw [runChecked_cons hstep, Option.map_eq_some_iff] at hrun
        obtain ⟨⟨rest, last⟩, hrest, hsame⟩ := hrun
        cases hsame
        exact ⟨event, next, rest, rfl, hrest, rfl⟩
  · rintro ⟨event, next, rest, hstep, hrest, rfl⟩
    rw [runChecked_cons hstep, hrest]
    rfl

theorem runChecked_append {step : σ → ω → Checked (ε × σ)} {state middle final : σ}
    {ops later : List ω} {events rest : List ε}
    (hfirst : runChecked step state ops = some (events, middle))
    (hsecond : runChecked step middle later = some (rest, final)) :
    runChecked step state (ops ++ later) = some (events ++ rest, final) := by
  induction ops generalizing state events with
  | nil =>
      cases hfirst
      exact hsecond
  | cons op ops ih =>
      obtain ⟨event, next, tail, hhead, htail, rfl⟩ := runChecked_cons_eq_some.mp hfirst
      exact runChecked_cons_eq_some.mpr ⟨event, next, tail ++ rest, hhead, ih htail, rfl⟩

/-- What every step of a checked machine keeps, every run that does not panic
keeps, and what every step shows, all events show. -/
theorem runChecked_invariant {step : σ → ω → Checked (ε × σ)} {invariant : σ → Prop}
    {shows : ε → Prop}
    (hstep : ∀ state op event next, invariant state → step state op = some (event, next) →
      shows event ∧ invariant next)
    {state final : σ} {events : List ε} (ops : List ω) (hstate : invariant state)
    (hrun : runChecked step state ops = some (events, final)) :
    invariant final ∧ ∀ event ∈ events, shows event := by
  induction ops generalizing state events with
  | nil =>
      cases hrun
      exact ⟨hstate, by simp⟩
  | cons op rest ih =>
      obtain ⟨event, next, later, hhead, htail, rfl⟩ := runChecked_cons_eq_some.mp hrun
      obtain ⟨hshows, hnext⟩ := hstep state op event next hstate hhead
      obtain ⟨hfinal, hlater⟩ := ih hnext htail
      refine ⟨hfinal, fun other hother => ?_⟩
      rcases List.mem_cons.mp hother with rfl | hmem
      · exact hshows
      · exact hlater other hmem

/-- Something holds of every step of a run, said of the state before, the
operation, the event and the state after. -/
def everyStep (step : σ → ω → Checked (ε × σ)) (holds : σ → ω → ε → σ → Prop) : σ → List ω → Prop
  | _, [] => True
  | state, op :: ops => ∀ event next, step state op = some (event, next) →
      holds state op event next ∧ everyStep step holds next ops

/-- Two properties that agree on every step from an invariant state agree on
every run. -/
theorem everyStep_iff {step : σ → ω → Checked (ε × σ)} {invariant : σ → Prop}
    {left right : σ → ω → ε → σ → Prop}
    (hstep : ∀ state op event next, invariant state → step state op = some (event, next) →
      (left state op event next ↔ right state op event next) ∧ invariant next)
    {state : σ} (ops : List ω) (hstate : invariant state) :
    everyStep step left state ops ↔ everyStep step right state ops := by
  induction ops generalizing state with
  | nil => rfl
  | cons op ops ih =>
      unfold everyStep
      refine forall_congr' fun event => forall_congr' fun next => forall_congr' fun hreturn => ?_
      obtain ⟨hagree, hnext⟩ := hstep state op event next hstate hreturn
      rw [hagree, ih hnext]

/-- A machine that can always take one step more than it still has to take
never panics. -/
theorem runChecked_total {step : σ → ω → Checked (ε × σ)} {ready : Nat → σ → Prop}
    (hstep : ∀ left state op, ready (left + 1) state →
      ∃ event next, step state op = some (event, next) ∧ ready left next)
    {state : σ} (ops : List ω) (hstate : ready ops.length state) :
    ∃ events final, runChecked step state ops = some (events, final) := by
  induction ops generalizing state with
  | nil => exact ⟨[], state, rfl⟩
  | cons op rest ih =>
      obtain ⟨event, next, hhead, hnext⟩ := hstep rest.length state op hstate
      obtain ⟨events, final, htail⟩ := ih hnext
      exact ⟨event :: events, final,
        runChecked_cons_eq_some.mpr ⟨event, next, events, hhead, htail, rfl⟩⟩

/-- A checked machine that follows a total machine step by step never panics
and produces the same events. -/
theorem runChecked_simulates {step : σ → ω → Checked (ε × σ)} {follow : τ → ω → ε × τ}
    {relates : σ → τ → Prop}
    (hstep : ∀ state image op, relates state image →
      ∃ next, step state op = some ((follow image op).1, next) ∧
        relates next (follow image op).2)
    {state : σ} {image : τ} (ops : List ω) (hstate : relates state image) :
    ∃ final, runChecked step state ops = some ((runAll follow image ops).1, final) ∧
      relates final (runAll follow image ops).2 := by
  induction ops generalizing state image with
  | nil => exact ⟨state, rfl, hstate⟩
  | cons op rest ih =>
      obtain ⟨next, hnext, hrelates⟩ := hstep state image op hstate
      obtain ⟨final, hfinal, hlast⟩ := ih hrelates
      refine ⟨final, ?_, hlast⟩
      rw [runChecked_cons hnext, hfinal]
      rfl

end UnboundOS
