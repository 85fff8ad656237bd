import UnboundOS.Base.Run
import UnboundOS.Base.Scan

/-!
Concurrent clients of a shared state. The code of a call is cut at its accesses
to the state: one `act` is one atomic access, which waits (by trying again)
while it is not ready. A run is any list of moves, each made by one thread, so
a statement about every run is a statement about every interleaving.

A history is linearizable if one commit can be put between each call and its
answer so that the commits, in the order in which they stand, are a run of the
sequential object. A call that ended before another began is then committed
before it. The rule at the end reduces linearizability to what one move keeps.
-/

namespace UnboundOS

/-- One part of a state that can be read and replaced on its own. -/
structure Lens (σ τ : Type) where
  get : σ → τ
  set : τ → σ → σ
  get_set : ∀ part whole, get (set part whole) = part
  set_get : ∀ whole, set (get whole) whole = whole
  set_set : ∀ first second whole, set second (set first whole) = set second whole

theorem Lens.at_get_set {α : Type} {n : Nat} (index : Fin n) (part : α) (whole : Fin n → α) :
    Function.update whole index part index = part :=
  Function.update_self _ _ _

theorem Lens.at_set_get {α : Type} {n : Nat} (index : Fin n) (whole : Fin n → α) :
    Function.update whole index (whole index) = whole :=
  Function.update_eq_self _ _

theorem Lens.at_set_set {α : Type} {n : Nat} (index : Fin n) (first second : α)
    (whole : Fin n → α) :
    Function.update (Function.update whole index first) index second =
      Function.update whole index second :=
  Function.update_idem _ _ _

/-- One cell of an array. -/
def Lens.at {α : Type} {n : Nat} (index : Fin n) : Lens (Fin n → α) α where
  get whole := whole index
  set part whole := Function.update whole index part
  get_set := Lens.at_get_set index
  set_get := Lens.at_set_get index
  set_set := Lens.at_set_set index

/-- The code of a call, cut at its accesses to the shared state. What comes
after an access may depend on the state it found. -/
inductive Code (σ ρ : Type) where
  | ret (result : ρ)
  | act (ready : σ → Bool) (effect : σ → σ) (next : σ → Code σ ρ)

namespace Code

variable {σ τ α β ρ : Type}

def bind : Code σ α → (α → Code σ β) → Code σ β
  | .ret result, rest => rest result
  | .act ready effect next, rest => .act ready effect (fun state => (next state).bind rest)

instance : Monad (Code σ) where
  pure := .ret
  bind := bind

/-- A load. -/
def load (view : σ → α) : Code σ α :=
  .act (fun _ => true) id (fun state => .ret (view state))

/-- A store. -/
def store (change : σ → σ) : Code σ Unit :=
  .act (fun _ => true) change (fun _ => .ret ())

/-- Code that works on one part of the state only. -/
def zoom (part : Lens σ τ) : Code τ ρ → Code σ ρ
  | .ret result => .ret result
  | .act ready effect next =>
      .act (fun state => ready (part.get state))
        (fun state => part.set (effect (part.get state)) state)
        (fun state => (next (part.get state)).zoom part)

/-- `for item in items { body(item) }`, where the body returns from the whole
loop with `Some`. -/
def firstSome (body : β → Code σ (Option α)) : List β → Code σ (Option α)
  | [] => pure none
  | item :: items => do
      match ← body item with
      | some result => return some result
      | none => firstSome body items

/-- `items.iter().filter(test).count()`, with the count so far. -/
def countWhere (test : β → Code σ Bool) (counted : Nat) : List β → Code σ Nat
  | [] => pure counted
  | item :: items => do
      if ← test item then countWhere test (counted + 1) items
      else countWhere test counted items

/-- What the code does if nothing comes in between: its result and the state it
leaves, or nothing if it waits for something that only others can do. -/
def exec : Code σ ρ → σ → Option (ρ × σ)
  | .ret result, state => some (result, state)
  | .act ready effect next, state =>
      if ready state then (next state).exec (effect state) else none

/-- One access of a thread that runs the code. -/
def resume : Code σ ρ → σ → Code σ ρ × σ
  | .ret result, state => (.ret result, state)
  | .act ready effect next, state =>
      if ready state then (next state, effect state) else (.act ready effect next, state)

/-- Threads that run their codes side by side, one access at a time. -/
def interleave {ι : Type} [DecidableEq ι] (codes : ι → Code σ ρ) (state : σ) :
    List ι → (ι → Code σ ρ) × σ
  | [] => (codes, state)
  | thread :: moves =>
      let resumed := (codes thread).resume state
      interleave (Function.update codes thread resumed.1) resumed.2 moves

@[simp] theorem exec_ret (result : ρ) (state : σ) :
    (ret result : Code σ ρ).exec state = some (result, state) := rfl

@[simp] theorem exec_pure (result : ρ) (state : σ) :
    (pure result : Code σ ρ).exec state = some (result, state) := rfl

@[simp] theorem exec_load (view : σ → α) (state : σ) :
    (load view).exec state = some (view state, state) := rfl

@[simp] theorem exec_store (change : σ → σ) (state : σ) :
    (store change).exec state = some ((), change state) := rfl

@[simp] theorem exec_bind (code : Code σ α) (rest : α → Code σ β) (state : σ) :
    (code >>= rest).exec state =
      (code.exec state).bind fun run => (rest run.1).exec run.2 := by
  induction code generalizing state with
  | ret result => rfl
  | act ready effect next ih =>
      change (if ready state then (next state >>= rest).exec (effect state) else none) = _
      rw [ih, exec]
      cases ready state <;> rfl

@[simp] theorem exec_map (change : α → β) (code : Code σ α) (state : σ) :
    (change <$> code).exec state = (code.exec state).map fun run => (change run.1, run.2) := by
  change (code >>= fun result => pure (change result)).exec state = _
  rw [exec_bind]
  cases code.exec state <;> rfl

@[simp] theorem exec_ite (condition : Prop) [Decidable condition] (yes no : Code σ α) (state : σ) :
    (if condition then yes else no).exec state =
      if condition then yes.exec state else no.exec state := by
  split <;> rfl

@[simp] theorem exec_zoom (part : Lens σ τ) (code : Code τ ρ) (state : σ) :
    (code.zoom part).exec state =
      (code.exec (part.get state)).map fun run => (run.1, part.set run.2 state) := by
  induction code generalizing state with
  | ret result => simp [zoom, part.set_get]
  | act ready effect next ih =>
      simp only [zoom, exec]
      cases ready (part.get state) with
      | false => rfl
      | true =>
          simp only [if_true, ih, part.get_set, part.set_set]

theorem zoom_map (part : Lens σ τ) (change : α → β) (code : Code τ α) :
    (change <$> code).zoom part = change <$> code.zoom part := by
  induction code with
  | ret result => rfl
  | act ready effect next ih =>
      exact congrArg (act _ _) (funext fun state => ih (part.get state))

theorem map_bind (change : β → ρ) (code : Code σ α) (rest : α → Code σ β) :
    change <$> (code >>= rest) = code >>= fun result => change <$> rest result := by
  induction code with
  | ret result => rfl
  | act ready effect next ih => exact congrArg (act ready effect) (funext ih)

theorem bind_map (change : α → β) (code : Code σ α) (rest : β → Code σ ρ) :
    (change <$> code) >>= rest = code >>= fun result => rest (change result) := by
  induction code with
  | ret result => rfl
  | act ready effect next ih => exact congrArg (act ready effect) (funext ih)

/-- A loop whose bodies change nothing until one of them returns does what a
search does. -/
theorem exec_firstSome {body : β → Code σ (Option α)} {state : σ} (p : β → Bool)
    (result : β → α) (final : β → σ)
    (hskip : ∀ item, p item = false → (body item).exec state = some (none, state))
    (hfound : ∀ item, p item = true →
      (body item).exec state = some (some (result item), final item)) (items : List β) :
    (firstSome body items).exec state =
      some ((items.find? p).elim (none, state) fun item => (some (result item), final item)) := by
  induction items with
  | nil => rfl
  | cons item items ih =>
      cases hp : p item with
      | false => simp [firstSome, hskip item hp, hp, ih]
      | true => simp [firstSome, hfound item hp, hp]

theorem exec_countWhere {test : β → Code σ Bool} {p : β → Bool} {state : σ}
    (htest : ∀ item, (test item).exec state = some (p item, state)) (counted : Nat)
    (items : List β) :
    (countWhere test counted items).exec state = some (counted + items.countP p, state) := by
  induction items generalizing counted with
  | nil => rfl
  | cons item items ih =>
      cases hp : p item with
      | false => simp [countWhere, htest, hp, ih]
      | true =>
          have hcount : counted + 1 + items.countP p = counted + (items.countP p + 1) := by omega
          simp [countWhere, htest, hp, ih, hcount]

/-- `for index in 0..n` with a body on the cell at the index. -/
def scanCells {n : Nat} (body : Fin n → Code τ (Option α)) : Code (Fin n → τ) (Option α) :=
  firstSome (fun index => (body index).zoom (.at index)) (List.finRange n)

theorem exec_scanCells {n : Nat} {body : Fin n → Code τ (Option α)} {cells : Fin n → τ}
    (p : Fin n → Bool) (result : Fin n → α) (next : Fin n → τ)
    (hskip : ∀ index, p index = false →
      (body index).exec (cells index) = some (none, cells index))
    (hfound : ∀ index, p index = true →
      (body index).exec (cells index) = some (some (result index), next index)) :
    (scanCells body).exec cells =
      some ((firstFit p).elim (none, cells) fun index =>
        (some (result index), Function.update cells index (next index))) := by
  rw [firstFit, Fin.find?_eq_find?_finRange, scanCells]
  apply exec_firstSome p result (fun index => Function.update cells index (next index))
  · intro index hp
    rw [exec_zoom]
    simp [Lens.at, hskip index hp]
  · intro index hp
    rw [exec_zoom]
    simp [Lens.at, hfound index hp]

/-- `cells.iter().filter(test).count()`. -/
def countCells {n : Nat} (test : τ → Bool) : Code (Fin n → τ) Nat :=
  countWhere (fun index => zoom (.at index) (load test)) 0 (List.finRange n)

theorem exec_countCells {n : Nat} (test : τ → Bool) (cells : Fin n → τ) :
    (countCells test).exec cells =
      some ((Finset.univ.filter fun index => test (cells index) = true).card, cells) := by
  have htest : ∀ index : Fin n,
      (zoom (.at index) (load test)).exec cells = some (test (cells index), cells) := by
    intro index
    rw [exec_zoom]
    simp [Lens.at]
  have hcard := (List.nodup_finRange n).card_eq_countP (P := fun index => test (cells index) = true)
  rw [List.toFinset_finRange] at hcard
  rw [countCells, exec_countWhere htest, Nat.zero_add, hcard]
  simp only [Bool.decide_eq_true]

end Code

/-- What shows of a call: that it was made, that it took effect, that it was
answered. -/
inductive Mark (ω ρ : Type) where
  | call (op : ω)
  | commit (op : ω) (result : ρ)
  | answer (op : ω) (result : ρ)

/-- How far the call of a thread is. -/
inductive Phase (ω ρ : Type) where
  | idle
  | called (op : ω)
  | committed (op : ω) (result : ρ)

section Traces

variable {ι σ τ ω ρ : Type}

/-- Each call is committed once, between its call and its answer, and answered
with the result it was committed with. -/
inductive Phase.Step : Phase ω ρ → Mark ω ρ → Phase ω ρ → Prop where
  | call (op : ω) : Phase.Step .idle (.call op) (.called op)
  | commit (op : ω) (result : ρ) :
      Phase.Step (.called op) (.commit op result) (.committed op result)
  | answer (op : ω) (result : ρ) : Phase.Step (.committed op result) (.answer op result) .idle

/-- What the clients see. -/
def Mark.visible : Mark ω ρ → Bool
  | .call _ | .answer _ _ => true
  | .commit _ _ => false

def visibleMarks (trace : List (ι × Mark ω ρ)) : List (ι × Mark ω ρ) :=
  trace.filter fun entry => entry.2.visible

def Mark.committed? : Mark ω ρ → Option (ω × ρ)
  | .commit op result => some (op, result)
  | .call _ | .answer _ _ => none

/-- The operations in the order in which they took effect. -/
def commits (trace : List (ι × Mark ω ρ)) : List (ω × ρ) :=
  trace.filterMap fun entry => entry.2.committed?

theorem commits_append (trace later : List (ι × Mark ω ρ)) :
    commits (trace ++ later) = commits trace ++ commits later :=
  List.filterMap_append

/-- The marks of each thread come in the order of its calls. -/
inductive Follows [DecidableEq ι] :
    (ι → Phase ω ρ) → List (ι × Mark ω ρ) → (ι → Phase ω ρ) → Prop where
  | nil (phases : ι → Phase ω ρ) : Follows phases [] phases
  | cons {phases final : ι → Phase ω ρ} {thread : ι} {mark : Mark ω ρ} {next : Phase ω ρ}
      {trace : List (ι × Mark ω ρ)} (hstep : Phase.Step (phases thread) mark next)
      (hrest : Follows (Function.update phases thread next) trace final) :
      Follows phases ((thread, mark) :: trace) final

/-- The trace commits each call in its place, and its commits are a run of the
sequential object. -/
structure Linearizes [DecidableEq ι] (spec : τ → ω → ρ × τ) (phases : ι → Phase ω ρ) (before : τ)
    (trace : List (ι × Mark ω ρ)) (final : ι → Phase ω ρ) (after : τ) : Prop where
  ordered : Follows phases trace final
  legal : runAll spec before ((commits trace).map Prod.fst) = ((commits trace).map Prod.snd, after)

theorem runAll_append (step : σ → ω → ρ × σ) (state : σ) (ops later : List ω) :
    runAll step state (ops ++ later) =
      ((runAll step state ops).1 ++ (runAll step (runAll step state ops).2 later).1,
        (runAll step (runAll step state ops).2 later).2) := by
  induction ops generalizing state with
  | nil => rfl
  | cons op ops ih => simp [ih]

theorem length_runAll (step : σ → ω → ρ × σ) (state : σ) (ops : List ω) :
    (runAll step state ops).1.length = ops.length := by
  induction ops generalizing state with
  | nil => rfl
  | cons op ops ih => simp [ih]

variable [DecidableEq ι]

theorem Follows.append {phases middle final : ι → Phase ω ρ} {trace later : List (ι × Mark ω ρ)}
    (hfirst : Follows phases trace middle) (hsecond : Follows middle later final) :
    Follows phases (trace ++ later) final := by
  induction hfirst with
  | nil => exact hsecond
  | cons hstep _ ih => exact .cons hstep (ih hsecond)

namespace Linearizes

variable {spec : τ → ω → ρ × τ} {phases : ι → Phase ω ρ} {state : τ}

theorem append {middle final : ι → Phase ω ρ} {between after : τ}
    {trace later : List (ι × Mark ω ρ)} (hfirst : Linearizes spec phases state trace middle between)
    (hsecond : Linearizes spec middle between later final after) :
    Linearizes spec phases state (trace ++ later) final after := by
  refine ⟨hfirst.ordered.append hsecond.ordered, ?_⟩
  rw [commits_append, List.map_append, List.map_append, runAll_append, hfirst.legal,
    hsecond.legal]

theorem nothing (spec : τ → ω → ρ × τ) (phases : ι → Phase ω ρ) (state : τ) :
    Linearizes spec phases state [] phases state :=
  ⟨.nil phases, rfl⟩

theorem called (spec : τ → ω → ρ × τ) (state : τ) {thread : ι} (hphase : phases thread = .idle)
    (op : ω) :
    Linearizes spec phases state [(thread, .call op)]
      (Function.update phases thread (.called op)) state := by
  refine ⟨.cons ?_ (.nil _), rfl⟩
  rw [hphase]
  exact .call op

theorem committed (spec : τ → ω → ρ × τ) (state : τ) {thread : ι} {op : ω}
    (hphase : phases thread = .called op) :
    Linearizes spec phases state [(thread, .commit op (spec state op).1)]
      (Function.update phases thread (.committed op (spec state op).1)) (spec state op).2 := by
  refine ⟨.cons ?_ (.nil _), rfl⟩
  rw [hphase]
  exact .commit op _

theorem answered (spec : τ → ω → ρ × τ) (state : τ) {thread : ι} {op : ω} {result : ρ}
    (hphase : phases thread = .committed op result) :
    Linearizes spec phases state [(thread, .answer op result)]
      (Function.update phases thread .idle) state := by
  refine ⟨.cons ?_ (.nil _), rfl⟩
  rw [hphase]
  exact .answer op result

end Linearizes

end Traces

/-- A thread is between two calls or in the middle of one. -/
inductive Thread (σ ω ρ : Type) where
  | idle
  | running (op : ω) (code : Code σ ρ)

structure System (ι σ ω ρ : Type) where
  shared : σ
  threads : ι → Thread σ ω ρ

inductive Move (ι ω : Type) where
  | call (thread : ι) (op : ω)
  | resume (thread : ι)

def Move.thread {ι ω : Type} : Move ι ω → ι
  | .call thread _ | .resume thread => thread

namespace System

variable {ι σ τ ω ρ : Type}

/-- No call has been made. -/
def start (shared : σ) : System ι σ ω ρ := ⟨shared, fun _ => .idle⟩

variable [DecidableEq ι]

def setThread (self : System ι σ ω ρ) (thread : ι) (status : Thread σ ω ρ) : System ι σ ω ρ :=
  { self with threads := Function.update self.threads thread status }

/-- One move of a thread: it makes a call, makes the next access of the call it
is in, or returns from it. A move a thread cannot make does nothing. -/
def move (body : ω → Code σ ρ) (self : System ι σ ω ρ) :
    Move ι ω → Option (ι × Mark ω ρ) × System ι σ ω ρ
  | .call thread op =>
      match self.threads thread with
      | .idle => (some (thread, .call op), self.setThread thread (.running op (body op)))
      | .running _ _ => (none, self)
  | .resume thread =>
      match self.threads thread with
      | .idle => (none, self)
      | .running op (.ret result) =>
          (some (thread, .answer op result), self.setThread thread .idle)
      | .running op code =>
          let (rest, shared) := code.resume self.shared
          (none, ⟨shared, Function.update self.threads thread (.running op rest)⟩)

/-- What the clients saw of a run. -/
def history (events : List (Option (ι × Mark ω ρ))) : List (ι × Mark ω ρ) := events.filterMap id

theorem move_call_idle {self : System ι σ ω ρ} {thread : ι} (body : ω → Code σ ρ)
    (hthread : self.threads thread = .idle) (op : ω) :
    self.move body (.call thread op) =
      (some (thread, .call op), self.setThread thread (.running op (body op))) := by
  simp [move, hthread]

theorem move_call_running {self : System ι σ ω ρ} {thread : ι} (body : ω → Code σ ρ) {inner : ω}
    {code : Code σ ρ} (hthread : self.threads thread = .running inner code) (op : ω) :
    self.move body (.call thread op) = (none, self) := by
  simp [move, hthread]

theorem move_resume_idle {self : System ι σ ω ρ} {thread : ι} (body : ω → Code σ ρ)
    (hthread : self.threads thread = .idle) :
    self.move body (.resume thread) = (none, self) := by
  simp [move, hthread]

theorem move_resume_ret {self : System ι σ ω ρ} {thread : ι} (body : ω → Code σ ρ) {op : ω}
    {result : ρ} (hthread : self.threads thread = .running op (.ret result)) :
    self.move body (.resume thread) =
      (some (thread, .answer op result), self.setThread thread .idle) := by
  simp [move, hthread]

theorem move_resume_act {self : System ι σ ω ρ} {thread : ι} (body : ω → Code σ ρ) {op : ω}
    {ready : σ → Bool} {effect : σ → σ} {next : σ → Code σ ρ}
    (hthread : self.threads thread = .running op (.act ready effect next)) :
    self.move body (.resume thread) =
      if ready self.shared then
        (none, ⟨effect self.shared,
          Function.update self.threads thread (.running op (next self.shared))⟩)
      else (none, self) := by
  simp only [move, hthread, Code.resume]
  split
  · rfl
  · rw [← hthread, Function.update_eq_self]

/-- A move changes nothing of the other threads. -/
theorem move_threads_other (body : ω → Code σ ρ) (self : System ι σ ω ρ) {step : Move ι ω}
    {other : ι} (hother : other ≠ step.thread) :
    (self.move body step).2.threads other = self.threads other := by
  cases step with
  | call thread op =>
      cases hthread : self.threads thread with
      | idle =>
          rw [move_call_idle body hthread]
          exact Function.update_of_ne hother _ _
      | running inner code => rw [move_call_running body hthread]
  | resume thread =>
      cases hthread : self.threads thread with
      | idle => rw [move_resume_idle body hthread]
      | running op code =>
          cases code with
          | ret result =>
              rw [move_resume_ret body hthread]
              exact Function.update_of_ne hother _ _
          | act ready effect next =>
              rw [move_resume_act body hthread]
              split
              · exact Function.update_of_ne hother _ _
              · rfl

/-- A thread that makes no move stays as it is. -/
theorem run_threads_other (body : ω → Code σ ρ) (self : System ι σ ω ρ) {moves : List (Move ι ω)}
    {other : ι} (hother : other ∉ moves.map Move.thread) :
    (runAll (move body) self moves).2.threads other = self.threads other := by
  induction moves generalizing self with
  | nil => rfl
  | cons step moves ih =>
      rw [List.map_cons, List.mem_cons, not_or] at hother
      rw [runAll_cons, ih _ hother.2, move_threads_other body self hother.1]

/-- If every move can be explained from where the last explanation ended, the
whole run can. -/
theorem run_linearizes {body : ω → Code σ ρ} {spec : τ → ω → ρ × τ}
    {related : System ι σ ω ρ → (ι → Phase ω ρ) → τ → Prop}
    (hmove : ∀ system phases state move, related system phases state →
      ∃ trace final after, Linearizes spec phases state trace final after ∧
        visibleMarks trace = ((system.move body move).1).toList ∧
        related (system.move body move).2 final after)
    {system : System ι σ ω ρ} {phases : ι → Phase ω ρ} {state : τ} (moves : List (Move ι ω))
    (hrelated : related system phases state) :
    ∃ trace final after, Linearizes spec phases state trace final after ∧
      visibleMarks trace = history (runAll (move body) system moves).1 ∧
      related (runAll (move body) system moves).2 final after := by
  induction moves generalizing system phases state with
  | nil => exact ⟨[], phases, state, Linearizes.nothing spec phases state, rfl, hrelated⟩
  | cons step moves ih =>
      obtain ⟨trace, middle, between, hfirst, hshown, hnext⟩ :=
        hmove system phases state step hrelated
      obtain ⟨later, final, after, hsecond, hlater, hlast⟩ := ih hnext
      refine ⟨trace ++ later, final, after, hfirst.append hsecond, ?_, hlast⟩
      rw [visibleMarks, List.filter_append, ← visibleMarks, ← visibleMarks, hshown, hlater]
      cases hevent : (system.move body step).1 <;> simp [history, hevent]

end System

end UnboundOS
