import UnboundOS.Sync.SpinLock

/-!
Objects behind one spinlock. Each method either answers before it takes the
lock, with an answer that does not depend on the data, or does its work in one
section. Such an object is linearizable, each call taking effect when its
compare-exchange succeeds, and no interleaving of its clients gets stuck.
-/

namespace UnboundOS.Sync

open SpinLock

/-- How a method may be written: return without the lock, or one section that
does alone what the sequential method does. -/
inductive Serves {T τ ω ρ : Type} (spec : τ → ω → ρ × τ) (image : τ → T) (op : ω) :
    Code (SpinLock T) ρ → Prop where
  | unlocked (result : ρ) (hspec : ∀ state, spec state op = (result, state)) :
      Serves spec image op (.ret result)
  | locked (inner : Code T ρ)
      (hexec : ∀ state, inner.exec (image state) =
        some ((spec state op).1, image (spec state op).2)) :
      Serves spec image op (withLock inner)

/-- The methods of an object whose data are behind a lock, with the sequential
object they implement. -/
structure Guarded (T τ ω ρ : Type) where
  body : ω → Code (SpinLock T) ρ
  spec : τ → ω → ρ × τ
  image : τ → T
  serves : ∀ op, Serves spec image op (body op)

namespace Guarded

variable {ι T τ ω ρ : Type}

/-- A thread without the lock: between calls, before its section, or after it
with a result. -/
inductive Outside (object : Guarded T τ ω ρ) : Thread (SpinLock T) ω ρ → Phase ω ρ → Prop where
  | idle : Outside object .idle .idle
  | waiting (op : ω) : Outside object (.running op (object.body op)) (.called op)
  | leaving (op : ω) (result : ρ) :
      Outside object (.running op (.ret result)) (.committed op result)

/-- Where a run can be: the lock is free and the data are those of the
sequential object, or one thread is in its section and will leave them so. -/
inductive Related (object : Guarded T τ ω ρ) (system : System ι (SpinLock T) ω ρ)
    (phases : ι → Phase ω ρ) (state : τ) : Prop where
  | free (hshared : system.shared = ⟨false, object.image state⟩)
      (houtside : ∀ thread, object.Outside (system.threads thread) (phases thread))
  | held (holder : ι) (op : ω) (result : ρ) (inner : Code T ρ)
      (hlocked : system.shared.locked = true)
      (hthread : system.threads holder = .running op (inside inner))
      (hphase : phases holder = .committed op result)
      (hexec : inner.exec system.shared.data = some (result, object.image state))
      (houtside : ∀ thread, thread ≠ holder →
        object.Outside (system.threads thread) (phases thread))

theorem start_related (object : Guarded T τ ω ρ) (state : τ) :
    object.Related (System.start (SpinLock.new (object.image state)) : System ι _ ω ρ)
      (fun _ => .idle) state :=
  .free rfl fun _ => .idle

variable [DecidableEq ι]

/-- Changing one thread and its phase alike keeps the others outside. -/
theorem outside_update {object : Guarded T τ ω ρ} {threads : ι → Thread (SpinLock T) ω ρ}
    {phases : ι → Phase ω ρ} {thread other : ι} {status : Thread (SpinLock T) ω ρ}
    {phase : Phase ω ρ} (hstatus : other = thread → object.Outside status phase)
    (hothers : other ≠ thread → object.Outside (threads other) (phases other)) :
    object.Outside (Function.update threads thread status other)
      (Function.update phases thread phase other) := by
  by_cases hother : other = thread
  · rw [hother, Function.update_self, Function.update_self]
    exact hstatus hother
  · rw [Function.update_of_ne hother, Function.update_of_ne hother]
    exact hothers hother

/-- A quiet move of a thread outside: the lock and the sequential object stay as
they are, and the thread is still outside. -/
structure Quiet (object : Guarded T τ ω ρ) (system next : System ι (SpinLock T) ω ρ)
    (event : Option (ι × Mark ω ρ)) (phases : ι → Phase ω ρ) (state : τ) (thread : ι)
    (trace : List (ι × Mark ω ρ)) (status : Thread (SpinLock T) ω ρ) (phase : Phase ω ρ) :
    Prop where
  linearizes : Linearizes object.spec phases state trace (Function.update phases thread phase) state
  visible : visibleMarks trace = event.toList
  next_eq : next = system.setThread thread status
  outside : object.Outside status phase

/-- Nothing happens. -/
theorem Quiet.stay {object : Guarded T τ ω ρ} {system : System ι (SpinLock T) ω ρ}
    {phases : ι → Phase ω ρ} {thread : ι}
    (houtside : object.Outside (system.threads thread) (phases thread)) (state : τ) :
    object.Quiet system system none phases state thread [] (system.threads thread)
      (phases thread) where
  linearizes := by
    rw [Function.update_eq_self]
    exact Linearizes.nothing _ _ _
  visible := rfl
  next_eq := by rw [System.setThread, Function.update_eq_self]
  outside := houtside

/-- The end of a call that was committed. -/
theorem Quiet.answer {object : Guarded T τ ω ρ} {system : System ι (SpinLock T) ω ρ}
    {phases : ι → Phase ω ρ} {thread : ι} {op : ω} {result : ρ}
    (hthread : system.threads thread = .running op (.ret result))
    (hphase : phases thread = .committed op result) (state : τ) :
    object.Quiet system (system.move object.body (.resume thread)).2
      (system.move object.body (.resume thread)).1 phases state thread
      [(thread, .answer op result)] .idle .idle where
  linearizes := Linearizes.answered _ _ hphase
  visible := by rw [System.move_resume_ret object.body hthread]; rfl
  next_eq := by rw [System.move_resume_ret object.body hthread]
  outside := .idle

/-- A call that returns without the lock is committed as it is answered. -/
theorem Quiet.answer_unlocked {object : Guarded T τ ω ρ} {system : System ι (SpinLock T) ω ρ}
    {phases : ι → Phase ω ρ} {thread : ι} {op : ω} {result : ρ} {state : τ}
    (hthread : system.threads thread = .running op (.ret result))
    (hphase : phases thread = .called op) (hspec : object.spec state op = (result, state)) :
    object.Quiet system (system.move object.body (.resume thread)).2
      (system.move object.body (.resume thread)).1 phases state thread
      [(thread, .commit op result), (thread, .answer op result)] .idle .idle where
  linearizes := by
    have hcommit : Linearizes object.spec phases state [(thread, .commit op result)]
        (Function.update phases thread (.committed op result)) state := by
      have hcommitted := Linearizes.committed object.spec state hphase
      rwa [hspec] at hcommitted
    have hanswer := Linearizes.answered object.spec state
      (Function.update_self thread (Phase.committed op result) phases)
    rw [Function.update_idem] at hanswer
    exact hcommit.append hanswer
  visible := by rw [System.move_resume_ret object.body hthread]; rfl
  next_eq := by rw [System.move_resume_ret object.body hthread]
  outside := .idle

theorem inside_ret (result : ρ) :
    (inside (.ret result) : Code (SpinLock T) ρ) =
      .act (fun _ => true) unlocked (fun _ => .ret result) := rfl

theorem inside_act (ready : T → Bool) (effect : T → T) (next : T → Code T ρ) :
    inside (.act ready effect next) =
      .act (fun self => ready self.data) (fun self => { self with data := effect self.data })
        (fun self => inside (next self.data)) := rfl

theorem withLock_eq_act (inner : Code T ρ) :
    withLock inner = .act (fun self => self.compareExchange.1) (fun self => self.compareExchange.2)
      (fun _ => inside inner) := rfl

/-- The move of a thread outside is quiet, or it takes the free lock. -/
theorem resume_outside {object : Guarded T τ ω ρ} {system : System ι (SpinLock T) ω ρ}
    {phases : ι → Phase ω ρ} {thread : ι}
    (houtside : object.Outside (system.threads thread) (phases thread)) (state : τ) :
    (∃ op inner, phases thread = .called op ∧ system.shared.locked = false ∧
      inner.exec (object.image state) =
        some ((object.spec state op).1, object.image (object.spec state op).2) ∧
      system.move object.body (.resume thread) = (none, ⟨{ system.shared with locked := true },
        Function.update system.threads thread (.running op (inside inner))⟩)) ∨
    ∃ trace status phase, object.Quiet system (system.move object.body (.resume thread)).2
      (system.move object.body (.resume thread)).1 phases state thread trace status phase := by
  generalize hstatus : system.threads thread = status at houtside
  generalize hphase : phases thread = phase at houtside
  cases houtside with
  | idle =>
      have houtside : object.Outside (system.threads thread) (phases thread) := by
        rw [hstatus, hphase]
        exact .idle
      rw [System.move_resume_idle object.body hstatus]
      exact Or.inr ⟨_, _, _, Quiet.stay houtside state⟩
  | leaving op result => exact Or.inr ⟨_, _, _, Quiet.answer hstatus hphase state⟩
  | waiting op =>
      have houtside : object.Outside (system.threads thread) (phases thread) := by
        rw [hstatus, hphase]
        exact .waiting op
      have hserves := object.serves op
      generalize object.body op = code at hserves hstatus
      cases hserves with
      | unlocked result hspec =>
          exact Or.inr ⟨_, _, _, Quiet.answer_unlocked hstatus hphase (hspec state)⟩
      | locked inner hexec =>
          rw [withLock_eq_act] at hstatus
          have hmove := System.move_resume_act object.body hstatus
          cases hlocked : system.shared.locked with
          | true =>
              rw [compareExchange_held hlocked, if_neg Bool.false_ne_true] at hmove
              rw [hmove]
              exact Or.inr ⟨_, _, _, Quiet.stay houtside state⟩
          | false =>
              rw [compareExchange_free hlocked, if_pos rfl] at hmove
              exact Or.inl ⟨op, inner, rfl, rfl, hexec state, hmove⟩

/-- A call of a thread outside is quiet. -/
theorem call_outside {object : Guarded T τ ω ρ} {system : System ι (SpinLock T) ω ρ}
    {phases : ι → Phase ω ρ} {thread : ι} (hthread : system.threads thread = .idle)
    (houtside : object.Outside (system.threads thread) (phases thread)) (state : τ) (op : ω) :
    object.Quiet system (system.move object.body (.call thread op)).2
      (system.move object.body (.call thread op)).1 phases state thread [(thread, .call op)]
      (.running op (object.body op)) (.called op) where
  linearizes := by
    rw [hthread] at houtside
    generalize hphase : phases thread = phase at houtside
    cases houtside
    exact Linearizes.called _ _ hphase op
  visible := by rw [System.move_call_idle object.body hthread]; rfl
  next_eq := by rw [System.move_call_idle object.body hthread]
  outside := .waiting op

theorem Quiet.free {object : Guarded T τ ω ρ} {system next : System ι (SpinLock T) ω ρ}
    {event : Option (ι × Mark ω ρ)} {phases : ι → Phase ω ρ} {state : τ} {thread : ι}
    {trace : List (ι × Mark ω ρ)} {status : Thread (SpinLock T) ω ρ} {phase : Phase ω ρ}
    (hquiet : object.Quiet system next event phases state thread trace status phase)
    (hshared : system.shared = ⟨false, object.image state⟩)
    (houtside : ∀ thread, object.Outside (system.threads thread) (phases thread)) :
    object.Related next (Function.update phases thread phase) state := by
  rw [hquiet.next_eq]
  refine .free hshared fun other => ?_
  exact outside_update (fun _ => hquiet.outside) (fun _ => houtside other)

theorem Quiet.held {object : Guarded T τ ω ρ} {system next : System ι (SpinLock T) ω ρ}
    {event : Option (ι × Mark ω ρ)} {phases : ι → Phase ω ρ} {state : τ} {thread holder : ι}
    {trace : List (ι × Mark ω ρ)} {status : Thread (SpinLock T) ω ρ} {phase : Phase ω ρ} {op : ω}
    {result : ρ} {inner : Code T ρ}
    (hquiet : object.Quiet system next event phases state thread trace status phase)
    (hne : holder ≠ thread) (hlocked : system.shared.locked = true)
    (hthread : system.threads holder = .running op (inside inner))
    (hphase : phases holder = .committed op result)
    (hexec : inner.exec system.shared.data = some (result, object.image state))
    (houtside : ∀ other, other ≠ holder → object.Outside (system.threads other) (phases other)) :
    object.Related next (Function.update phases thread phase) state := by
  rw [hquiet.next_eq]
  refine .held holder op result inner hlocked ?_ ?_ hexec fun other hother => ?_
  · exact (Function.update_of_ne hne _ _).trans hthread
  · exact (Function.update_of_ne hne _ _).trans hphase
  · exact outside_update (fun _ => hquiet.outside) (fun _ => houtside other hother)

/-- The holder's move: one more access of its section, or the drop. -/
theorem resume_holder {object : Guarded T τ ω ρ} {system : System ι (SpinLock T) ω ρ}
    {phases : ι → Phase ω ρ} {state : τ} {holder : ι} {op : ω} {result : ρ} {inner : Code T ρ}
    (hlocked : system.shared.locked = true)
    (hthread : system.threads holder = .running op (inside inner))
    (hphase : phases holder = .committed op result)
    (hexec : inner.exec system.shared.data = some (result, object.image state))
    (houtside : ∀ other, other ≠ holder → object.Outside (system.threads other) (phases other)) :
    (system.move object.body (.resume holder)).1 = none ∧
      object.Related (system.move object.body (.resume holder)).2 phases state := by
  cases inner with
  | ret value =>
      obtain ⟨rfl, hdata⟩ := Prod.mk.inj (Option.some.inj hexec)
      rw [inside_ret] at hthread
      rw [System.move_resume_act object.body hthread, if_pos rfl]
      refine ⟨rfl, .free (by rw [unlocked, hdata]) fun other => ?_⟩
      by_cases hother : other = holder
      · simpa only [hother, Function.update_self, hphase] using .leaving op value
      · simpa only [Function.update_of_ne hother] using houtside other hother
  | act ready effect next =>
      rw [Code.exec] at hexec
      split at hexec
      · rename_i hready
        rw [inside_act] at hthread
        rw [System.move_resume_act object.body hthread, if_pos hready]
        refine ⟨rfl, .held holder op result (next system.shared.data) hlocked ?_ hphase hexec
          fun other hother => ?_⟩
        · exact Function.update_self _ _ _
        · simpa only [Function.update_of_ne hother] using houtside other hother
      · cases hexec

/-- Every move is explained. -/
theorem related_move {object : Guarded T τ ω ρ} {system : System ι (SpinLock T) ω ρ}
    {phases : ι → Phase ω ρ} {state : τ} (step : Move ι ω)
    (hrelated : object.Related system phases state) :
    ∃ trace final after, Linearizes object.spec phases state trace final after ∧
      visibleMarks trace = ((system.move object.body step).1).toList ∧
      object.Related (system.move object.body step).2 final after := by
  cases step with
  | call thread op =>
      cases hthread : system.threads thread with
      | running inner code =>
          rw [System.move_call_running object.body hthread]
          exact ⟨[], phases, state, Linearizes.nothing _ _ _, rfl, hrelated⟩
      | idle =>
          cases hrelated with
          | free hshared houtside =>
              have hquiet := call_outside hthread (houtside thread) state op
              exact ⟨_, _, _, hquiet.linearizes, hquiet.visible, hquiet.free hshared houtside⟩
          | held holder inner result code hlocked hholder hphase hexec houtside =>
              have hne : holder ≠ thread := by
                rintro rfl
                rw [hthread] at hholder
                cases hholder
              have hquiet := call_outside hthread (houtside thread hne.symm) state op
              exact ⟨_, _, _, hquiet.linearizes, hquiet.visible,
                hquiet.held hne hlocked hholder hphase hexec houtside⟩
  | resume thread =>
      cases hrelated with
      | free hshared houtside =>
          rcases resume_outside (houtside thread) state with
            ⟨op, inner, hphase, _, hexec, hmove⟩ | ⟨trace, status, phase, hquiet⟩
          · rw [hmove]
            refine ⟨_, _, _, Linearizes.committed _ _ hphase, rfl, ?_⟩
            refine .held thread op _ inner rfl (Function.update_self _ _ _)
              (Function.update_self _ _ _) ?_ fun other hother => ?_
            · rw [hshared]
              exact hexec
            · exact outside_update (fun hsame => absurd hsame hother) (fun _ => houtside other)
          · exact ⟨_, _, _, hquiet.linearizes, hquiet.visible, hquiet.free hshared houtside⟩
      | held holder op result inner hlocked hholder hphase hexec houtside =>
          by_cases hne : holder = thread
          · subst hne
            obtain ⟨hevent, hnext⟩ := resume_holder hlocked hholder hphase hexec houtside
            rw [hevent]
            exact ⟨[], phases, state, Linearizes.nothing _ _ _, rfl, hnext⟩
          · rcases resume_outside (houtside thread (Ne.symm hne)) state with
              ⟨_, _, _, hfree, _, _⟩ | ⟨trace, status, phase, hquiet⟩
            · rw [hlocked] at hfree
              cases hfree
            · exact ⟨_, _, _, hquiet.linearizes, hquiet.visible,
                hquiet.held hne hlocked hholder hphase hexec houtside⟩

/-- Every interleaving of any clients is a sequence of calls: the history has a
sequential explanation, and whenever the lock is free the data are those the
sequence leaves. -/
theorem run_explained (object : Guarded T τ ω ρ) (state : τ) (moves : List (Move ι ω)) :
    ∃ trace final after, Linearizes object.spec (fun _ => .idle) state trace final after ∧
      visibleMarks trace = System.history (runAll (System.move object.body)
        (System.start (SpinLock.new (object.image state))) moves).1 ∧
      object.Related (runAll (System.move object.body)
        (System.start (SpinLock.new (object.image state))) moves).2 final after :=
  System.run_linearizes (fun _ _ _ step hrelated => related_move step hrelated) moves
    (object.start_related state)

omit [DecidableEq ι] in
theorem Related.data_eq {object : Guarded T τ ω ρ} {system : System ι (SpinLock T) ω ρ}
    {phases : ι → Phase ω ρ} {state : τ} (hrelated : object.Related system phases state)
    (hfree : system.shared.locked = false) : system.shared.data = object.image state := by
  cases hrelated with
  | free hshared _ => rw [hshared]
  | held _ _ _ _ hlocked _ _ _ _ =>
      rw [hlocked] at hfree
      cases hfree

/-- The system can get there if the threads that are in a call go on. -/
def Reaches (object : Guarded T τ ω ρ) (system next : System ι (SpinLock T) ω ρ) : Prop :=
  ∃ threads : List ι, (runAll (System.move object.body) system (threads.map .resume)).2 = next

theorem Reaches.refl (object : Guarded T τ ω ρ) (system : System ι (SpinLock T) ω ρ) :
    object.Reaches system system :=
  ⟨[], rfl⟩

theorem Reaches.trans {object : Guarded T τ ω ρ} {system middle next : System ι (SpinLock T) ω ρ}
    (hfirst : object.Reaches system middle) (hsecond : object.Reaches middle next) :
    object.Reaches system next := by
  obtain ⟨threads, rfl⟩ := hfirst
  obtain ⟨later, rfl⟩ := hsecond
  exact ⟨threads ++ later, by rw [List.map_append, runAll_append]⟩

theorem Reaches.resume (object : Guarded T τ ω ρ) (system : System ι (SpinLock T) ω ρ)
    (thread : ι) : object.Reaches system (system.move object.body (.resume thread)).2 :=
  ⟨[thread], rfl⟩

/-- A thread with a result returns. -/
theorem reaches_answer {object : Guarded T τ ω ρ} {system : System ι (SpinLock T) ω ρ} {thread : ι}
    {op : ω} {result : ρ} (hthread : system.threads thread = .running op (.ret result)) :
    object.Reaches system (system.setThread thread .idle) := by
  have hresume := Reaches.resume object system thread
  rwa [System.move_resume_ret object.body hthread] at hresume

/-- A thread in a section that never waits leaves it, drops the lock and
returns. -/
theorem reaches_leave (object : Guarded T τ ω ρ) {holder : ι} {op : ω} {result : ρ} {value : T}
    (inner : Code T ρ) (system : System ι (SpinLock T) ω ρ) (hlocked : system.shared.locked = true)
    (hthread : system.threads holder = .running op (inside inner))
    (hexec : inner.exec system.shared.data = some (result, value)) :
    object.Reaches system ⟨⟨false, value⟩, Function.update system.threads holder .idle⟩ := by
  have hresume := Reaches.resume object system holder
  induction inner generalizing system with
  | ret finished =>
      obtain ⟨rfl, hdata⟩ := Prod.mk.inj (Option.some.inj hexec)
      rw [inside_ret] at hthread
      rw [System.move_resume_act object.body hthread, if_pos rfl] at hresume
      have hanswer := hresume.trans (reaches_answer (Function.update_self _ _ _))
      rwa [System.setThread, Function.update_idem, unlocked, hdata] at hanswer
  | act ready effect next ih =>
      rw [Code.exec] at hexec
      split at hexec
      · rename_i hready
        rw [inside_act] at hthread
        rw [System.move_resume_act object.body hthread, if_pos hready] at hresume
        let middle : System ι (SpinLock T) ω ρ :=
          ⟨{ system.shared with data := effect system.shared.data },
            Function.update system.threads holder (.running op (inside (next system.shared.data)))⟩
        have hrest :
            object.Reaches middle ⟨⟨false, value⟩, Function.update middle.threads holder .idle⟩ :=
          ih system.shared.data middle hlocked (Function.update_self _ _ _) hexec
            (Reaches.resume object middle holder)
        rw [Function.update_idem] at hrest
        exact hresume.trans hrest
      · cases hexec

/-- With the lock free, a thread outside finishes the call it is in. -/
theorem reaches_idle {object : Guarded T τ ω ρ} {threads : ι → Thread (SpinLock T) ω ρ} {thread : ι}
    {phase : Phase ω ρ} (state : τ) (houtside : object.Outside (threads thread) phase) :
    ∃ after, object.Reaches ⟨⟨false, object.image state⟩, threads⟩
      ⟨⟨false, object.image after⟩, Function.update threads thread .idle⟩ := by
  generalize hstatus : threads thread = status at houtside
  cases houtside with
  | idle =>
      refine ⟨state, ?_⟩
      rw [← hstatus, Function.update_eq_self]
      exact Reaches.refl object _
  | leaving op result => exact ⟨state, reaches_answer hstatus⟩
  | waiting op =>
      have hserves := object.serves op
      generalize object.body op = code at hserves hstatus
      cases hserves with
      | unlocked result hspec => exact ⟨state, reaches_answer hstatus⟩
      | locked inner hexec =>
          have hresume := Reaches.resume object ⟨⟨false, object.image state⟩, threads⟩ thread
          rw [withLock_eq_act] at hstatus
          rw [System.move_resume_act object.body hstatus, compareExchange_free rfl, if_pos rfl]
            at hresume
          let entered : System ι (SpinLock T) ω ρ :=
            ⟨⟨true, object.image state⟩,
              Function.update threads thread (.running op (inside inner))⟩
          have hleave := reaches_leave object inner entered rfl
            (Function.update_self _ _ _) (hexec state)
          rw [Function.update_idem] at hleave
          exact ⟨_, hresume.trans hleave⟩

/-- Every thread of the system is without the lock, which is free. -/
def Open (object : Guarded T τ ω ρ) (system : System ι (SpinLock T) ω ρ) : Prop :=
  (∃ state, system.shared = ⟨false, object.image state⟩) ∧
    ∀ thread, ∃ phase, object.Outside (system.threads thread) phase

theorem reaches_all_idle {object : Guarded T τ ω ρ} (threads : List ι)
    {system : System ι (SpinLock T) ω ρ} (hopen : object.Open system) :
    ∃ next, object.Reaches system next ∧ ∀ thread,
      next.threads thread = .idle ∨
        thread ∉ threads ∧ next.threads thread = system.threads thread := by
  induction threads generalizing system with
  | nil => exact ⟨system, Reaches.refl object system, fun _ => Or.inr ⟨by simp, rfl⟩⟩
  | cons first threads ih =>
      obtain ⟨shared, statuses⟩ := system
      obtain ⟨⟨state, rfl⟩, houtside⟩ := hopen
      obtain ⟨phase, hfirst⟩ := houtside first
      obtain ⟨after, hreaches⟩ := reaches_idle state hfirst
      have hafter :
          object.Open ⟨⟨false, object.image after⟩, Function.update statuses first .idle⟩ := by
        refine ⟨⟨after, rfl⟩, fun thread => ?_⟩
        by_cases hthread : thread = first
        · exact ⟨.idle, by simpa only [hthread, Function.update_self] using .idle⟩
        · simpa only [Function.update_of_ne hthread] using houtside thread
      obtain ⟨next, hrest, hidle⟩ := ih hafter
      refine ⟨next, hreaches.trans hrest, fun thread => ?_⟩
      rcases hidle thread with hdone | ⟨hlater, hsame⟩
      · exact Or.inl hdone
      · by_cases hthread : thread = first
        · rw [hthread] at hsame ⊢
          exact Or.inl (hsame.trans (Function.update_self _ _ _))
        · exact Or.inr ⟨by simp [hthread, hlater], hsame.trans (Function.update_of_ne hthread _ _)⟩

/-- From wherever a run is, the lock can become free. -/
theorem Related.reaches_open {object : Guarded T τ ω ρ} {system : System ι (SpinLock T) ω ρ}
    {phases : ι → Phase ω ρ} {state : τ} (hrelated : object.Related system phases state) :
    ∃ next, object.Reaches system next ∧ object.Open next ∧
      ∀ thread, next.threads thread = .idle ∨ next.threads thread = system.threads thread := by
  cases hrelated with
  | free hshared houtside =>
      exact ⟨system, Reaches.refl object system,
        ⟨⟨state, hshared⟩, fun thread => ⟨phases thread, houtside thread⟩⟩, fun _ => Or.inr rfl⟩
  | held holder op result inner hlocked hthread hphase hexec houtside =>
      refine ⟨_, reaches_leave object inner system hlocked hthread hexec,
        ⟨⟨state, rfl⟩, fun thread => ?_⟩,
        fun thread => ?_⟩
      · by_cases hholder : thread = holder
        · exact ⟨.idle, by simpa only [hholder, Function.update_self] using .idle⟩
        · exact ⟨phases thread, by
            simpa only [Function.update_of_ne hholder] using houtside thread hholder⟩
      · by_cases hholder : thread = holder
        · exact Or.inl (by rw [hholder]; exact Function.update_self _ _ _)
        · exact Or.inr (Function.update_of_ne hholder _ _)

/-- No interleaving gets stuck: from wherever a run is, the calls in progress
can all be finished without a new one being made. -/
theorem run_completes (object : Guarded T τ ω ρ) (state : τ) (moves : List (Move ι ω)) :
    ∃ later : List ι, ∀ thread,
      (runAll (System.move object.body) (System.start (SpinLock.new (object.image state)))
        (moves ++ later.map .resume)).2.threads thread = .idle := by
  obtain ⟨_, _, _, _, _, hrelated⟩ := object.run_explained state moves
  obtain ⟨middle, hfirst, hopen, hmiddle⟩ := hrelated.reaches_open
  obtain ⟨next, hsecond, hidle⟩ := reaches_all_idle (moves.map Move.thread) hopen
  obtain ⟨later, hlater⟩ := hfirst.trans hsecond
  refine ⟨later, fun thread => ?_⟩
  rw [runAll_append, hlater]
  rcases hidle thread with hdone | ⟨hnot, hsame⟩
  · exact hdone
  · rcases hmiddle thread with hdone | hunmoved
    · rw [hsame, hdone]
    · rw [hsame, hunmoved, System.run_threads_other object.body _ hnot]
      rfl

end Guarded

end UnboundOS.Sync
