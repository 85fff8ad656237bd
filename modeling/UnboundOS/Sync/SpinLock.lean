import UnboundOS.Base.Interleaving

/-!
The spinlock of `sync/spinlock.rs`: an atomic flag and the data behind it. The
atomics are taken as sequentially consistent; the source's acquire on the
successful compare-exchange and release on the drop order the data accesses
in between, which are the only other ones.

A client of the lock is a program that reaches the data through a guard. That
a guard is needed for an access and consumed by its drop is what the borrow
checker enforces in the source; here the type of a program says whether it
holds a guard.
-/

namespace UnboundOS.Sync

structure SpinLock (T : Type) where
  locked : Bool
  data : T

namespace SpinLock

variable {T ρ α β : Type}

def new (value : T) : SpinLock T := ⟨false, value⟩

/-- `compare_exchange(false, true)`: the new memory, and whether it was ours. -/
def compareExchange (self : SpinLock T) : Bool × SpinLock T :=
  if self.locked then (false, self) else (true, { self with locked := true })

/-- The guard is dropped. -/
def unlocked (self : SpinLock T) : SpinLock T := { self with locked := false }

/-- The loop around the compare-exchange: it is tried again until it succeeds. -/
def lock : Code (SpinLock T) Unit :=
  .act (fun self => self.compareExchange.1) (fun self => self.compareExchange.2) (fun _ => pure ())

def tryLock : Code (SpinLock T) Bool :=
  .act (fun _ => true) (fun self => self.compareExchange.2)
    (fun self => pure self.compareExchange.1)

def isLocked : Code (SpinLock T) Bool := .load SpinLock.locked

def drop : Code (SpinLock T) Unit := .store unlocked

/-- What `Deref` and `DerefMut` of the guard reach. -/
def guard : Lens (SpinLock T) T where
  get self := self.data
  set value self := { self with data := value }
  get_set _ _ := rfl
  set_get _ := rfl
  set_set _ _ _ := rfl

/-- The section between two accesses to the flag: code on the data, then the
drop of the guard. -/
def inside (body : Code T ρ) : Code (SpinLock T) ρ := do
  let result ← body.zoom guard
  drop
  return result

/-- `let guard = self.lock(); ...` to the end of the scope; every way out of the
body drops the guard. -/
def withLock (body : Code T ρ) : Code (SpinLock T) ρ := do
  lock
  inside body

theorem compareExchange_free {self : SpinLock T} (hfree : self.locked = false) :
    self.compareExchange = (true, { self with locked := true }) := by
  simp [compareExchange, hfree]

theorem compareExchange_held {self : SpinLock T} (hheld : self.locked = true) :
    self.compareExchange = (false, self) := by
  simp [compareExchange, hheld]

theorem map_withLock (change : α → β) (body : Code T α) :
    change <$> withLock body = withLock (change <$> body) := by
  rw [withLock, withLock, Code.map_bind]
  congr 1
  funext _
  rw [inside, inside, Code.map_bind, Code.zoom_map, Code.bind_map]
  rfl

/-- Alone and with the lock free, a section does what its body does. -/
theorem exec_withLock {body : Code T ρ} {value next : T} {result : ρ}
    (hbody : body.exec value = some (result, next)) :
    (withLock body).exec ⟨false, value⟩ = some (result, ⟨false, next⟩) := by
  have hsection : (inside body).exec ⟨true, value⟩ = some (result, ⟨false, next⟩) := by
    rw [inside, Code.exec_bind, Code.exec_zoom]
    simp only [guard, hbody, Option.map_some, Option.bind_some, drop, Code.exec_bind,
      Code.exec_store, unlocked, Code.exec_pure]
  rw [withLock, Code.exec_bind]
  simpa [lock, Code.exec, compareExchange] using hsection

end SpinLock

/-- A program that uses one lock, and whether it holds a guard. It may ask for
the lock while it holds it, and then waits for itself. -/
inductive Client (T ρ : Type) : Bool → Type where
  | done (result : ρ) : Client T ρ false
  | lock {held : Bool} (next : Client T ρ true) : Client T ρ held
  | tryLock {held : Bool} (next : (won : Bool) → Client T ρ (held || won)) : Client T ρ held
  | isLocked {held : Bool} (next : Bool → Client T ρ held) : Client T ρ held
  | access (effect : T → T) (next : T → Client T ρ true) : Client T ρ true
  | drop (next : Client T ρ false) : Client T ρ true

namespace Client

variable {T ρ : Type}

/-- The program in terms of the lock's methods. -/
def code : {held : Bool} → Client T ρ held → Code (SpinLock T) ρ
  | _, .done result => pure result
  | _, .lock next => do SpinLock.lock; next.code
  | _, .tryLock next => do
      let won ← SpinLock.tryLock
      (next won).code
  | _, .isLocked next => do
      let locked ← SpinLock.isLocked
      (next locked).code
  | _, .access effect next =>
      .act (fun _ => true) (fun self => { self with data := effect self.data })
        (fun self => (next self.data).code)
  | _, .drop next => do SpinLock.drop; next.code

/-- One access of the program, with what it holds after it. -/
def step : {held : Bool} → Client T ρ held → SpinLock T →
    ((held : Bool) × Client T ρ held) × SpinLock T
  | _, .done result, memory => (⟨false, .done result⟩, memory)
  | held, .lock next, memory =>
      if memory.compareExchange.1 then (⟨true, next⟩, memory.compareExchange.2)
      else (⟨held, .lock next⟩, memory)
  | held, .tryLock next, memory =>
      (⟨held || memory.compareExchange.1, next memory.compareExchange.1⟩, memory.compareExchange.2)
  | held, .isLocked next, memory => (⟨held, next memory.locked⟩, memory)
  | _, .access effect next, memory =>
      (⟨true, next memory.data⟩, { memory with data := effect memory.data })
  | _, .drop next, memory => (⟨false, next⟩, memory.unlocked)

/-- The same for a thread, which is a program and what it holds. -/
def advance (thread : (held : Bool) × Client T ρ held) (memory : SpinLock T) :
    ((held : Bool) × Client T ρ held) × SpinLock T :=
  thread.2.step memory

/-- The steps of a program are the accesses its code makes. -/
theorem resume_code {held : Bool} (client : Client T ρ held) (memory : SpinLock T) :
    client.code.resume memory = ((client.step memory).1.2.code, (client.step memory).2) := by
  cases client with
  | done result => rfl
  | lock next =>
      simp only [code, step, SpinLock.lock, Bind.bind, Code.bind, Code.resume]
      cases memory.compareExchange.1 <;> rfl
  | tryLock next => rfl
  | isLocked next => rfl
  | access effect next => rfl
  | drop next => rfl

/-- A program that holds no guard leaves the data alone, and the flag as long as
it is set. -/
theorem step_without_guard (client : Client T ρ false) {memory : SpinLock T}
    (hlocked : memory.locked = true) :
    (client.step memory).2 = memory ∧ (client.step memory).1.1 = false := by
  have hheld := SpinLock.compareExchange_held hlocked
  cases client with
  | done result => exact ⟨rfl, rfl⟩
  | lock next => simp [step, hheld]
  | tryLock next => simp [step, hheld]
  | isLocked next => exact ⟨rfl, rfl⟩

/-- On a free lock, a program without a guard has one after its step exactly if
the flag is set after it. -/
theorem step_free (client : Client T ρ false) {memory : SpinLock T}
    (hfree : memory.locked = false) :
    (client.step memory).1.1 = (client.step memory).2.locked ∧
      (client.step memory).2.data = memory.data := by
  have hwon := SpinLock.compareExchange_free hfree
  cases client with
  | done result => simp [step, hfree]
  | lock next => simp [step, hwon]
  | tryLock next => simp [step, hwon]
  | isLocked next => simp [step, hfree]

/-- The holder of the guard has it after its step exactly if the flag is still
set. -/
theorem step_with_guard (client : Client T ρ true) {memory : SpinLock T}
    (hlocked : memory.locked = true) :
    (client.step memory).1.1 = (client.step memory).2.locked := by
  have hheld := SpinLock.compareExchange_held hlocked
  cases client with
  | lock next => simp [step, hheld, hlocked]
  | tryLock next => simp [step, hheld, hlocked]
  | isLocked next => simp [step, hlocked]
  | access effect next => simp [step, hlocked]
  | drop next => rfl

end Client

/-- Threads that run clients of one lock. -/
structure Contest (ι T ρ : Type) where
  memory : SpinLock T
  threads : ι → (held : Bool) × Client T ρ held

namespace Contest

variable {ι T ρ : Type}

/-- Every thread starts without a guard. -/
def start (value : T) (programs : ι → Client T ρ false) : Contest ι T ρ :=
  ⟨SpinLock.new value, fun thread => ⟨false, programs thread⟩⟩

def holds (self : Contest ι T ρ) (thread : ι) : Bool := (self.threads thread).1

/-- The threads in terms of the lock's methods. -/
def codes (self : Contest ι T ρ) (thread : ι) : Code (SpinLock T) ρ :=
  (self.threads thread).2.code

variable [DecidableEq ι]

def step (self : Contest ι T ρ) (thread : ι) : Contest ι T ρ :=
  let (next, memory) := Client.advance (self.threads thread) self.memory
  ⟨memory, Function.update self.threads thread next⟩

/-- A run, with the threads in the order in which they move. -/
def run (self : Contest ι T ρ) (moves : List ι) : Contest ι T ρ := moves.foldl step self

/-- The flag is set exactly while one thread holds a guard. -/
structure Exclusive (contest : Contest ι T ρ) : Prop where
  locked_iff : contest.memory.locked = true ↔ ∃ thread, contest.holds thread = true
  unique : ∀ first second, contest.holds first = true → contest.holds second = true →
    first = second

omit [DecidableEq ι] in
theorem start_exclusive (value : T) (programs : ι → Client T ρ false) :
    (start value programs).Exclusive := by
  constructor
  · simp [start, SpinLock.new, holds]
  · simp [start, holds]

theorem step_threads_self (self : Contest ι T ρ) (thread : ι) :
    (self.step thread).threads thread = (Client.advance (self.threads thread) self.memory).1 :=
  Function.update_self _ _ _

theorem step_memory (self : Contest ι T ρ) (thread : ι) :
    (self.step thread).memory = (Client.advance (self.threads thread) self.memory).2 := rfl

theorem step_threads_other (self : Contest ι T ρ) {thread other : ι} (hother : other ≠ thread) :
    (self.step thread).threads other = self.threads other :=
  Function.update_of_ne hother _ _

theorem step_holds_other (self : Contest ι T ρ) {thread other : ι} (hother : other ≠ thread) :
    (self.step thread).holds other = self.holds other := by
  rw [holds, step_threads_other self hother, holds]

omit [DecidableEq ι] in
/-- The program of a thread, with what it holds known. -/
theorem threads_eq {self : Contest ι T ρ} {thread : ι} {held : Bool}
    (hheld : self.holds thread = held) :
    ∃ client : Client T ρ held, self.threads thread = ⟨held, client⟩ := by
  obtain ⟨memory, threads⟩ := self
  rw [← hheld]
  exact ⟨(threads thread).2, rfl⟩

/-- Exclusion is kept if the thread that moves has a guard after its move
exactly if the flag is set, and no other thread has one. -/
theorem exclusive_of_mover {self : Contest ι T ρ} (thread : ι)
    (hself : self.holds thread = self.memory.locked)
    (hothers : ∀ other, other ≠ thread → self.holds other = false) : self.Exclusive := by
  constructor
  · rw [← hself]
    refine ⟨fun hholds => ⟨thread, hholds⟩, ?_⟩
    rintro ⟨other, hholds⟩
    by_cases hother : other = thread
    · rwa [hother] at hholds
    · simp [hothers other hother] at hholds
  · have honly : ∀ other, self.holds other = true → other = thread := by
      intro other hholds
      by_contra hother
      simp [hothers other hother] at hholds
    intro first second hfirst hsecond
    rw [honly first hfirst, honly second hsecond]

/-- While one thread holds the guard, a step of another changes nothing but
that other thread's own program. -/
theorem step_of_held {self : Contest ι T ρ} (hself : self.Exclusive) {holder thread : ι}
    (hholder : self.holds holder = true) (hother : thread ≠ holder) :
    (self.step thread).memory = self.memory ∧ (self.step thread).holds thread = false := by
  have hlocked : self.memory.locked = true := hself.locked_iff.mpr ⟨holder, hholder⟩
  have hheld : self.holds thread = false := by
    rw [Bool.eq_false_iff]
    intro hholds
    exact hother (hself.unique thread holder hholds hholder)
  obtain ⟨client, hclient⟩ := threads_eq hheld
  have hstep := client.step_without_guard hlocked
  constructor
  · rw [step_memory, hclient]
    exact hstep.1
  · rw [holds, step_threads_self, hclient]
    exact hstep.2

theorem step_exclusive {self : Contest ι T ρ} (hself : self.Exclusive) (thread : ι) :
    (self.step thread).Exclusive := by
  by_cases hheld : ∃ holder, holder ≠ thread ∧ self.holds holder = true
  · obtain ⟨holder, hne, hholder⟩ := hheld
    obtain ⟨hmemory, hmover⟩ := step_of_held hself hholder hne.symm
    have hafter : (self.step thread).holds holder = true := by
      rwa [step_holds_other self hne]
    apply exclusive_of_mover holder
    · rw [hafter, hmemory]
      exact (hself.locked_iff.mpr ⟨holder, hholder⟩).symm
    · intro other hother
      by_cases hthread : other = thread
      · rwa [hthread]
      · rw [step_holds_other self hthread, Bool.eq_false_iff]
        intro hholds
        exact hother (hself.unique other holder hholds hholder)
  · push Not at hheld
    have hothers : ∀ other, other ≠ thread → (self.step thread).holds other = false := by
      intro other hother
      rw [step_holds_other self hother, Bool.eq_false_iff]
      exact hheld other hother
    apply exclusive_of_mover thread _ hothers
    rw [holds, step_threads_self, step_memory]
    cases hholds : self.holds thread with
    | true =>
        obtain ⟨client, hclient⟩ := threads_eq hholds
        have hlocked := hself.locked_iff.mpr ⟨thread, hholds⟩
        rw [hclient]
        exact client.step_with_guard hlocked
    | false =>
        obtain ⟨client, hclient⟩ := threads_eq hholds
        have hfree : self.memory.locked = false := by
          rw [Bool.eq_false_iff]
          intro hlocked
          obtain ⟨holder, hholder⟩ := hself.locked_iff.mp hlocked
          by_cases hsame : holder = thread
          · rw [hsame, hholds] at hholder
            cases hholder
          · exact hheld holder hsame hholder
        rw [hclient]
        exact (client.step_free hfree).1

theorem run_exclusive {self : Contest ι T ρ} (hself : self.Exclusive) (moves : List ι) :
    (self.run moves).Exclusive := by
  induction moves generalizing self with
  | nil => exact hself
  | cons thread moves ih => exact ih (step_exclusive hself thread)

/-- As long as a thread holds its guard, the lock and the thread are where its
own moves alone bring them. -/
theorem run_solo {self alone : Contest ι T ρ} (hself : self.Exclusive) {holder : ι}
    (hmemory : self.memory = alone.memory)
    (hthread : self.threads holder = alone.threads holder) (moves : List ι)
    (hholds : ∀ earlier later, moves = earlier ++ later → (self.run earlier).holds holder = true) :
    (self.run moves).memory = (alone.run (moves.filter (· = holder))).memory ∧
      (self.run moves).threads holder = (alone.run (moves.filter (· = holder))).threads holder := by
  induction moves generalizing self alone with
  | nil => exact ⟨hmemory, hthread⟩
  | cons thread moves ih =>
      have hnext : ∀ earlier later, moves = earlier ++ later →
          ((self.step thread).run earlier).holds holder = true := by
        intro earlier later hsplit
        exact hholds (thread :: earlier) later (by rw [hsplit, List.cons_append])
      have hholder : self.holds holder = true := hholds [] (thread :: moves) rfl
      by_cases hsame : thread = holder
      · subst hsame
        rw [List.filter_cons_of_pos (by simp)]
        apply ih (step_exclusive hself thread) _ _ hnext
        · rw [step_memory, step_memory, hthread, hmemory]
        · rw [step_threads_self, step_threads_self, hthread, hmemory]
      · rw [List.filter_cons_of_neg (by simpa using hsame)]
        apply ih (step_exclusive hself thread) _ _ hnext
        · rw [(step_of_held hself hholder hsame).1, hmemory]
        · rw [step_threads_other self (Ne.symm hsame), hthread]

theorem step_codes (self : Contest ι T ρ) (thread : ι) :
    (self.step thread).codes = Function.update self.codes thread
      ((self.codes thread).resume self.memory).1 := by
  rw [codes, Client.resume_code]
  funext other
  by_cases hother : other = thread
  · rw [hother, Function.update_self, codes, step_threads_self]
    rfl
  · rw [Function.update_of_ne hother, codes, step_threads_other self hother]
    rfl

/-- A run is an interleaving of the codes, access by access. -/
theorem run_interleaves (self : Contest ι T ρ) (moves : List ι) :
    Code.interleave self.codes self.memory moves =
      ((self.run moves).codes, (self.run moves).memory) := by
  induction moves generalizing self with
  | nil => rfl
  | cons thread moves ih =>
      have hmemory : ((self.codes thread).resume self.memory).2 = (self.step thread).memory := by
        rw [codes, Client.resume_code]
        rfl
      rw [Code.interleave, ← step_codes, hmemory]
      exact ih (self.step thread)

/-- Whatever programs the threads run on the methods of the lock and in whatever
order they make their accesses: at most one thread holds a guard, the flag is set
exactly while one does, and while a thread keeps its guard the data are what its
own accesses alone make of them. -/
theorem spinLock_isolates (value : T) (programs : ι → Client T ρ false) (moves : List ι) :
    Code.interleave (fun thread => (programs thread).code) (SpinLock.new value) moves =
      (((start value programs).run moves).codes, ((start value programs).run moves).memory) ∧
    ((start value programs).run moves).Exclusive ∧
    ∀ holder later,
      (∀ earlier rest, later = earlier ++ rest →
        (((start value programs).run moves).run earlier).holds holder = true) →
      (((start value programs).run moves).run later).memory =
          (((start value programs).run moves).run (later.filter (· = holder))).memory ∧
        (((start value programs).run moves).run later).threads holder =
          (((start value programs).run moves).run (later.filter (· = holder))).threads holder := by
  have hreached := run_exclusive (start_exclusive value programs) moves
  exact ⟨run_interleaves (start value programs) moves, hreached,
    fun holder later hholds => run_solo hreached rfl rfl later hholds⟩

/-- Two threads that each add to a counter: the second waits while the first is
between its lock and its drop. -/
theorem spinLock_isolates_counter :
    let program : Client Nat Nat false := .lock (.access (· + 1) fun before => .drop (.done before))
    let reached := (start 0 fun _ : Fin 2 => program).run [0]
    (reached.run [1, 0, 1]).memory = (reached.run [0]).memory := by
  refine ((spinLock_isolates 0 _ [0]).2.2 0 [1, 0, 1] ?_).1
  intro earlier rest hsplit
  have hmem : earlier ∈ List.inits [(1 : Fin 2), 0, 1] :=
    (List.mem_inits _ _).mpr ⟨rest, hsplit.symm⟩
  simp only [List.inits, List.map_cons, List.map_nil, List.mem_cons, List.not_mem_nil,
    or_false] at hmem
  rcases hmem with rfl | rfl | rfl | rfl <;> rfl

end Contest

end UnboundOS.Sync
