import Mathlib.Data.List.Basic
import Mathlib.Order.Lattice

/-!
A program that feeds a slower device through a bounded outbox. The program
waits until the outbox is empty or puts an item into it, the device takes the
items out one by one, and a schedule says who moves next. An item that finds
the outbox full costs one item, and which one is the device's choice.

Two rules hold for every schedule. What a run can lose is bounded by a number
read off the program alone, so a program that waits often enough loses nothing.
And every fair schedule brings the program to its end and the outbox to the
device.
-/

namespace UnboundOS

variable {α : Type}

/-- One instruction of the program. -/
inductive Feed (α : Type) where
  /-- Wait until the outbox is empty. -/
  | wait
  /-- Put an item into the outbox. -/
  | put (item : α)
deriving DecidableEq, Repr

namespace Feed

/-- Everything the program puts into the outbox. -/
def items (program : List (Feed α)) : List α :=
  program.filterMap fun
    | .wait => none
    | .put item => some item

/-- The puts that find the outbox full if the device never takes anything. A wait
makes room for a full outbox. -/
def overrun (capacity : Nat) : Nat → List (Feed α) → Nat
  | _, [] => 0
  | _, .wait :: rest => overrun capacity capacity rest
  | 0, .put _ :: rest => overrun capacity 0 rest + 1
  | room + 1, .put _ :: rest => overrun capacity room rest

@[simp] theorem items_nil : items ([] : List (Feed α)) = [] := rfl

@[simp] theorem items_wait (rest : List (Feed α)) : items (.wait :: rest) = items rest := rfl

@[simp] theorem items_put (item : α) (rest : List (Feed α)) :
    items (.put item :: rest) = item :: items rest := rfl

@[simp] theorem items_append (first second : List (Feed α)) :
    items (first ++ second) = items first ++ items second :=
  List.filterMap_append

@[simp] theorem items_map_put (list : List α) : items (list.map .put) = list := by
  induction list with
  | nil => rfl
  | cons item rest ih => rw [List.map_cons, items_put, ih]

@[simp] theorem overrun_nil (capacity room : Nat) :
    overrun capacity room ([] : List (Feed α)) = 0 := by
  cases room <;> rfl

@[simp] theorem overrun_wait (capacity room : Nat) (rest : List (Feed α)) :
    overrun capacity room (.wait :: rest) = overrun capacity capacity rest := by
  cases room <;> rfl

theorem overrun_put (capacity room : Nat) (item : α) (rest : List (Feed α)) :
    overrun capacity room (.put item :: rest) =
      overrun capacity (room - 1) rest + if room = 0 then 1 else 0 := by
  cases room <;> rfl

/-- One place more saves one item at most. -/
theorem overrun_room (capacity room : Nat) (program : List (Feed α)) :
    overrun capacity (room + 1) program ≤ overrun capacity room program ∧
      overrun capacity room program ≤ overrun capacity (room + 1) program + 1 := by
  induction program generalizing room with
  | nil => simp
  | cons feed rest ih =>
      cases feed with
      | wait => simp
      | put item =>
          cases room with
          | zero => simp [overrun_put]
          | succ room =>
              obtain ⟨hfewer, hmore⟩ := ih room
              simp only [overrun_put, Nat.add_sub_cancel, Nat.succ_ne_zero, if_false, Nat.add_zero]
              exact ⟨hfewer, hmore⟩

theorem overrun_antitone (capacity : Nat) {room larger : Nat} (hroom : room ≤ larger)
    (program : List (Feed α)) :
    overrun capacity larger program ≤ overrun capacity room program := by
  induction hroom with
  | refl => exact le_refl _
  | step _ ih => exact (overrun_room capacity _ program).1.trans ih

/-- A program that waits first starts anew. -/
theorem overrun_append_wait (capacity room : Nat) (first rest : List (Feed α)) :
    overrun capacity room (first ++ .wait :: rest) =
      overrun capacity room first + overrun capacity capacity rest := by
  induction first generalizing room with
  | nil => simp
  | cons feed first ih =>
      cases feed with
      | wait => simp only [List.cons_append, overrun_wait, ih]
      | put item =>
          simp only [List.cons_append, overrun_put, ih]
          omega

/-- The program is empty or begins with a wait. -/
def Polite : List (Feed α) → Prop
  | .put _ :: _ => False
  | _ => True

theorem Polite.append {first second : List (Feed α)} (hfirst : Polite first)
    (hsecond : Polite second) : Polite (first ++ second) := by
  cases first with
  | nil => exact hsecond
  | cons feed first =>
      cases feed with
      | wait => trivial
      | put item => exact hfirst

theorem overrun_append {second : List (Feed α)} (hsecond : Polite second) (capacity room : Nat)
    (first : List (Feed α)) :
    overrun capacity room (first ++ second) =
      overrun capacity room first + overrun capacity capacity second := by
  cases second with
  | nil => simp
  | cons feed second =>
      cases feed with
      | wait => simp [overrun_append_wait]
      | put item => exact hsecond.elim

/-- A program that begins with a wait does not mind what it finds. -/
theorem Polite.overrun_eq {program : List (Feed α)} (hprogram : Polite program)
    (capacity room : Nat) : overrun capacity room program = overrun capacity capacity program := by
  cases program with
  | nil => simp
  | cons feed rest =>
      cases feed with
      | wait => simp
      | put item => exact hprogram.elim

theorem overrun_map_put (capacity room : Nat) (list : List α) :
    overrun capacity room (list.map .put) = list.length - room := by
  induction list generalizing room with
  | nil => simp
  | cons item rest ih =>
      rw [List.map_cons, overrun_put, ih, List.length_cons]
      split <;> omega

end Feed

/-- What a full outbox does with one item more: some item is lost, the others
keep their order. -/
structure Overflow (α : Type) where
  keep : List α → α → List α
  length_keep : ∀ queue item, (keep queue item).length = queue.length
  sublist_keep : ∀ queue item, (keep queue item).Sublist (queue ++ [item])

/-- The newest item is lost. -/
def Overflow.newest : Overflow α where
  keep queue _ := queue
  length_keep _ _ := rfl
  sublist_keep queue item := List.sublist_append_left queue [item]

/-- The items in the outbox and those the device has taken out. -/
structure Outbox (α : Type) where
  queue : List α
  taken : List α
deriving DecidableEq, Repr

namespace Outbox

def put (overflow : Overflow α) (capacity : Nat) (self : Outbox α) (item : α) : Outbox α :=
  if self.queue.length < capacity then {self with queue := self.queue ++ [item]}
  else {self with queue := overflow.keep self.queue item}

def take (self : Outbox α) : Outbox α :=
  match self.queue with
  | [] => self
  | item :: rest => ⟨rest, self.taken ++ [item]⟩

/-- Everything that has reached the outbox and has not been lost. -/
def contents (self : Outbox α) : List α :=
  self.taken ++ self.queue

@[simp] theorem take_contents (self : Outbox α) : self.take.contents = self.contents := by
  obtain ⟨queue, taken⟩ := self
  cases queue with
  | nil => rfl
  | cons item rest => simp [take, contents]

theorem take_length (self : Outbox α) : self.take.queue.length = self.queue.length - 1 := by
  obtain ⟨queue, taken⟩ := self
  cases queue <;> rfl

end Outbox

/-- Who moves next. -/
inductive Turn where
  | program
  | device
deriving DecidableEq, Repr

/-- A program and its outbox. -/
structure Feeding (α : Type) where
  program : List (Feed α)
  box : Outbox α

namespace Feeding

variable {overflow : Overflow α} {capacity : Nat}

/-- One move. A wait that finds items in the outbox is made again. -/
def step (overflow : Overflow α) (capacity : Nat) (self : Feeding α) : Turn → Feeding α
  | .device => {self with box := self.box.take}
  | .program =>
      match self.program with
      | [] => self
      | .wait :: rest => if self.box.queue = [] then {self with program := rest} else self
      | .put item :: rest => ⟨rest, self.box.put overflow capacity item⟩

def run (overflow : Overflow α) (capacity : Nat) (self : Feeding α) (schedule : List Turn) :
    Feeding α :=
  schedule.foldl (step overflow capacity) self

/-- What the device has, will get from the outbox and will be given. -/
def message (self : Feeding α) : List α :=
  self.box.contents ++ Feed.items self.program

/-- The items that may still be lost. -/
def exposed (capacity : Nat) (self : Feeding α) : Nat :=
  Feed.overrun capacity (capacity - self.box.queue.length) self.program

/-- A move loses nothing but what is exposed, and reorders nothing. -/
structure Loses (capacity : Nat) (before after : Feeding α) : Prop where
  sublist : after.message.Sublist before.message
  bound : before.message.length + after.exposed capacity ≤
    after.message.length + before.exposed capacity

theorem Loses.refl (self : Feeding α) : Loses capacity self self :=
  ⟨List.Sublist.refl _, le_refl _⟩

theorem Loses.trans {first second third : Feeding α} (hfirst : Loses capacity first second)
    (hsecond : Loses capacity second third) : Loses capacity first third := by
  refine ⟨hsecond.sublist.trans hfirst.sublist, ?_⟩
  have hearly := hfirst.bound
  have hlate := hsecond.bound
  omega

theorem put_sublist (overflow : Overflow α) (capacity : Nat) (item : α) (rest : List (Feed α))
    (box : Outbox α) :
    (message ⟨rest, box.put overflow capacity item⟩).Sublist
      (message ⟨.put item :: rest, box⟩) := by
  unfold Outbox.put
  split
  · simp [message, Outbox.contents]
  · simp only [message, Outbox.contents, Feed.items_put, List.append_assoc]
    apply List.Sublist.append (List.Sublist.refl _)
    rw [← List.singleton_append, ← List.append_assoc]
    exact List.Sublist.append (overflow.sublist_keep box.queue item) (List.Sublist.refl _)

/-- A put loses exactly what it no longer exposes. -/
theorem put_balance (overflow : Overflow α) (capacity : Nat) (item : α) (rest : List (Feed α))
    (box : Outbox α) :
    (message ⟨.put item :: rest, box⟩).length +
        exposed capacity ⟨rest, box.put overflow capacity item⟩ =
      (message ⟨rest, box.put overflow capacity item⟩).length +
        exposed capacity ⟨.put item :: rest, box⟩ := by
  unfold Outbox.put
  split
  · simp only [message, exposed, Outbox.contents, Feed.items_put, Feed.overrun_put,
      List.length_append, List.length_cons, List.length_nil, Nat.zero_add]
    rw [if_neg (by omega), Nat.sub_sub]
    omega
  · have hlength := overflow.length_keep box.queue item
    simp only [message, exposed, Outbox.contents, Feed.items_put, Feed.overrun_put,
      List.length_append, List.length_cons, hlength]
    rw [if_pos (by omega), show capacity - box.queue.length = 0 by omega, Nat.zero_sub]
    omega

theorem step_loses (overflow : Overflow α) (capacity : Nat) (self : Feeding α) (turn : Turn) :
    Loses capacity self (self.step overflow capacity turn) := by
  obtain ⟨program, box⟩ := self
  cases turn with
  | device =>
      have hroom : capacity - box.queue.length ≤ capacity - box.take.queue.length := by
        rw [box.take_length]
        omega
      constructor
      · simp [step, message]
      · have hexposed := Feed.overrun_antitone capacity hroom program
        simp only [step, message, exposed, Outbox.take_contents]
        omega
  | program =>
      cases program with
      | nil => exact Loses.refl _
      | cons feed rest =>
          cases feed with
          | wait =>
              simp only [step]
              split
              · rename_i hempty
                have hempty' : box.queue = [] := hempty
                constructor
                · simp [message]
                · simp [message, exposed, hempty']
              · exact Loses.refl _
          | put item =>
              exact ⟨put_sublist overflow capacity item rest box,
                (put_balance overflow capacity item rest box).le⟩

/-- However the program and the device take turns, a run loses at most what the
program exposes, and the rest arrives in order. -/
theorem run_loses (overflow : Overflow α) (capacity : Nat) (self : Feeding α)
    (schedule : List Turn) : Loses capacity self (self.run overflow capacity schedule) := by
  induction schedule generalizing self with
  | nil => exact Loses.refl self
  | cons turn rest ih => exact (step_loses overflow capacity self turn).trans (ih _)

theorem run_append (self : Feeding α) (first second : List Turn) :
    self.run overflow capacity (first ++ second) =
      (self.run overflow capacity first).run overflow capacity second :=
  List.foldl_append

/-- A program that exposes nothing loses nothing. -/
theorem run_exact {self : Feeding α} (hexposed : self.exposed capacity = 0)
    (schedule : List Turn) :
    (self.run overflow capacity schedule).message = self.message := by
  have hloses := run_loses overflow capacity self schedule
  apply hloses.sublist.eq_of_length_le
  have hbound := hloses.bound
  omega

/-! ### Progress -/

/-- The work left: a put still has to be taken out. -/
def work (self : Feeding α) : Nat :=
  2 * self.program.length + self.box.queue.length

theorem put_queue_length (overflow : Overflow α) (capacity : Nat) (item : α) (box : Outbox α) :
    (box.put overflow capacity item).queue.length ≤ box.queue.length + 1 := by
  unfold Outbox.put
  split
  · simp
  · rw [overflow.length_keep]
    omega

theorem step_work (overflow : Overflow α) (capacity : Nat) (self : Feeding α) (turn : Turn) :
    (self.step overflow capacity turn).work ≤ self.work := by
  obtain ⟨program, box⟩ := self
  cases turn with
  | device =>
      have hlength := box.take_length
      simp only [step, work]
      omega
  | program =>
      cases program with
      | nil => exact le_refl _
      | cons feed rest =>
          cases feed with
          | wait =>
              simp only [step]
              split
              · simp only [work, List.length_cons]
                omega
              · exact le_refl _
          | put item =>
              have hlength := put_queue_length overflow capacity item box
              simp only [step, work, List.length_cons]
              omega

theorem run_work (overflow : Overflow α) (capacity : Nat) (self : Feeding α)
    (schedule : List Turn) :
    (self.run overflow capacity schedule).work ≤ self.work := by
  induction schedule generalizing self with
  | nil => exact le_refl _
  | cons turn rest ih => exact (ih _).trans (step_work overflow capacity self turn)

/-- The device gets on with a nonempty outbox. -/
theorem take_work {self : Feeding α} (hqueue : self.box.queue ≠ []) :
    (self.step overflow capacity .device).work < self.work := by
  have hlength := self.box.take_length
  have hpositive := List.length_pos_iff.mpr hqueue
  simp only [step, work]
  omega

/-- The program gets on with an empty one. -/
theorem program_work {self : Feeding α} (hqueue : self.box.queue = [])
    (hprogram : self.program ≠ []) :
    (self.step overflow capacity .program).work < self.work := by
  obtain ⟨program, box⟩ := self
  cases program with
  | nil => exact absurd rfl hprogram
  | cons feed rest =>
      cases feed with
      | wait =>
          have hqueue' : box.queue = [] := hqueue
          simp only [step, hqueue', if_true, work, List.length_cons]
          omega
      | put item =>
          have hlength := put_queue_length overflow capacity item box
          simp only [step, work, List.length_cons]
          omega

theorem step_queue_ne_nil {self : Feeding α} (hqueue : self.box.queue ≠ []) :
    (self.step overflow capacity .program).box.queue ≠ [] := by
  obtain ⟨program, box⟩ := self
  cases program with
  | nil => exact hqueue
  | cons feed rest =>
      cases feed with
      | wait =>
          simp only [step]
          split <;> exact hqueue
      | put item =>
          simp only [step, Outbox.put]
          split
          · exact List.append_ne_nil_of_right_ne_nil _ (List.cons_ne_nil _ _)
          · rw [← List.length_pos_iff, overflow.length_keep, List.length_pos_iff]
            exact hqueue

/-- A stretch in which both sides move gets on. -/
theorem stretch_work (overflow : Overflow α) (capacity : Nat) {self : Feeding α}
    (hwork : 0 < self.work) {stretch : List Turn} (hdevice : .device ∈ stretch)
    (hprogram : .program ∈ stretch) :
    (self.run overflow capacity stretch).work < self.work := by
  by_cases hqueue : self.box.queue = []
  · -- The device does nothing until the program moves.
    have hleft : self.program ≠ [] := by
      intro hempty
      rw [work, hempty, hqueue] at hwork
      exact absurd hwork (by simp)
    clear hdevice
    induction stretch with
    | nil => cases hprogram
    | cons turn rest ih =>
        cases turn with
        | program =>
            exact (run_work overflow capacity _ rest).trans_lt (program_work hqueue hleft)
        | device =>
            have hstep : self.step overflow capacity .device = self := by
              obtain ⟨program, ⟨queue, taken⟩⟩ := self
              cases hqueue
              rfl
            change (run overflow capacity (self.step overflow capacity .device) rest).work < _
            rw [hstep]
            exact ih (by simpa using hprogram)
  · -- The outbox stays nonempty until the device moves.
    clear hprogram hwork
    induction stretch generalizing self with
    | nil => cases hdevice
    | cons turn rest ih =>
        cases turn with
        | device => exact (run_work overflow capacity _ rest).trans_lt (take_work hqueue)
        | program =>
            exact (ih (by simpa using hdevice) (step_queue_ne_nil hqueue)).trans_le
              (step_work overflow capacity self .program)

/-- Every fair schedule finishes the program and empties the outbox. -/
theorem run_finishes (overflow : Overflow α) (capacity : Nat) {self : Feeding α}
    {stretches : List (List Turn)}
    (hfair : ∀ stretch ∈ stretches, .device ∈ stretch ∧ .program ∈ stretch)
    (hlong : self.work ≤ stretches.length) :
    (self.run overflow capacity stretches.flatten).program = [] ∧
      (self.run overflow capacity stretches.flatten).box.queue = [] := by
  have hdone : (self.run overflow capacity stretches.flatten).work = 0 := by
    induction stretches generalizing self with
    | nil => exact Nat.le_zero.mp hlong
    | cons stretch rest ih =>
        obtain ⟨hdevice, hprogram⟩ := hfair stretch List.mem_cons_self
        rw [List.flatten_cons, run_append]
        apply ih fun other hother => hfair other (List.mem_cons_of_mem _ hother)
        rw [List.length_cons] at hlong
        rcases Nat.eq_zero_or_pos self.work with hzero | hpositive
        · have hleft := run_work overflow capacity self stretch
          omega
        · have hless := stretch_work overflow capacity hpositive hdevice hprogram
          omega
  rw [work] at hdone
  exact ⟨List.length_eq_zero_iff.mp (by omega), List.length_eq_zero_iff.mp (by omega)⟩

/-! ### The worst schedule -/

/-- Some schedule takes the program from one outbox to another, whatever comes
after it. -/
def Executes (overflow : Overflow α) (capacity : Nat) (program : List (Feed α))
    (before after : Outbox α) : Prop :=
  ∃ schedule, ∀ rest, run overflow capacity ⟨program ++ rest, before⟩ schedule = ⟨rest, after⟩

theorem Executes.append {first second : List (Feed α)} {start middle final : Outbox α}
    (hfirst : Executes overflow capacity first start middle)
    (hsecond : Executes overflow capacity second middle final) :
    Executes overflow capacity (first ++ second) start final := by
  obtain ⟨early, hearly⟩ := hfirst
  obtain ⟨late, hlate⟩ := hsecond
  refine ⟨early ++ late, fun rest => ?_⟩
  rw [run_append, List.append_assoc, hearly, hlate]

theorem executes_put (item : α) (box : Outbox α) :
    Executes overflow capacity [.put item] box (box.put overflow capacity item) :=
  ⟨[.program], fun _ => rfl⟩

theorem executes_drain (box : Outbox α) :
    Executes overflow capacity [] box ⟨[], box.contents⟩ := by
  obtain ⟨queue, taken⟩ := box
  induction queue generalizing taken with
  | nil => exact ⟨[], fun rest => by simp [run, Outbox.contents]⟩
  | cons item queue ih =>
      have htake : Executes overflow capacity [] ⟨item :: queue, taken⟩ ⟨queue, taken ++ [item]⟩ :=
        ⟨[.device], fun _ => rfl⟩
      have hrest := htake.append (ih (taken ++ [item]))
      simpa [Outbox.contents] using hrest

theorem executes_wait (box : Outbox α) :
    Executes overflow capacity [.wait] box ⟨[], box.contents⟩ :=
  (executes_drain box).append ⟨[.program], fun _ => rfl⟩

/-- A device that takes items only when the program waits for it loses all that
is exposed. -/
theorem exists_worst (overflow : Overflow α) (capacity : Nat) (program : List (Feed α))
    (box : Outbox α) :
    ∃ after, Executes overflow capacity program box after ∧
      after.contents.length + exposed capacity ⟨program, box⟩ =
        (message ⟨program, box⟩).length := by
  induction program generalizing box with
  | nil => exact ⟨box, ⟨[], fun _ => rfl⟩, by simp [exposed, message]⟩
  | cons feed rest ih =>
      cases feed with
      | wait =>
          obtain ⟨after, hexecutes, hlost⟩ := ih ⟨[], box.contents⟩
          refine ⟨after, (executes_wait box).append hexecutes, ?_⟩
          simpa [exposed, message, Outbox.contents] using hlost
      | put item =>
          obtain ⟨after, hexecutes, hlost⟩ := ih (box.put overflow capacity item)
          refine ⟨after, (executes_put item box).append hexecutes, ?_⟩
          have hbalance := put_balance overflow capacity item rest box
          omega

end Feeding

end UnboundOS
