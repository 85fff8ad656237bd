import UnboundOS.Devices.Pic

/-!
Timer interrupts, from the clock of the 8254 to `unbound_timer_handler`, after
`pic::init` and `pit::init`. The processor notices a request between two
instructions and asks for its vector afterwards. A tick that has gone away in
the meantime leaves vector 39, whose gate `idt.rs` leaves empty. That raises a
general-protection fault (13), and the handler of it prints, returns and sends
no end of interrupt. It is not told apart here from other code that neither
counts ticks nor talks to the controllers.
-/

namespace UnboundOS.Devices

def pitBaseFrequency : U32 := 1193182#32

def timerFrequency : U32 := 100#32

/-- Channel 0 of the 8254, which drives line 0: its control word, its reload
value, the byte of it that comes next, and the clocks since its output went up. -/
structure PitChannel where
  control : U8
  low : U8
  high : U8
  highNext : Bool
  elapsed : Nat

namespace PitChannel

def outb (self : PitChannel) (port : U16) (value : U8) : PitChannel :=
  if port = 0x43#16 then
    if value.extractLsb' 6 2 = 0#2 then {self with control := value, highNext := false} else self
  else if port = 0x40#16 then
    if self.highNext then {self with high := value, highNext := false, elapsed := 0}
    else {self with low := value, highNext := true}
  else self

/-- `pit::init`. -/
def init (self : PitChannel) : PitChannel :=
  let divisor : U32 := pitBaseFrequency / timerFrequency
  let control := self.outb 0x43#16 0x36#8
  let low := control.outb 0x40#16 ((divisor &&& 0xFF#32).setWidth 8)
  low.outb 0x40#16 (((divisor >>> 8) &&& 0xFF#32).setWidth 8)

/-- Clocks between two edges of the output. A reload value of zero is the
largest one. -/
def period (self : PitChannel) : Nat :=
  let reload := self.high.toNat * 256 + self.low.toNat
  if reload = 0 then 65536 else reload

/-- One clock, and whether the output goes up. -/
def clock (self : PitChannel) : Bool × PitChannel :=
  if self.period ≤ self.elapsed + 1 then (true, {self with elapsed := 0})
  else (false, {self with elapsed := self.elapsed + 1})

/-- The rate, also in the middle of a write by someone else. -/
theorem init_rate (self : PitChannel) :
    self.init.period = (pitBaseFrequency / timerFrequency).toNat ∧ self.init.elapsed = 0 := by
  have hbytes : self.init = ⟨0x36#8, 0x9B#8, 0x2E#8, false, 0⟩ := by
    have hdivisor : pitBaseFrequency / timerFrequency = 11931#32 := by decide
    simp [init, outb, hdivisor]
  rw [hbytes]
  decide

end PitChannel

/-- Where the processor is: outside the handler, with interrupts on; between
noticing a request and its vector; in `unbound_timer_handler`, before or after
`end_of_interrupt(0)`, with interrupts off until IRETQ; in the handler of
something else. -/
inductive Stage where
  | outside
  | recognized
  | entered
  | finished
  | diverted
deriving DecidableEq, Repr

/-- The devices and the processor. `handled` is `TIMER_IRQ_DEBUG_COUNT`. The
edges of line 0, those that found the one before still waiting and those that
were withdrawn are counted for the statement. -/
structure Timer where
  pics : Pics
  pit : PitChannel
  stage : Stage
  handled : U64
  ticks : Nat
  merged : Nat
  withdrawn : Nat

namespace Timer

inductive Event where
  | clock
  | raise (irq : Fin 16)
  | lower (irq : Fin 16)
  | recognize
  | acknowledge
  | endOfInterrupt
  | resume
deriving DecidableEq, Repr

/-- One if a tick waits. -/
def pending (self : Timer) : Nat := if self.pics.requested Pics.timerIrq then 1 else 0

/-- The output of the 8254 goes up. -/
def tick (self : Timer) : Timer :=
  {self with
    pics := self.pics.raise Pics.timerIrq
    ticks := self.ticks + 1
    merged := self.merged + self.pending}

/-- A line goes down, perhaps that of a waiting tick. -/
def lower (self : Timer) (irq : Fin 16) : Timer :=
  let next := {self with pics := self.pics.lower irq}
  {next with withdrawn := self.withdrawn + (self.pending - next.pending)}

/-- The vector as the processor gets it. Vector 32 leads to
`unbound_timer_handler`, which counts with an overflow check. -/
def acknowledge (self : Timer) : Checked (Option U8 × Timer) :=
  let (vector, pics) := self.pics.acknowledge
  if vector = 32#8 then do
    let handled ← checkedAdd self.handled 1#64
    some (some vector, {self with pics := pics, stage := .entered, handled := handled})
  else some (some vector, {self with pics := pics, stage := .diverted})

/-- A vector is the event of its acknowledge. Line 0 belongs to the 8254. -/
def step (self : Timer) : Event → Checked (Option U8 × Timer)
  | .clock =>
      let (rises, pit) := self.pit.clock
      let next := {self with pit := pit}
      some (none, if rises then next.tick else next)
  | .raise irq =>
      some (none, if irq = Pics.timerIrq then self else {self with pics := self.pics.raise irq})
  | .lower irq => some (none, self.lower irq)
  | .recognize =>
      some (none, if self.stage = .outside ∧ self.pics.master.candidate.isSome then
        {self with stage := .recognized} else self)
  | .acknowledge => if self.stage = .recognized then self.acknowledge else some (none, self)
  | .endOfInterrupt =>
      some (none, if self.stage = .entered then
        {self with pics := self.pics.endOfInterrupt 0#8, stage := .finished} else self)
  | .resume =>
      some (none, if self.stage = .finished ∨ self.stage = .diverted then
        {self with stage := .outside} else self)

/-- After `pic::init` and `pit::init`, before the first tick. -/
def start (pics : Pics) (pit : PitChannel) : Timer :=
  ⟨pics.init, pit.init, .outside, 0#64, 0, 0, 0⟩

/-- What holds of the devices and the processor between any two events. -/
structure Steady (timer : Timer) : Prop where
  configured : timer.pics.Configured Pics.timerOnly
  inService : timer.pics.master.isr = if timer.stage = .entered then 1#8 else 0#8
  period : timer.pit.period = (pitBaseFrequency / timerFrequency).toNat
  elapsed : timer.pit.elapsed < timer.pit.period

/-- What the counts say of the clocks and the vectors so far. The last inequality
is strict for a tick that goes away between recognition and acknowledge. -/
structure Counted (clocks : Nat) (vectors : List (Option U8)) (timer : Timer) : Prop where
  clocks_eq : timer.ticks * timer.pit.period + timer.pit.elapsed = clocks
  ticks_eq : timer.handled.toNat + timer.merged + timer.withdrawn + timer.pending = timer.ticks
  handled_eq : vectors.count (some 32#8) = timer.handled.toNat
  vector_eq : ∀ vector, some vector ∈ vectors → vector = 32#8 ∨ vector = 39#8
  spurious_le : vectors.count (some 39#8) +
    (if timer.stage = .recognized then 1 - timer.pending else 0) ≤ timer.withdrawn

variable {timer : Timer}

/-! ### The requests of line 0 -/

theorem withSlave_requested_zero (pics : Pics) (slave : Pic) :
    (pics.withSlave slave).requested 0 = pics.requested 0 := by
  change (if slave.candidate.isSome && pics.slave.candidate.isNone then
    setLine pics.master.irr 2 else pics.master.irr).getLsbD 0 = pics.master.irr.getLsbD 0
  split
  · exact (setLine_getLsbD pics.master.irr 2 0).trans (by simp)
  · rfl

/-- A write to the data port of the master keeps its requests. -/
theorem outb_data_requested_zero (pics : Pics) (value : U8) :
    (pics.outb 0x21#16 value).requested 0 = pics.requested 0 := by
  change (pics.master.data value).irr.getLsbD 0 = pics.master.irr.getLsbD 0
  unfold Pic.data
  split <;> rfl

/-- `pic::init` leaves no request. -/
theorem init_requested_zero (pics : Pics) : pics.init.requested 0 = false := by
  have hreset : (pics.outb 0x20#16 0x11#8).requested 0 = false := by
    change (0#8).getLsbD 0 = false
    decide
  have hwait (self : Pics) : self.ioWait = self := rfl
  have hcommand (self : Pics) (value : U8) :
      (self.outb 0xA0#16 value).requested 0 = self.requested 0 := withSlave_requested_zero _ _
  have hdata (self : Pics) (value : U8) :
      (self.outb 0xA1#16 value).requested 0 = self.requested 0 := withSlave_requested_zero _ _
  simp only [Pics.init, Pics.maskAllExceptTimer, hwait, hcommand, hdata, outb_data_requested_zero,
    hreset]

theorem raise_requested_self (pics : Pics) : (pics.raise 0).requested 0 = true :=
  (setLine_getLsbD pics.master.irr 0 0).trans (by simp)

theorem raise_requested_zero (pics : Pics) {irq : Fin 16} (hirq : irq ≠ 0) :
    (pics.raise irq).requested 0 = pics.requested 0 := by
  unfold Pics.raise
  split
  · rfl
  · split
    · rename_i hmaster
      have hline : (⟨irq.val, hmaster⟩ : Fin 8) ≠ 0 := by
        intro heq
        have hval : irq.val = 0 := congrArg Fin.val heq
        exact hirq (Fin.ext hval)
      refine (setLine_getLsbD pics.master.irr ⟨irq.val, hmaster⟩ 0).trans ?_
      rw [decide_eq_false hline, Bool.or_false]
      rfl
    · exact withSlave_requested_zero _ _

/-- A line that goes down makes no request. -/
theorem lower_requested_zero {pics : Pics} {irq : Fin 16}
    (hrequested : (pics.lower irq).requested 0 = true) : pics.requested 0 = true := by
  unfold Pics.lower at hrequested
  split at hrequested
  · exact hrequested
  · split at hrequested
    · change (clearLine pics.master.irr irq.val).getLsbD 0 = true at hrequested
      rw [clearLine, BitVec.getLsbD_and, Bool.and_eq_true] at hrequested
      exact hrequested.1
    · rwa [withSlave_requested_zero] at hrequested

theorem lower_pending (timer : Timer) (irq : Fin 16) :
    (timer.lower irq).pending ≤ timer.pending := by
  change (if (timer.pics.lower irq).requested 0 then 1 else 0) ≤
    if timer.pics.requested 0 then 1 else 0
  split
  · rename_i hrequested
    rw [if_pos (lower_requested_zero hrequested)]
  · exact Nat.zero_le _

theorem raise_isr (pics : Pics) (irq : Fin 16) :
    (pics.raise irq).master.isr = pics.master.isr := by
  unfold Pics.raise
  split
  · rfl
  · split <;> rfl

theorem lower_isr (pics : Pics) (irq : Fin 16) :
    (pics.lower irq).master.isr = pics.master.isr := by
  unfold Pics.lower
  split
  · rfl
  · split <;> rfl

theorem start_steady (pics : Pics) (pit : PitChannel) : Steady (start pics pit) where
  configured := Pics.init_configured pics
  inService := rfl
  period := pit.init_rate.1
  elapsed := by
    change pit.init.elapsed < pit.init.period
    rw [pit.init_rate.1, pit.init_rate.2]
    decide

theorem start_counted (pics : Pics) (pit : PitChannel) : Counted 0 [] (start pics pit) where
  clocks_eq := by
    change 0 * pit.init.period + pit.init.elapsed = 0
    rw [pit.init_rate.2, Nat.zero_mul]
  ticks_eq := by
    change 0 + 0 + 0 + (if pics.init.requested 0 then 1 else 0) = 0
    rw [init_requested_zero]
    rfl
  handled_eq := rfl
  vector_eq := fun vector hvector => absurd hvector List.not_mem_nil
  spurious_le := Nat.zero_le _

/-- An event without a vector. -/
theorem Counted.quiet {clocks later : Nat} {vectors : List (Option U8)} {next : Timer}
    (hcounted : Counted clocks vectors timer)
    (hclocks : next.ticks * next.pit.period + next.pit.elapsed = later)
    (hticks : next.handled.toNat + next.merged + next.withdrawn + next.pending = next.ticks)
    (hhandled : next.handled = timer.handled)
    (hspurious : (if next.stage = .recognized then 1 - next.pending else 0) + timer.withdrawn ≤
      (if timer.stage = .recognized then 1 - timer.pending else 0) + next.withdrawn) :
    Counted later (vectors ++ [none]) next where
  clocks_eq := hclocks
  ticks_eq := hticks
  handled_eq := by
    rw [hhandled, ← hcounted.handled_eq]
    simp
  vector_eq := by
    intro vector hvector
    apply hcounted.vector_eq vector
    simpa using hvector
  spurious_le := by
    have hbefore := hcounted.spurious_le
    have hcount : (vectors ++ [none]).count (some 39#8) = vectors.count (some 39#8) := by simp
    rw [hcount]
    omega

/-! ### Acknowledges -/

theorem candidate_zero {pic : Pic} (hrequest : pic.irr.getLsbD 0 = true)
    (hmask : pic.imr.getLsbD 0 = false) (hservice : pic.isr.getLsbD 0 = false) :
    pic.candidate = some 0 := by
  rw [Pic.candidate, List.finRange_succ]
  apply List.find?_cons_of_pos
  simp only [Fin.val_zero, hrequest, hmask, Bool.not_false, Bool.and_self, Bool.true_and]
  rw [← List.finRange_succ, List.all_eq_true]
  intro other _
  rcases Fin.eq_zero_or_eq_succ other with rfl | ⟨after, rfl⟩
  · change (decide ((0 : Fin 8) < 0) || !pic.isr.getLsbD 0) = true
    rw [hservice]
    rfl
  · simp

/-- With the timer alone enabled, every candidate is a tick. -/
theorem Steady.requested_of_candidate (hsteady : Steady timer) {line : Fin 8}
    (hline : timer.pics.master.candidate = some line) : timer.pics.requested 0 = true := by
  obtain ⟨hrequest, hmask⟩ := Pics.candidate_some hline
  rw [hsteady.configured.masterMask, Bool.not_eq_false'] at hmask
  have hzero : Pics.masterLine line = 0 := of_decide_eq_true hmask
  have hval : line.val = 0 := congrArg Fin.val hzero
  rw [hval] at hrequest
  exact hrequest

/-- Outside the handler, a tick that waits is the candidate. -/
theorem Steady.candidate_of_requested (hsteady : Steady timer) (hstage : timer.stage ≠ .entered)
    (hrequested : timer.pics.requested 0 = true) : timer.pics.master.candidate = some 0 := by
  have hmask : timer.pics.master.imr.getLsbD 0 = false := hsteady.configured.masterMask 0
  have hservice := hsteady.inService
  rw [if_neg hstage] at hservice
  exact candidate_zero hrequested hmask (by rw [hservice]; decide)

theorem Steady.acknowledge_tick (hsteady : Steady timer) (hstage : timer.stage ≠ .entered)
    (hrequested : timer.pics.requested 0 = true) :
    timer.pics.acknowledge = (32#8, {timer.pics with master := timer.pics.master.serve 0}) := by
  have hzero : (0 : Fin 8) ≠ 2 := by decide
  simp only [Pics.acknowledge, hsteady.candidate_of_requested hstage hrequested, hzero, false_and,
    if_false, hsteady.configured.masterOffset]
  rfl

theorem Steady.acknowledge_withdrawn (hsteady : Steady timer)
    (hrequested : timer.pics.requested 0 = false) :
    timer.pics.acknowledge = (39#8, timer.pics) := by
  have hnone : timer.pics.master.candidate = none := by
    by_contra hsome
    obtain ⟨line, hline⟩ := Option.ne_none_iff_exists'.mp hsome
    rw [hsteady.requested_of_candidate hline] at hrequested
    cases hrequested
  simp only [Pics.acknowledge, hnone, hsteady.configured.masterOffset]
  rfl

theorem finish_timer {pic : Pic} (hservice : pic.isr = 1#8) :
    pic.finish = {pic with isr := 0#8} := by
  have hfirst : (List.finRange 8).find? (fun line => (1#8).getLsbD line) = some 0 := by decide
  rw [Pic.finish, hservice, hfirst]
  rfl

/-! ### One event -/

section Step

variable {clocks : Nat} {vectors : List (Option U8)}

theorem Counted.idle (hcounted : Counted clocks vectors timer) :
    Counted clocks (vectors ++ [none]) timer :=
  hcounted.quiet hcounted.clocks_eq hcounted.ticks_eq rfl le_rfl

theorem pending_congr {next : Timer}
    (hsame : next.pics.requested 0 = timer.pics.requested 0) : next.pending = timer.pending := by
  rw [pending, pending, hsame]

/-- Every clock is counted, and every edge of the output is a tick. -/
theorem Steady.clock (hsteady : Steady timer) (hcounted : Counted clocks vectors timer) :
    ∃ next, timer.step .clock = some (none, next) ∧ Steady next ∧
      Counted (clocks + 1) (vectors ++ [none]) next := by
  have helapsed := hsteady.elapsed
  have hclocks := hcounted.clocks_eq
  have hticks := hcounted.ticks_eq
  by_cases hwrap : timer.pit.period ≤ timer.pit.elapsed + 1
  · have hclock : timer.pit.clock = (true, {timer.pit with elapsed := 0}) := if_pos hwrap
    let next := tick {timer with pit := {timer.pit with elapsed := 0}}
    have hpending : next.pending = 1 := if_pos (raise_requested_self timer.pics)
    refine ⟨next, ?_, ⟨hsteady.configured.raise 0, ?_, hsteady.period, ?_⟩, ?_⟩
    · rw [step, hclock]
      rfl
    · exact (raise_isr timer.pics 0).trans hsteady.inService
    · exact Nat.zero_lt_of_lt helapsed
    · refine hcounted.quiet ?_ ?_ rfl ?_
      · change (timer.ticks + 1) * timer.pit.period + 0 = clocks + 1
        rw [Nat.add_mul]
        omega
      · rw [hpending]
        change timer.handled.toNat + (timer.merged + timer.pending) + timer.withdrawn + 1 =
          timer.ticks + 1
        omega
      · rw [hpending]
        change (if timer.stage = .recognized then 0 else 0) + timer.withdrawn ≤ _ + timer.withdrawn
        simp
  · have hclock : timer.pit.clock = (false, {timer.pit with elapsed := timer.pit.elapsed + 1}) :=
      if_neg hwrap
    refine ⟨{timer with pit := {timer.pit with elapsed := timer.pit.elapsed + 1}}, ?_,
      ⟨hsteady.configured, hsteady.inService, hsteady.period, ?_⟩,
      hcounted.quiet ?_ hticks rfl le_rfl⟩
    · rw [step, hclock]
      rfl
    · exact Nat.lt_of_not_le hwrap
    · change timer.ticks * timer.pit.period + (timer.pit.elapsed + 1) = clocks + 1
      omega

/-- Other devices do not touch line 0. -/
theorem Steady.raise (hsteady : Steady timer) (hcounted : Counted clocks vectors timer)
    (irq : Fin 16) :
    ∃ next, timer.step (.raise irq) = some (none, next) ∧ Steady next ∧
      Counted clocks (vectors ++ [none]) next := by
  by_cases hirq : irq = 0
  · exact ⟨timer, by rw [step, if_pos hirq], hsteady, hcounted.idle⟩
  · let next : Timer := {timer with pics := timer.pics.raise irq}
    have hpending : next.pending = timer.pending :=
      pending_congr (raise_requested_zero timer.pics hirq)
    refine ⟨next, by rw [step, if_neg hirq], ⟨hsteady.configured.raise irq, ?_, hsteady.period,
      hsteady.elapsed⟩, hcounted.quiet hcounted.clocks_eq ?_ rfl ?_⟩
    · exact (raise_isr timer.pics irq).trans hsteady.inService
    · rw [hpending]
      exact hcounted.ticks_eq
    · rw [hpending]

theorem Steady.lower (hsteady : Steady timer) (hcounted : Counted clocks vectors timer)
    (irq : Fin 16) :
    Steady (timer.lower irq) ∧ Counted clocks (vectors ++ [none]) (timer.lower irq) := by
  have hpending := timer.lower_pending irq
  have hwithdrawn : (timer.lower irq).withdrawn =
      timer.withdrawn + (timer.pending - (timer.lower irq).pending) := rfl
  refine ⟨⟨hsteady.configured.lower irq, ?_, hsteady.period, hsteady.elapsed⟩,
    hcounted.quiet hcounted.clocks_eq ?_ rfl ?_⟩
  · exact (lower_isr timer.pics irq).trans hsteady.inService
  · have hticks := hcounted.ticks_eq
    rw [hwithdrawn]
    change timer.handled.toNat + timer.merged + _ + _ = timer.ticks
    omega
  · rw [hwithdrawn]
    change (if timer.stage = .recognized then 1 - (timer.lower irq).pending else 0) + _ ≤ _
    split <;> omega

/-- What the processor notices is a tick. -/
theorem Steady.recognize (hsteady : Steady timer) (hcounted : Counted clocks vectors timer) :
    ∃ next, timer.step .recognize = some (none, next) ∧ Steady next ∧
      Counted clocks (vectors ++ [none]) next := by
  by_cases hnotices : timer.stage = .outside ∧ timer.pics.master.candidate.isSome
  · obtain ⟨line, hline⟩ := Option.isSome_iff_exists.mp hnotices.2
    have hpending : timer.pending = 1 := if_pos (hsteady.requested_of_candidate hline)
    refine ⟨{timer with stage := .recognized}, by rw [step, if_pos hnotices],
      ⟨hsteady.configured, ?_, hsteady.period, hsteady.elapsed⟩,
      hcounted.quiet hcounted.clocks_eq hcounted.ticks_eq rfl ?_⟩
    · have hservice := hsteady.inService
      rwa [hnotices.1] at hservice
    · change 1 - timer.pending + timer.withdrawn ≤ _ + timer.withdrawn
      rw [hpending]
      omega
  · exact ⟨timer, by rw [step, if_neg hnotices], hsteady, hcounted.idle⟩

/-- A tick that still waits is handled. -/
theorem Steady.acknowledge_handled (hsteady : Steady timer)
    (hcounted : Counted clocks vectors timer) (hroom : timer.handled.toNat + 1 < 2 ^ 64)
    (hstage : timer.stage = .recognized) (hrequested : timer.pics.requested 0 = true) :
    ∃ next, timer.acknowledge = some (some 32#8, next) ∧ Steady next ∧
      Counted clocks (vectors ++ [some 32#8]) next := by
  have hentered : timer.stage ≠ .entered := by
    rw [hstage]
    decide
  have hacknowledge := hsteady.acknowledge_tick hentered hrequested
  obtain ⟨handled, hhandled⟩ : ∃ handled, checkedAdd timer.handled 1#64 = some handled :=
    ⟨_, checkedAdd_eq_some hroom⟩
  have hsum : handled.toNat = timer.handled.toNat + 1 := checkedAdd_toNat hhandled
  let next : Timer := {timer with
    pics := {timer.pics with master := timer.pics.master.serve 0}
    stage := .entered
    handled := handled}
  have hserved : next.pending = 0 := by
    have hcleared : next.pics.requested 0 = false :=
      (clearLine_getLsbD timer.pics.master.irr 0 0).trans (by simp)
    rw [pending, hcleared]
    rfl
  have hpending : timer.pending = 1 := if_pos hrequested
  refine ⟨next, ?_, ⟨?_, ?_, hsteady.period, hsteady.elapsed⟩,
    ⟨hcounted.clocks_eq, ?_, ?_, ?_, ?_⟩⟩
  · rw [acknowledge, hacknowledge]
    simp only [if_true, hhandled, Option.bind_eq_bind, Option.bind_some, next]
  · exact hsteady.configured.of_masks ⟨rfl, rfl⟩ ⟨rfl, rfl⟩
  · have hservice := hsteady.inService
    rw [if_neg hentered] at hservice
    change setLine timer.pics.master.isr 0 = 1#8
    rw [hservice]
    rfl
  · have hticks := hcounted.ticks_eq
    rw [hserved]
    change handled.toNat + timer.merged + timer.withdrawn + 0 = timer.ticks
    omega
  · change _ = handled.toNat
    rw [hsum, ← hcounted.handled_eq]
    simp
  · intro vector hvector
    rw [List.mem_append, List.mem_singleton] at hvector
    rcases hvector with hbefore | hnew
    · exact hcounted.vector_eq vector hbefore
    · exact Or.inl (Option.some.inj hnew)
  · have hspurious := hcounted.spurious_le
    have hcount : (vectors ++ [some 32#8]).count (some 39#8) = vectors.count (some 39#8) := by
      simp
    rw [hcount]
    change vectors.count (some 39#8) + 0 ≤ timer.withdrawn
    omega

/-- For one that has gone away, the processor gets vector 39. -/
theorem Steady.acknowledge_diverted (hsteady : Steady timer)
    (hcounted : Counted clocks vectors timer) (hstage : timer.stage = .recognized)
    (hrequested : timer.pics.requested 0 = false) :
    ∃ next, timer.acknowledge = some (some 39#8, next) ∧ Steady next ∧
      Counted clocks (vectors ++ [some 39#8]) next := by
  have hacknowledge := hsteady.acknowledge_withdrawn hrequested
  have hpending : timer.pending = 0 := by
    rw [pending, hrequested]
    rfl
  refine ⟨{timer with stage := .diverted}, ?_, ⟨hsteady.configured, ?_, hsteady.period,
    hsteady.elapsed⟩, ⟨hcounted.clocks_eq, hcounted.ticks_eq, ?_, ?_, ?_⟩⟩
  · rw [acknowledge, hacknowledge]
    simp
  · have hservice := hsteady.inService
    rwa [hstage] at hservice
  · rw [← hcounted.handled_eq]
    simp
  · intro vector hvector
    rw [List.mem_append, List.mem_singleton] at hvector
    rcases hvector with hbefore | hnew
    · exact hcounted.vector_eq vector hbefore
    · exact Or.inr (Option.some.inj hnew)
  · have hspurious := hcounted.spurious_le
    rw [hstage, hpending] at hspurious
    have hcount : (vectors ++ [some 39#8]).count (some 39#8) =
        vectors.count (some 39#8) + 1 := by simp
    rw [hcount]
    exact hspurious

theorem Steady.endOfInterrupt (hsteady : Steady timer) (hcounted : Counted clocks vectors timer) :
    ∃ next, timer.step .endOfInterrupt = some (none, next) ∧ Steady next ∧
      Counted clocks (vectors ++ [none]) next := by
  by_cases hstage : timer.stage = .entered
  · have hservice := hsteady.inService
    rw [if_pos hstage] at hservice
    have hfinish : timer.pics.endOfInterrupt 0#8 =
        {timer.pics with master := {timer.pics.master with isr := 0#8}} :=
      congrArg (fun master => ({timer.pics with master := master} : Pics)) (finish_timer hservice)
    refine ⟨{timer with
      pics := {timer.pics with master := {timer.pics.master with isr := 0#8}}
      stage := .finished}, ?_, ⟨?_, rfl, hsteady.period, hsteady.elapsed⟩,
      hcounted.quiet hcounted.clocks_eq hcounted.ticks_eq rfl ?_⟩
    · rw [step, if_pos hstage, hfinish]
    · exact hsteady.configured.of_masks ⟨rfl, rfl⟩ ⟨rfl, rfl⟩
    · exact Nat.add_le_add_right (Nat.zero_le _) _
  · exact ⟨timer, by rw [step, if_neg hstage], hsteady, hcounted.idle⟩

theorem Steady.resume (hsteady : Steady timer) (hcounted : Counted clocks vectors timer) :
    ∃ next, timer.step .resume = some (none, next) ∧ Steady next ∧
      Counted clocks (vectors ++ [none]) next := by
  by_cases hends : timer.stage = .finished ∨ timer.stage = .diverted
  · refine ⟨{timer with stage := .outside}, by rw [step, if_pos hends],
      ⟨hsteady.configured, ?_, hsteady.period, hsteady.elapsed⟩,
      hcounted.quiet hcounted.clocks_eq hcounted.ticks_eq rfl ?_⟩
    · have hservice := hsteady.inService
      rcases hends with hstage | hstage
      · rwa [hstage] at hservice
      · rwa [hstage] at hservice
    · exact Nat.add_le_add_right (Nat.zero_le _) _
  · exact ⟨timer, by rw [step, if_neg hends], hsteady, hcounted.idle⟩

/-- No event panics while the count has room, and all counts go on. -/
theorem step_counted (hsteady : Steady timer) (hcounted : Counted clocks vectors timer)
    (hroom : timer.handled.toNat + 1 < 2 ^ 64) (event : Event) :
    ∃ vector next, timer.step event = some (vector, next) ∧ Steady next ∧
      Counted (clocks + [event].count .clock) (vectors ++ [vector]) next := by
  cases event with
  | clock => exact ⟨none, hsteady.clock hcounted⟩
  | raise irq => exact ⟨none, hsteady.raise hcounted irq⟩
  | lower irq => exact ⟨none, timer.lower irq, rfl, hsteady.lower hcounted irq⟩
  | recognize => exact ⟨none, hsteady.recognize hcounted⟩
  | acknowledge =>
      by_cases hstage : timer.stage = .recognized
      · rw [step, if_pos hstage]
        cases hrequested : timer.pics.requested 0 with
        | true => exact ⟨_, hsteady.acknowledge_handled hcounted hroom hstage hrequested⟩
        | false => exact ⟨_, hsteady.acknowledge_diverted hcounted hstage hrequested⟩
      · exact ⟨none, timer, by rw [step, if_neg hstage], hsteady, hcounted.idle⟩
  | endOfInterrupt => exact ⟨none, hsteady.endOfInterrupt hcounted⟩
  | resume => exact ⟨none, hsteady.resume hcounted⟩

/-- The handler has run at most once for each event. -/
theorem Counted.handled_le (hcounted : Counted clocks vectors timer) :
    timer.handled.toNat ≤ vectors.length :=
  hcounted.handled_eq ▸ List.count_le_length

theorem run_counted (hsteady : Steady timer) (hcounted : Counted clocks vectors timer)
    (events : List Event) (hroom : vectors.length + events.length < 2 ^ 64) :
    ∃ later final, runChecked step timer events = some (later, final) ∧ Steady final ∧
      Counted (clocks + events.count .clock) (vectors ++ later) final ∧
      later.length = events.length := by
  induction events generalizing timer clocks vectors with
  | nil =>
      refine ⟨[], timer, rfl, hsteady, ?_, rfl⟩
      rw [List.append_nil]
      exact hcounted
  | cons event rest ih =>
      have hhandled := hcounted.handled_le
      rw [List.length_cons] at hroom
      obtain ⟨vector, next, hstep, hnext, hgoes⟩ :=
        step_counted hsteady hcounted (by omega) event
      obtain ⟨later, final, hrun, hfinal, hlast, hlength⟩ := ih hnext hgoes
        (by rw [List.length_append, List.length_singleton]; omega)
      refine ⟨vector :: later, final,
        runChecked_cons_eq_some.mpr ⟨vector, next, later, hstep, hrun, rfl⟩, hfinal, ?_, ?_⟩
      · have hclocks : clocks + [event].count .clock + rest.count .clock =
            clocks + (event :: rest).count .clock := by
          rw [Nat.add_assoc, ← List.count_append]
          rfl
        rwa [hclocks, List.append_assoc] at hlast
      · rw [List.length_cons, List.length_cons, hlength]

end Step

/-- What a run has done with the ticks. -/
structure TicksHandled (events : List Event) (vectors : List (Option U8)) (timer : Timer) :
    Prop where
  /-- The 8254 ticks every 11931 clocks. -/
  ticks : timer.ticks = events.count .clock / (pitBaseFrequency / timerFrequency).toNat
  /-- A tick is handled once, or it came while the one before was waiting, or it
  was withdrawn, or it waits. -/
  once : vectors.count (some 32#8) + timer.merged + timer.withdrawn + timer.pending = timer.ticks
  handled : timer.handled.toNat = vectors.count (some 32#8)
  vector_eq : ∀ vector, some vector ∈ vectors → vector = 32#8 ∨ vector = 39#8
  spurious : vectors.count (some 39#8) ≤ timer.withdrawn
  /-- Outside the handler nothing is in service, and a tick that waits is taken
  if it does not go away. -/
  taken : timer.stage = .outside → timer.pics.master.isr = 0#8 ∧
    (timer.pics.requested 0 = true →
      ∃ next, runChecked step timer [.recognize, .acknowledge] =
        some ([none, some 32#8], next))

/-- Timer ticks are handled once each. After `pic::init` and `pit::init`,
whatever the devices do and whenever the processor looks, the handler does not
panic and every tick is accounted for; the processor gets no vector but 32, or
39 for a tick that went away when it had been noticed. -/
theorem ticks_handled_once (pics : Pics) (pit : PitChannel) (events : List Event)
    (hlength : events.length + 1 < 2 ^ 64) :
    ∃ vectors timer, runChecked step (start pics pit) events = some (vectors, timer) ∧
      TicksHandled events vectors timer := by
  obtain ⟨vectors, timer, hrun, hsteady, hcounted, hsame⟩ := run_counted
    (start_steady pics pit) (start_counted pics pit) events (by rw [List.length_nil]; omega)
  rw [List.nil_append, Nat.zero_add] at hcounted
  refine ⟨vectors, timer, hrun, ?_, ?_, hcounted.handled_eq.symm, hcounted.vector_eq, ?_, ?_⟩
  · have helapsed := hsteady.elapsed
    rw [← hcounted.clocks_eq, ← hsteady.period, Nat.mul_comm,
      Nat.mul_add_div (Nat.zero_lt_of_lt helapsed), Nat.div_eq_of_lt helapsed, Nat.add_zero]
  · rw [hcounted.handled_eq]
    exact hcounted.ticks_eq
  · exact le_trans (Nat.le_add_right _ _) hcounted.spurious_le
  · intro houtside
    have hservice := hsteady.inService
    rw [houtside, if_neg (by decide)] at hservice
    refine ⟨hservice, fun hrequested => ?_⟩
    have hcandidate := hsteady.candidate_of_requested (by rw [houtside]; decide) hrequested
    have hnotices : timer.stage = .outside ∧ timer.pics.master.candidate.isSome :=
      ⟨houtside, by rw [hcandidate]; rfl⟩
    obtain ⟨noticed, hnoticed, hready, hcounts⟩ := hsteady.recognize hcounted
    obtain rfl : noticed = {timer with stage := .recognized} := by
      rw [step, if_pos hnotices, Option.some.injEq, Prod.mk.injEq] at hnoticed
      exact hnoticed.2.symm
    have hhandled := hcounted.handled_le
    obtain ⟨next, hnext, _⟩ :=
      hready.acknowledge_handled hcounts (show timer.handled.toNat + 1 < 2 ^ 64 by omega) rfl
        hrequested
    refine ⟨next, runChecked_cons_eq_some.mpr ⟨none, _, [some 32#8], hnoticed, ?_, rfl⟩⟩
    exact runChecked_cons_eq_some.mpr ⟨some 32#8, next, [], hnext, rfl, rfl⟩

/-- The first tick, gone before the processor asks for its vector. -/
theorem ticks_handled_once_withdrawn :
    ∃ vectors timer, runChecked step (start Pics.biosPics ⟨0#8, 0#8, 0#8, false, 0⟩)
        (List.replicate 11931 .clock ++ [.recognize, .lower 0, .acknowledge]) =
          some (vectors, timer) ∧
      TicksHandled (List.replicate 11931 .clock ++ [.recognize, .lower 0, .acknowledge]) vectors
        timer ∧ timer.ticks = 1 := by
  obtain ⟨vectors, timer, hrun, hhandled⟩ := ticks_handled_once Pics.biosPics
    ⟨0#8, 0#8, 0#8, false, 0⟩
    (List.replicate 11931 .clock ++ [.recognize, .lower 0, .acknowledge])
    (by rw [List.length_append, List.length_replicate]; decide)
  refine ⟨vectors, timer, hrun, hhandled, ?_⟩
  rw [hhandled.ticks, List.count_append, List.count_replicate_self]
  decide

/-- The same from the tick on. -/
example : (runChecked step
    {start Pics.biosPics ⟨0#8, 0#8, 0#8, false, 0⟩ with pics := Pics.biosPics.init.raise 0}
    [.recognize, .lower 0, .acknowledge]).map Prod.fst = some [none, none, some 39#8] := by
  decide +kernel

end Timer

end UnboundOS.Devices
