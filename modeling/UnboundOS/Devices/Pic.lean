import Mathlib.Data.Fintype.Basic
import UnboundOS.Base.Checked
import UnboundOS.Base.Run

/-!
The two 8259 interrupt controllers, as `pic.rs` programs them. A run is any row
of requests by the devices, acknowledges by the processor and calls of the
driver. The masks of the two chips refine one set of enabled lines: `enable_irq`
adds a line, `disable_irq` removes it. The set does not say what can reach the
processor, though. The lines of the slave come in through line 2 of the master,
and `enable_irq` leaves that line alone. The master latches that line like any
other, so that a request can be left of which the slave knows nothing any more.

Only the commands that the driver sends are modelled: the initialization words,
the mask and the end of interrupt that names no line. Priorities are fixed, the
lower number first, and lines are triggered by edges.
-/

namespace UnboundOS.Devices

/-- One line as a mask, set or cleared. -/
def setLine (value : U8) (line : Nat) : U8 := value ||| (1#8 <<< line)

def clearLine (value : U8) (line : Nat) : U8 := value &&& ~~~(1#8 <<< line)

theorem oneShift_getLsbD (line other : Fin 8) :
    (1#8 <<< line.val).getLsbD other.val = decide (line = other) := by
  revert line other
  decide

@[simp] theorem setLine_getLsbD (value : U8) (line other : Fin 8) :
    (setLine value line.val).getLsbD other.val =
      (value.getLsbD other.val || decide (line = other)) := by
  rw [setLine, BitVec.getLsbD_or, oneShift_getLsbD]

@[simp] theorem clearLine_getLsbD (value : U8) (line other : Fin 8) :
    (clearLine value line.val).getLsbD other.val =
      (value.getLsbD other.val && !decide (line = other)) := by
  rw [clearLine, BitVec.getLsbD_and, BitVec.getLsbD_not, oneShift_getLsbD]
  simp

/-- What a write to the data port means next. -/
inductive Phase where
  | icw2 (cascade icw4 : Bool)
  | icw3 (icw4 : Bool)
  | icw4
  | ready
deriving DecidableEq, Repr

/-- One controller: requests, lines in service and masked lines, the first
vector, and where the slave is. -/
structure Pic where
  irr : U8
  isr : U8
  imr : U8
  offset : U8
  wiring : U8
  phase : Phase
deriving DecidableEq, Repr

namespace Pic

/-- What the initialization words have set. -/
def setup (self : Pic) : U8 × U8 × Phase := (self.offset, self.wiring, self.phase)

/-- The first line that is requested, not masked, and not held back by a line in
service of the same or a higher priority. -/
def candidate (self : Pic) : Option (Fin 8) :=
  (List.finRange 8).find? fun line =>
    self.irr.getLsbD line && !self.imr.getLsbD line &&
      (List.finRange 8).all fun other => decide (line < other) || !self.isr.getLsbD other

/-- The line goes from requested to in service. -/
def serve (self : Pic) (line : Fin 8) : Pic :=
  {self with irr := clearLine self.irr line, isr := setLine self.isr line}

/-- The end of interrupt that names no line is for the first one in service. -/
def finish (self : Pic) : Pic :=
  match (List.finRange 8).find? fun line => self.isr.getLsbD line with
  | none => self
  | some line => {self with isr := clearLine self.isr line}

/-- A write to the command port. -/
def command (self : Pic) (value : U8) : Pic :=
  if value.getLsbD 4 then
    {self with
      irr := 0#8
      isr := 0#8
      imr := 0#8
      phase := .icw2 (!value.getLsbD 1) (value.getLsbD 0)}
  else if value = 0x20#8 then self.finish
  else self

/-- A write to the data port. -/
def data (self : Pic) (value : U8) : Pic :=
  let last (icw4 : Bool) : Phase := if icw4 then .icw4 else .ready
  match self.phase with
  | .icw2 cascade icw4 =>
      {self with offset := value &&& 0xF8#8, phase := if cascade then .icw3 icw4 else last icw4}
  | .icw3 icw4 => {self with wiring := value, phase := last icw4}
  | .icw4 => {self with phase := .ready}
  | .ready => {self with imr := value}

/-- On an initialized chip the data port is the mask. -/
theorem data_ready {pic : Pic} (hready : pic.phase = .ready) (value : U8) :
    (pic.data value).setup = pic.setup ∧ (pic.data value).imr = value := by
  obtain ⟨irr, isr, imr, offset, wiring, phase⟩ := pic
  cases hready
  exact ⟨rfl, rfl⟩

end Pic

structure Pics where
  master : Pic
  slave : Pic
deriving DecidableEq, Repr

namespace Pics

/-- A change of the slave. Its output is line 2 of the master, which latches
the edge when the slave begins to ask. -/
def withSlave (self : Pics) (slave : Pic) : Pics where
  master := {self.master with
    irr := if slave.candidate.isSome && self.slave.candidate.isNone then
      setLine self.master.irr 2 else self.master.irr}
  slave := slave

def outb (self : Pics) (port : U16) (value : U8) : Pics :=
  if port = 0x20#16 then {self with master := self.master.command value}
  else if port = 0x21#16 then {self with master := self.master.data value}
  else if port = 0xA0#16 then self.withSlave (self.slave.command value)
  else if port = 0xA1#16 then self.withSlave (self.slave.data value)
  else self

/-- The data ports read as the masks. -/
def inb (self : Pics) (port : U16) : U8 :=
  if port = 0x21#16 then self.master.imr else if port = 0xA1#16 then self.slave.imr else 0#8

def ioWait (self : Pics) : Pics := self.outb 0x80#16 0#8

/-! ### The driver -/

def maskAllExceptTimer (self : Pics) : Pics :=
  (self.outb 0x21#16 0xFE#8).outb 0xA1#16 0xFF#8

def init (self : Pics) : Pics :=
  let masterMask := self.inb 0x21#16
  let slaveMask := self.inb 0xA1#16
  let words := (((self.outb 0x20#16 0x11#8).ioWait.outb 0xA0#16 0x11#8).ioWait.outb 0x21#16
    32#8).ioWait.outb 0xA1#16 40#8
  let wired := ((words.ioWait.outb 0x21#16 0x04#8).ioWait.outb 0xA1#16 0x02#8).ioWait
  let modes := ((wired.outb 0x21#16 0x01#8).ioWait.outb 0xA1#16 0x01#8).ioWait
  let restored := (modes.outb 0x21#16 masterMask).outb 0xA1#16 slaveMask
  restored.maskAllExceptTimer

def enableIrq (self : Pics) (irq : U8) : Pics :=
  if 16#8 ≤ irq then self
  else if irq < 8#8 then self.outb 0x21#16 (clearLine (self.inb 0x21#16) irq.toNat)
  else self.outb 0xA1#16 (clearLine (self.inb 0xA1#16) (irq - 8#8).toNat)

def disableIrq (self : Pics) (irq : U8) : Pics :=
  if 16#8 ≤ irq then self
  else if irq < 8#8 then self.outb 0x21#16 (setLine (self.inb 0x21#16) irq.toNat)
  else self.outb 0xA1#16 (setLine (self.inb 0xA1#16) (irq - 8#8).toNat)

def endOfInterrupt (self : Pics) (irq : U8) : Pics :=
  let slaveDone := if 8#8 ≤ irq then self.outb 0xA0#16 0x20#8 else self
  slaveDone.outb 0x20#16 0x20#8

/-! ### The devices and the processor -/

/-- The two chips agree on where the slave is. -/
def cascaded (self : Pics) : Bool :=
  self.master.wiring.getLsbD 2 && decide (self.slave.wiring &&& 0x07#8 = 2#8)

/-- The vector the processor is given. A request that has gone away in the
meantime leaves the last vector of the chip. -/
def acknowledge (self : Pics) : U8 × Pics :=
  match self.master.candidate with
  | none => (self.master.offset + 7#8, self)
  | some line =>
      let served := {self with master := self.master.serve line}
      if line = 2 ∧ self.cascaded then
        match self.slave.candidate with
        | none => (self.slave.offset + 7#8, served)
        | some other =>
            (self.slave.offset + BitVec.ofNat 8 other, served.withSlave (self.slave.serve other))
      else (self.master.offset + BitVec.ofNat 8 line, served)

/-- A device puts its line up, and the edge is latched. Line 2 of the master has
no device. -/
def raise (self : Pics) (irq : Fin 16) : Pics :=
  if irq.val = 2 then self
  else if irq.val < 8 then {self with master.irr := setLine self.master.irr irq}
  else self.withSlave {self.slave with irr := setLine self.slave.irr (irq - 8)}

/-- A line goes down before it was served, and the request with it; line 2 of
the master when the slave no longer asks. Chips differ in whether they forget
the request, so this is a step of its own. -/
def lower (self : Pics) (irq : Fin 16) : Pics :=
  if irq.val = 2 ∧ self.slave.candidate.isSome then self
  else if irq.val < 8 then {self with master.irr := clearLine self.master.irr irq}
  else self.withSlave {self.slave with irr := clearLine self.slave.irr (irq - 8)}

/-- What can happen to the controllers. -/
inductive Event where
  | raise (irq : Fin 16)
  | lower (irq : Fin 16)
  | acknowledge
  | init
  | maskAllExceptTimer
  | enableIrq (irq : U8)
  | disableIrq (irq : U8)
  | endOfInterrupt (irq : U8)
deriving DecidableEq, Repr

/-- The vector of an acknowledge, and the controllers afterwards. -/
def step (self : Pics) : Event → Option U8 × Pics
  | .raise irq => (none, self.raise irq)
  | .lower irq => (none, self.lower irq)
  | .acknowledge => (some self.acknowledge.1, self.acknowledge.2)
  | .init => (none, self.init)
  | .maskAllExceptTimer => (none, self.maskAllExceptTimer)
  | .enableIrq irq => (none, self.enableIrq irq)
  | .disableIrq irq => (none, self.disableIrq irq)
  | .endOfInterrupt irq => (none, self.endOfInterrupt irq)

/-! ### The enabled lines -/

/-- The line of the 8254. -/
abbrev timerIrq : Fin 16 := 0

/-- What the driver is asked for: the set of enabled lines. -/
def timerOnly : Fin 16 → Bool := fun irq => decide (irq = timerIrq)

def masterLine (line : Fin 8) : Fin 16 := ⟨line, by omega⟩

def slaveLine (line : Fin 8) : Fin 16 := ⟨line + 8, by omega⟩

/-- The controllers are initialized, and their masks are those of the enabled
lines. -/
structure Configured (pics : Pics) (enabled : Fin 16 → Bool) : Prop where
  masterOffset : pics.master.offset = 32#8
  slaveOffset : pics.slave.offset = 40#8
  cascaded : pics.cascaded = true
  masterReady : pics.master.phase = .ready
  slaveReady : pics.slave.phase = .ready
  masterMask : ∀ line : Fin 8, pics.master.imr.getLsbD line = !enabled (masterLine line)
  slaveMask : ∀ line : Fin 8, pics.slave.imr.getLsbD line = !enabled (slaveLine line)

variable {pics : Pics} {enabled : Fin 16 → Bool}

theorem init_configured (pics : Pics) : Configured pics.init timerOnly where
  masterOffset := rfl
  slaveOffset := rfl
  cascaded := by
    change ((0x04#8).getLsbD 2 && decide (0x02#8 &&& 0x07#8 = 2#8)) = true
    decide
  masterReady := rfl
  slaveReady := rfl
  masterMask := by
    change ∀ line : Fin 8, (0xFE#8).getLsbD line = !timerOnly (masterLine line)
    decide
  slaveMask := by
    change ∀ line : Fin 8, (0xFF#8).getLsbD line = !timerOnly (slaveLine line)
    decide

theorem Configured.of_setup {next : Pics} {later : Fin 16 → Bool} (hpics : Configured pics enabled)
    (hmaster : next.master.setup = pics.master.setup)
    (hslave : next.slave.setup = pics.slave.setup)
    (hmasterMask : ∀ line : Fin 8, next.master.imr.getLsbD line = !later (masterLine line))
    (hslaveMask : ∀ line : Fin 8, next.slave.imr.getLsbD line = !later (slaveLine line)) :
    Configured next later where
  masterOffset := (congrArg (fun setup => setup.1) hmaster).trans hpics.masterOffset
  slaveOffset := (congrArg (fun setup => setup.1) hslave).trans hpics.slaveOffset
  cascaded := by
    have hmasterWiring : next.master.wiring = pics.master.wiring :=
      congrArg (fun setup => setup.2.1) hmaster
    have hslaveWiring : next.slave.wiring = pics.slave.wiring :=
      congrArg (fun setup => setup.2.1) hslave
    rw [Pics.cascaded, hmasterWiring, hslaveWiring]
    exact hpics.cascaded
  masterReady := (congrArg (fun setup => setup.2.2) hmaster).trans hpics.masterReady
  slaveReady := (congrArg (fun setup => setup.2.2) hslave).trans hpics.slaveReady
  masterMask := hmasterMask
  slaveMask := hslaveMask

/-- Requests and services change neither the setup nor the masks. -/
theorem Configured.of_masks {next : Pics} (hpics : Configured pics enabled)
    (hmaster : next.master.setup = pics.master.setup ∧ next.master.imr = pics.master.imr)
    (hslave : next.slave.setup = pics.slave.setup ∧ next.slave.imr = pics.slave.imr) :
    Configured next enabled := by
  apply hpics.of_setup hmaster.1 hslave.1
  · rw [hmaster.2]
    exact hpics.masterMask
  · rw [hslave.2]
    exact hpics.slaveMask

/-- A mask for the master. -/
theorem Configured.maskMaster (hpics : Configured pics enabled) {value : U8} {later : Fin 16 → Bool}
    (hvalue : ∀ line : Fin 8, value.getLsbD line = !later (masterLine line))
    (hkept : ∀ line, later (slaveLine line) = enabled (slaveLine line)) :
    Configured (pics.outb 0x21#16 value) later := by
  obtain ⟨hsetup, himr⟩ := Pic.data_ready hpics.masterReady value
  refine hpics.of_setup ?_ ?_ ?_ ?_
  · exact hsetup
  · rfl
  · intro line
    exact (congrArg (fun mask : U8 => mask.getLsbD line) himr).trans (hvalue line)
  · intro line
    rw [hkept]
    exact hpics.slaveMask line

/-- A mask for the slave. -/
theorem Configured.maskSlave (hpics : Configured pics enabled) {value : U8} {later : Fin 16 → Bool}
    (hvalue : ∀ line : Fin 8, value.getLsbD line = !later (slaveLine line))
    (hkept : ∀ line, later (masterLine line) = enabled (masterLine line)) :
    Configured (pics.outb 0xA1#16 value) later := by
  obtain ⟨hsetup, himr⟩ := Pic.data_ready hpics.slaveReady value
  refine hpics.of_setup ?_ ?_ ?_ ?_
  · rfl
  · exact hsetup
  · intro line
    rw [hkept]
    exact hpics.masterMask line
  · intro line
    exact (congrArg (fun mask : U8 => mask.getLsbD line) himr).trans (hvalue line)

theorem masterLine_ne_slaveLine (line other : Fin 8) : masterLine line ≠ slaveLine other := by
  intro hsame
  have hval := congrArg Fin.val hsame
  simp only [masterLine, slaveLine] at hval
  omega

theorem update_masterLine (line other : Fin 8) (value : Bool) :
    Function.update enabled (masterLine line) value (masterLine other) =
      if line = other then value else enabled (masterLine other) := by
  by_cases hsame : line = other
  · rw [hsame, Function.update_self, if_pos rfl]
  · rw [if_neg hsame, Function.update_of_ne]
    intro heq
    exact hsame (Fin.ext (congrArg Fin.val heq).symm)

theorem update_slaveLine (line other : Fin 8) (value : Bool) :
    Function.update enabled (slaveLine line) value (slaveLine other) =
      if line = other then value else enabled (slaveLine other) := by
  by_cases hsame : line = other
  · rw [hsame, Function.update_self, if_pos rfl]
  · rw [if_neg hsame, Function.update_of_ne]
    intro heq
    have hval := congrArg Fin.val heq
    simp only [slaveLine] at hval
    exact hsame (Fin.ext (by omega))

/-- The line that `enable_irq` and `disable_irq` mean. -/
theorem irq_cases (irq : U8) :
    16#8 ≤ irq ∧ ¬irq.toNat < 16 ∨
      (∃ line : Fin 8, irq.toNat = line ∧ irq < 8#8 ∧ ¬16#8 ≤ irq) ∨
      ∃ line : Fin 8, irq.toNat = line + 8 ∧ (irq - 8#8).toNat = line ∧ ¬irq < 8#8 ∧
        ¬16#8 ≤ irq := by
  simp only [BitVec.le_def, BitVec.lt_def, BitVec.toNat_sub, BitVec.toNat_ofNat]
  rcases Nat.lt_or_ge irq.toNat 8 with hmaster | hslave
  · exact Or.inr (Or.inl ⟨⟨irq.toNat, hmaster⟩, rfl, by omega, by omega⟩)
  · rcases Nat.lt_or_ge irq.toNat 16 with hline | hnone
    · refine Or.inr (Or.inr ⟨⟨irq.toNat - 8, by omega⟩, ?_, ?_, by omega, by omega⟩)
      · simp only
        omega
      · simp only
        omega
    · exact Or.inl ⟨by omega, by omega⟩

theorem Configured.maskAllExceptTimer (hpics : Configured pics enabled) :
    Configured pics.maskAllExceptTimer timerOnly := by
  have hmaster : Configured (pics.outb 0x21#16 0xFE#8)
      (fun irq => if irq.val < 8 then timerOnly irq else enabled irq) := by
    apply hpics.maskMaster
    · intro line
      rw [if_pos (by simp [masterLine])]
      revert line
      decide
    · intro line
      rw [if_neg (by simp [slaveLine])]
  apply hmaster.maskSlave
  · decide
  · intro line
    rw [if_pos (by simp [masterLine])]

/-- `enable_irq` and `disable_irq` change the mask of one line. -/
theorem Configured.switch (hpics : Configured pics enabled) (irq : U8) {on : Bool}
    {change : U8 → Nat → U8}
    (hchange : ∀ (value : U8) (line other : Fin 8), (change value line).getLsbD other =
      if line = other then !on else value.getLsbD other) :
    Configured
      (if 16#8 ≤ irq then pics
      else if irq < 8#8 then pics.outb 0x21#16 (change (pics.inb 0x21#16) irq.toNat)
      else pics.outb 0xA1#16 (change (pics.inb 0xA1#16) (irq - 8#8).toNat))
      (if hirq : irq.toNat < 16 then Function.update enabled ⟨irq.toNat, hirq⟩ on
      else enabled) := by
  rcases irq_cases irq with ⟨hlarge, hnone⟩ | ⟨line, hline, hmaster, hsmall⟩ |
    ⟨line, hline, hindex, hslave, hsmall⟩
  · rw [if_pos hlarge, dif_neg hnone]
    exact hpics
  · have hirq : (⟨irq.toNat, by omega⟩ : Fin 16) = masterLine line := Fin.ext hline
    rw [if_neg hsmall, if_pos hmaster, dif_pos (by omega), hirq, hline]
    apply hpics.maskMaster
    · intro other
      have hmask : (pics.inb 0x21#16).getLsbD other = !enabled (masterLine other) :=
        hpics.masterMask other
      rw [hchange, hmask, update_masterLine]
      split <;> rfl
    · intro other
      exact Function.update_of_ne (masterLine_ne_slaveLine line other).symm _ _
  · have hirq : (⟨irq.toNat, by omega⟩ : Fin 16) = slaveLine line := Fin.ext hline
    rw [if_neg hsmall, if_neg hslave, dif_pos (by omega), hirq, hindex]
    apply hpics.maskSlave
    · intro other
      have hmask : (pics.inb 0xA1#16).getLsbD other = !enabled (slaveLine other) :=
        hpics.slaveMask other
      rw [hchange, hmask, update_slaveLine]
      split <;> rfl
    · intro other
      exact Function.update_of_ne (masterLine_ne_slaveLine other line) _ _

theorem Pic.finish_masks (pic : Pic) :
    pic.finish.setup = pic.setup ∧ pic.finish.imr = pic.imr := by
  unfold Pic.finish
  split <;> exact ⟨rfl, rfl⟩

theorem Configured.endOfInterrupt (hpics : Configured pics enabled) (irq : U8) :
    Configured (pics.endOfInterrupt irq) enabled := by
  apply hpics.of_masks
  · unfold Pics.endOfInterrupt
    split
    · exact Pic.finish_masks (pics.withSlave pics.slave.finish).master
    · exact Pic.finish_masks pics.master
  · unfold Pics.endOfInterrupt
    split
    · exact Pic.finish_masks pics.slave
    · exact ⟨rfl, rfl⟩

theorem Configured.acknowledge (hpics : Configured pics enabled) :
    Configured pics.acknowledge.2 enabled := by
  unfold Pics.acknowledge
  split
  · exact hpics
  · simp only
    split
    · split <;> exact hpics.of_masks ⟨rfl, rfl⟩ ⟨rfl, rfl⟩
    · exact hpics.of_masks ⟨rfl, rfl⟩ ⟨rfl, rfl⟩

theorem Configured.raise (hpics : Configured pics enabled) (irq : Fin 16) :
    Configured (pics.raise irq) enabled := by
  unfold Pics.raise
  split
  · exact hpics
  · split <;> exact hpics.of_masks ⟨rfl, rfl⟩ ⟨rfl, rfl⟩

theorem Configured.lower (hpics : Configured pics enabled) (irq : Fin 16) :
    Configured (pics.lower irq) enabled := by
  unfold Pics.lower
  split
  · exact hpics
  · split <;> exact hpics.of_masks ⟨rfl, rfl⟩ ⟨rfl, rfl⟩

theorem candidate_some {pic : Pic} {line : Fin 8} (hcandidate : pic.candidate = some line) :
    pic.irr.getLsbD line = true ∧ pic.imr.getLsbD line = false := by
  have hline := List.find?_some hcandidate
  simp only [Bool.and_eq_true, Bool.not_eq_true'] at hline
  exact hline.1

/-- The line is requested, line 2 by the slave and the others by their devices. -/
def requested (self : Pics) (irq : Fin 16) : Bool :=
  if irq.val < 8 then self.master.irr.getLsbD irq else self.slave.irr.getLsbD (irq - 8)

/-- The controllers as a BIOS leaves them. -/
def biosPics : Pics :=
  ⟨⟨0#8, 0#8, 0xB8#8, 8#8, 0x04#8, .ready⟩, ⟨0#8, 0#8, 0x8F#8, 0x70#8, 0x02#8, .ready⟩⟩

/-- The clock of line 8 asks, and `disable_irq(8)` comes before the processor. -/
example : (runAll step biosPics.init [.enableIrq 2#8, .enableIrq 8#8, .raise 8,
    .disableIrq 8#8]).2.acknowledge.1 = 47#8 := by decide +kernel

end Pics

end UnboundOS.Devices
