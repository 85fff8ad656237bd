import UnboundOS.X86.Machine

/-!
Segmentation as far as 64-bit mode still has it: the descriptor tables in
memory, what the processor reads out of them, and the checks it makes before it
loads a segment register or changes the privilege level. A check that fails is
a fault, and a fault is itself an interrupt through the tables. Page faults, the
local descriptor table, compatibility mode and the limits on RFLAGS outside ring
0 are left out. So are the accessed bits that these loads set in the table:
`Memory.HoldsTable` leaves them open, for a program that runs beside them.
-/

namespace UnboundOS.X86

/-- The faults of a check, with their error code where they have one. -/
inductive Fault where
  | invalidOpcode
  | invalidTss (errorCode : U64)
  | notPresent (errorCode : U64)
  | stackSegment (errorCode : U64)
  | generalProtection (errorCode : U64)
deriving DecidableEq

namespace Fault

def vector : Fault → U8
  | .invalidOpcode => 6#8
  | .invalidTss _ => 10#8
  | .notPresent _ => 11#8
  | .stackSegment _ => 12#8
  | .generalProtection _ => 13#8

def errorCode : Fault → Option U64
  | .invalidOpcode => none
  | .invalidTss code | .notPresent code | .stackSegment code | .generalProtection code => some code

end Fault

/-- GDTR and IDTR. -/
structure TableRegister where
  base : U64
  limit : U16
deriving DecidableEq

/-- The privilege level a selector asks for. -/
def requestedLevel (selector : U16) : BitVec 2 :=
  selector.setWidth 2

/-- A selector without its privilege level. -/
def bareSelector (selector : U16) : U16 :=
  selector &&& 0xFFFC#16

def selectorError (selector : U16) : U64 :=
  (bareSelector selector).setWidth 64

/-! ### Descriptors -/

namespace Descriptor

def present (word : U64) : Bool := word.getLsbD 47

/-- The privilege level of the segment. -/
def level (word : U64) : BitVec 2 := word.extractLsb' 45 2

/-- The type of a system descriptor, with the bit that tells it from a segment. -/
def kind (word : U64) : BitVec 5 := word.extractLsb' 40 5

def isCode (word : U64) : Bool := word.getLsbD 44 && word.getLsbD 43

def isConforming (word : U64) : Bool := word.getLsbD 42

def isLong (word : U64) : Bool := word.getLsbD 53 && !word.getLsbD 54

def isWritableData (word : U64) : Bool := word.getLsbD 44 && !word.getLsbD 43 && word.getLsbD 41

def isReadable (word : U64) : Bool := word.getLsbD 44 && (!word.getLsbD 43 || word.getLsbD 41)

/-- The base address of a system descriptor, which takes two words. -/
def systemBase (low high : U64) : U64 :=
  high.setWidth 32 ++ low.extractLsb' 56 8 ++ low.extractLsb' 32 8 ++ low.extractLsb' 16 16

/-- The offset of the last byte of a segment. -/
def limit (word : U64) : Nat :=
  let units := (word.extractLsb' 48 4 ++ word.extractLsb' 0 16).toNat
  if word.getLsbD 55 then 4096 * units + 4095 else units

/-- The bit of a segment that the processor sets when it loads it. -/
def accessed : U64 := 0x10000000000#64

/-- What the processor may make of an entry of its table. A system descriptor
has its type where a segment has the accessed bit. -/
def Marked (entry word : U64) : Prop :=
  word = entry ∨ (entry.getLsbD 44 = true ∧ word = entry ||| accessed)

namespace Marked

variable {entry word : U64}

theorem refl (entry : U64) : Marked entry entry := Or.inl rfl

theorem mark (hsegment : entry.getLsbD 44 = true) : Marked entry (entry ||| accessed) :=
  Or.inr ⟨hsegment, rfl⟩

theorem or_accessed (hmarked : Marked entry word) : word ||| accessed = entry ||| accessed := by
  rcases hmarked with rfl | ⟨_, rfl⟩
  · rfl
  · rw [BitVec.or_assoc, BitVec.or_self]

/-- Every other bit is the one of the entry. -/
theorem getLsbD (hmarked : Marked entry word) {bit : Nat} (hbit : bit ≠ 40) :
    word.getLsbD bit = entry.getLsbD bit := by
  rcases hmarked with rfl | ⟨_, rfl⟩
  · rfl
  · have hclear : accessed.getLsbD bit = false := by
      change (BitVec.twoPow 64 40).getLsbD bit = false
      rw [BitVec.getLsbD_twoPow, decide_eq_false hbit.symm, Bool.and_false]
    rw [BitVec.getLsbD_or, hclear, Bool.or_false]

theorem trans {last : U64} (hfirst : Marked entry word) (hsecond : Marked word last) :
    Marked entry last := by
  rcases hsecond with rfl | ⟨hsegment, rfl⟩
  · exact hfirst
  · rw [hfirst.or_accessed]
    have hbit := hfirst.getLsbD (show 44 ≠ 40 by decide)
    exact mark (hbit.symm.trans hsegment)

theorem eq_of_system (hmarked : Marked entry word) (hsystem : entry.getLsbD 44 = false) :
    word = entry := by
  rcases hmarked with rfl | ⟨hsegment, _⟩
  · rfl
  · rw [hsystem] at hsegment
    cases hsegment

/-! No check looks at the bit. -/

theorem present (hmarked : Marked entry word) :
    Descriptor.present word = Descriptor.present entry :=
  hmarked.getLsbD (by decide)

theorem level (hmarked : Marked entry word) : Descriptor.level word = Descriptor.level entry := by
  refine BitVec.eq_of_getLsbD_eq fun bit hbit => ?_
  rw [Descriptor.level, Descriptor.level, BitVec.getLsbD_extractLsb', BitVec.getLsbD_extractLsb',
    hmarked.getLsbD (by omega)]

theorem isCode (hmarked : Marked entry word) :
    Descriptor.isCode word = Descriptor.isCode entry := by
  rw [Descriptor.isCode, hmarked.getLsbD (by decide), hmarked.getLsbD (by decide)]
  rfl

theorem isConforming (hmarked : Marked entry word) :
    Descriptor.isConforming word = Descriptor.isConforming entry :=
  hmarked.getLsbD (by decide)

theorem isLong (hmarked : Marked entry word) :
    Descriptor.isLong word = Descriptor.isLong entry := by
  rw [Descriptor.isLong, hmarked.getLsbD (by decide), hmarked.getLsbD (by decide)]
  rfl

theorem isWritableData (hmarked : Marked entry word) :
    Descriptor.isWritableData word = Descriptor.isWritableData entry := by
  rw [Descriptor.isWritableData, hmarked.getLsbD (by decide), hmarked.getLsbD (by decide),
    hmarked.getLsbD (by decide)]
  rfl

theorem isReadable (hmarked : Marked entry word) :
    Descriptor.isReadable word = Descriptor.isReadable entry := by
  rw [Descriptor.isReadable, hmarked.getLsbD (by decide), hmarked.getLsbD (by decide),
    hmarked.getLsbD (by decide)]
  rfl

end Marked

end Descriptor

/-- A descriptor table in memory, whatever the processor has marked in it. -/
def Memory.HoldsTable (memory : Memory) (address : U64) (entries : List U64) : Prop :=
  ∀ index entry, entries[index]? = some entry →
    Descriptor.Marked entry (memory.read64 (address + BitVec.ofNat 64 (8 * index)))

theorem Memory.Holds.holdsTable {memory : Memory} {address : U64} {entries : List U64}
    (hwords : memory.Holds address entries) : memory.HoldsTable address entries := by
  intro index entry hentry
  rw [hwords.getElem hentry]
  exact Descriptor.Marked.refl entry

/-- An entry of the interrupt descriptor table. -/
structure Gate where
  handler : U64
  selector : U16
  stack : BitVec 3
  kind : BitVec 5
  level : BitVec 2
  present : Bool
deriving DecidableEq

def Gate.decode (low high : U64) : Gate where
  handler := high.setWidth 32 ++ low.extractLsb' 48 16 ++ low.extractLsb' 0 16
  selector := low.extractLsb' 16 16
  stack := low.extractLsb' 32 3
  kind := low.extractLsb' 40 5
  level := low.extractLsb' 45 2
  present := low.getLsbD 47

/-! ### The processor -/

/-- A machine with its segmentation state. `tssBase` and `tssLimit` are the
hidden part of the task register. -/
structure Processor extends Machine where
  gdtr : TableRegister
  idtr : TableRegister
  tr : U16
  tssBase : U64
  tssLimit : Nat
  ds : U16
  es : U16
  msrs : U32 → U64

namespace Processor

/-- The current privilege level. -/
def cpl (self : Processor) : BitVec 2 :=
  requestedLevel self.cs

/-- A check: the fault, unless the condition holds. -/
def require (condition : Prop) [Decidable condition] (fault : Fault) : Except Fault Unit :=
  if condition then .ok () else .error fault

/-- The descriptor a selector stands for. -/
def descriptor (self : Processor) (selector : U16) : Except Fault U64 := do
  require (selector.getLsbD 2 = false ∧
    (selector &&& 0xFFF8#16).toNat + 7 ≤ self.gdtr.limit.toNat)
    (.generalProtection (selectorError selector))
  pure (self.memory.read64 (self.gdtr.base + (selector &&& 0xFFF8#16).setWidth 64))

/-- The descriptor of a selector that may not be null. -/
def nonNull (self : Processor) (selector : U16) : Except Fault U64 := do
  require (bareSelector selector ≠ 0#16) (.generalProtection 0#64)
  self.descriptor selector

/-- `LTR`: the task-state segment becomes busy. -/
def loadTaskRegister (self : Processor) (selector : U16) : Except Fault Processor := do
  require (self.cpl = 0#2) (.generalProtection 0#64)
  let low ← self.nonNull selector
  require ((selector &&& 0xFFF8#16).toNat + 15 ≤ self.gdtr.limit.toNat ∧
    Descriptor.kind low = 0x09#5) (.generalProtection (selectorError selector))
  require (Descriptor.present low) (.notPresent (selectorError selector))
  let address := self.gdtr.base + (selector &&& 0xFFF8#16).setWidth 64
  pure {self with
    tr := selector
    tssBase := Descriptor.systemBase low (self.memory.read64 (address + 8#64))
    tssLimit := Descriptor.limit low
    memory := self.memory.write64 address (low ||| 0x20000000000#64)}

/-- `MOV SS`. -/
def loadStackSegment (self : Processor) (selector : U16) : Except Fault Processor := do
  if bareSelector selector = 0#16 then
    require (self.cpl ≠ 3#2 ∧ requestedLevel selector = self.cpl) (.generalProtection 0#64)
  else
    let word ← self.descriptor selector
    require (requestedLevel selector = self.cpl ∧ Descriptor.isWritableData word ∧
      Descriptor.level word = self.cpl) (.generalProtection (selectorError selector))
    require (Descriptor.present word) (.stackSegment (selectorError selector))
  pure {self with ss := selector}

/-- The checks of `MOV DS` and `MOV ES`. -/
def checkDataSegment (self : Processor) (selector : U16) : Except Fault Unit := do
  if bareSelector selector = 0#16 then pure ()
  else
    let word ← self.descriptor selector
    require (Descriptor.isReadable word ∧
      ((Descriptor.isCode word ∧ Descriptor.isConforming word) ∨
        (requestedLevel selector ≤ Descriptor.level word ∧ self.cpl ≤ Descriptor.level word)))
      (.generalProtection (selectorError selector))
    require (Descriptor.present word) (.notPresent (selectorError selector))

def loadDs (self : Processor) (selector : U16) : Except Fault Processor := do
  self.checkDataSegment selector
  pure {self with ds := selector}

def loadEs (self : Processor) (selector : U16) : Except Fault Processor := do
  self.checkDataSegment selector
  pure {self with es := selector}

/-- The checks on the code segment of a far return: it never raises the
privilege. -/
def checkReturnCode (self : Processor) (selector : U16) (rip : U64) : Except Fault Unit := do
  let word ← self.nonNull selector
  require (Descriptor.isCode word ∧ self.cpl ≤ requestedLevel selector ∧
    (if Descriptor.isConforming word then Descriptor.level word ≤ requestedLevel selector
      else Descriptor.level word = requestedLevel selector))
    (.generalProtection (selectorError selector))
  require (Descriptor.present word) (.notPresent (selectorError selector))
  require (canonical rip) (.generalProtection 0#64)

/-- The checks on the stack segment of a return to `level`. -/
def checkReturnStack (self : Processor) (selector : U16) (level : BitVec 2) :
    Except Fault Unit := do
  if bareSelector selector = 0#16 then
    require (level ≠ 3#2 ∧ requestedLevel selector = level) (.generalProtection 0#64)
  else
    let word ← self.descriptor selector
    require (requestedLevel selector = level ∧ Descriptor.isWritableData word ∧
      Descriptor.level word = level) (.generalProtection (selectorError selector))
    require (Descriptor.present word) (.stackSegment (selectorError selector))

/-- `IRETQ` with its checks. -/
def interruptReturn (self : Processor) : Except Fault Processor := do
  let next := self.toMachine.iretq
  require (self.rflags.getLsbD 14 = false) (.generalProtection 0#64)
  self.checkReturnCode next.cs next.rip
  self.checkReturnStack next.ss (requestedLevel next.cs)
  pure {self with toMachine := next}

/-- `RETFQ`: the stack is switched on the way to an outer level only. -/
def farReturn (self : Processor) : Except Fault Processor := do
  let word (index : Nat) := self.memory.read64 (self.regs .rsp + BitVec.ofNat 64 (8 * index))
  let selector := (word 1).setWidth 16
  self.checkReturnCode selector (word 0)
  if requestedLevel selector = self.cpl then
    pure {self with toMachine :=
      {self.setReg .rsp (self.regs .rsp + 16#64) with rip := word 0, cs := selector}}
  else
    self.checkReturnStack ((word 3).setWidth 16) (requestedLevel selector)
    pure {self with toMachine :=
      {self.setReg .rsp (word 2) with
        rip := word 0, cs := selector, ss := (word 3).setWidth 16}}

/-! ### Entering an inner level -/

/-- A stack pointer of the task-state segment. -/
def tssWord (self : Processor) (offset : Nat) : Except Fault U64 := do
  require (offset + 7 ≤ self.tssLimit) (.invalidTss (selectorError self.tr))
  pure (self.memory.read64 (self.tssBase + BitVec.ofNat 64 offset))

/-- The code segment a gate leads to, and the level it runs at. -/
def gateLevel (self : Processor) (selector : U16) : Except Fault (BitVec 2) := do
  let word ← self.nonNull selector
  require (Descriptor.isCode word ∧ Descriptor.isLong word ∧ Descriptor.level word ≤ self.cpl)
    (.generalProtection (selectorError selector))
  require (Descriptor.present word) (.notPresent (selectorError selector))
  pure (if Descriptor.isConforming word then self.cpl else Descriptor.level word)

/-- The stack a gate selects: an interrupt stack, the one of the new level, or
the current one. -/
def stackTop (self : Processor) (stack : BitVec 3) (level : BitVec 2) : Except Fault U64 :=
  if stack ≠ 0#3 then self.tssWord (28 + 8 * stack.toNat)
  else if level < self.cpl then self.tssWord (4 + 8 * level.toNat)
  else .ok (self.regs .rsp)

def gateStack (self : Processor) (stack : BitVec 3) (level : BitVec 2) : Except Fault U64 := do
  let top ← self.stackTop stack level
  require (canonical top) (.stackSegment 0#64)
  pure top

def gateAt (self : Processor) (vector : U8) : Gate :=
  let address := self.idtr.base + BitVec.ofNat 64 (16 * vector.toNat)
  Gate.decode (self.memory.read64 address) (self.memory.read64 (address + 8#64))

/-- The error code that names a vector; its lowest bit says that no instruction
asked for the interrupt. -/
def vectorError (vector : U8) (software : Bool) : U64 :=
  BitVec.ofNat 64 (8 * vector.toNat + 2 + if software then 0 else 1)

/-- The state in which the handler of a gate starts. A trap gate leaves IF set. -/
def enterGate (self : Processor) (gate : Gate) (level : BitVec 2) (stack : U64)
    (errorCode : Option U64) : Processor :=
  {self with toMachine :=
    {self.deliver stack gate.handler (bareSelector gate.selector ||| level.setWidth 16)
        errorCode with
      rflags := self.rflags &&& ~~~(if gate.kind = 0x0F#5 then 0x34100#64 else 0x34300#64)
      ss := if level < self.cpl then level.setWidth 16 else self.ss}}

/-- Interrupt delivery in 64-bit mode. `software` is set for `INT n`, which the
gate must allow. -/
def interrupt (self : Processor) (vector : U8) (software : Bool) (errorCode : Option U64) :
    Except Fault Processor := do
  require (16 * vector.toNat + 15 ≤ self.idtr.limit.toNat)
    (.generalProtection (vectorError vector software))
  let gate := self.gateAt vector
  require ((gate.kind = 0x0E#5 ∨ gate.kind = 0x0F#5) ∧ (software → self.cpl ≤ gate.level))
    (.generalProtection (vectorError vector software))
  require gate.present (.notPresent (vectorError vector software))
  let level ← self.gateLevel gate.selector
  let stack ← self.gateStack gate.stack level
  require (canonical gate.handler) (.generalProtection 0#64)
  pure (self.enterGate gate level stack errorCode)

/-- A far jump or call: to a code segment of the same level, or through a call
gate, which may raise the privilege. The words a call pushes are left out. -/
def farTransfer (self : Processor) (selector : U16) (offset : U64) : Except Fault Processor := do
  let word ← self.nonNull selector
  if Descriptor.isCode word then
    require (if Descriptor.isConforming word then Descriptor.level word ≤ self.cpl
      else requestedLevel selector ≤ self.cpl ∧ Descriptor.level word = self.cpl)
      (.generalProtection (selectorError selector))
    require (Descriptor.present word) (.notPresent (selectorError selector))
    require (canonical offset) (.generalProtection 0#64)
    pure {self with rip := offset, cs := bareSelector selector ||| self.cpl.setWidth 16}
  else
    require (Descriptor.kind word = 0x0C#5 ∧ self.cpl ≤ Descriptor.level word ∧
      requestedLevel selector ≤ Descriptor.level word ∧
      (selector &&& 0xFFF8#16).toNat + 15 ≤ self.gdtr.limit.toNat)
      (.generalProtection (selectorError selector))
    require (Descriptor.present word) (.notPresent (selectorError selector))
    let gate := Gate.decode word (self.memory.read64
      (self.gdtr.base + (selector &&& 0xFFF8#16).setWidth 64 + 8#64))
    let level ← self.gateLevel gate.selector
    let stack ← self.gateStack 0#3 level
    require (canonical gate.handler) (.generalProtection 0#64)
    pure {self with toMachine :=
      {self.setReg .rsp stack with
        rip := gate.handler
        cs := bareSelector gate.selector ||| level.setWidth 16
        ss := if level < self.cpl then level.setWidth 16 else self.ss}}

/-! ### Model-specific registers -/

/-- `RDMSR`: the high and the low half. -/
def rdmsr (self : Processor) (index : U32) : U32 × U32 :=
  ((self.msrs index).extractLsb' 32 32, (self.msrs index).setWidth 32)

/-- `WRMSR`. -/
def wrmsr (self : Processor) (index high low : U32) : Processor :=
  {self with msrs := Function.update self.msrs index (high ++ low)}

/-- What the model-specific registers select. -/
def syscallMsrs (self : Processor) : Machine.SyscallMsrs where
  lstar := self.msrs 0xC0000082#32
  fmask := self.msrs 0xC0000084#32
  kernelCode := bareSelector ((self.msrs 0xC0000081#32).extractLsb' 32 16)
  kernelStack := (self.msrs 0xC0000081#32).extractLsb' 32 16 + 8#16
  userCode := ((self.msrs 0xC0000081#32).extractLsb' 48 16 + 16#16) ||| 3#16
  userStack := ((self.msrs 0xC0000081#32).extractLsb' 48 16 + 8#16) ||| 3#16

/-- `SYSCALL`, if EFER enables it. It checks no descriptor. -/
def systemCall (self : Processor) : Except Fault Processor := do
  require ((self.msrs 0xC0000080#32).getLsbD 0) .invalidOpcode
  pure {self with toMachine := self.toMachine.syscall self.syscallMsrs}

/-- `SYSRETQ`. -/
def systemReturn (self : Processor) : Except Fault Processor := do
  require ((self.msrs 0xC0000080#32).getLsbD 0) .invalidOpcode
  require (self.cpl = 0#2 ∧ canonical (self.regs .rcx)) (.generalProtection 0#64)
  pure {self with toMachine := self.toMachine.sysretq self.syscallMsrs}

/-! ### Runs -/

/-- What a program, a fault or a device does next, as far as segmentation is
concerned. -/
inductive Action where
  /-- Code that touches no segment register. -/
  | compute (next : Machine)
  /-- An instruction reserved for ring 0. -/
  | privileged
  | loadStackSegment (selector : U16)
  | loadDs (selector : U16)
  | loadEs (selector : U16)
  | farTransfer (selector : U16) (offset : U64)
  | farReturn
  | interruptReturn
  | systemCall
  | systemReturn
  | interrupt (vector : U8) (software : Bool) (errorCode : Option U64)

def act (self : Processor) : Action → Except Fault Processor
  | .compute next => .ok {self with toMachine := {next with cs := self.cs, ss := self.ss}}
  | .privileged => do
      require (self.cpl = 0#2) (.generalProtection 0#64)
      pure self
  | .loadStackSegment selector => self.loadStackSegment selector
  | .loadDs selector => self.loadDs selector
  | .loadEs selector => self.loadEs selector
  | .farTransfer selector offset => self.farTransfer selector offset
  | .farReturn => self.farReturn
  | .interruptReturn => self.interruptReturn
  | .systemCall => self.systemCall
  | .systemReturn => self.systemReturn
  | .interrupt vector software errorCode => self.interrupt vector software errorCode

/-- The code that may store to memory. -/
def Action.computes : Action → Bool
  | .compute _ => true
  | _ => false

/-- The exceptions whose own delivery must not fault. -/
def Action.contributory : Action → Bool
  | .interrupt vector false _ => vector ∈ [0#8, 10#8, 11#8, 12#8, 13#8, 14#8]
  | _ => false

/-- A fault that cannot be delivered is a double fault, and a double fault that
cannot be delivered shuts the processor down. -/
def doubleFault (self : Processor) : Option Processor :=
  (self.interrupt 8#8 false (some 0#64)).toOption

def raise (self : Processor) (fault : Fault) : Option Processor :=
  match self.interrupt fault.vector false fault.errorCode with
  | .ok next => some next
  | .error _ => self.doubleFault

def step (self : Processor) (action : Action) : Option Processor :=
  match self.act action with
  | .ok next => some next
  | .error fault => if action.contributory then self.doubleFault else self.raise fault

/-! ### What a check that passes has seen -/

variable {self next : Processor} {α : Type}

@[simp] theorem require_bind (condition : Prop) [Decidable condition] (fault : Fault)
    (rest : Unit → Except Fault α) :
    (require condition fault >>= rest) = if condition then rest () else .error fault := by
  unfold require
  split <;> rfl

theorem require_bind_ok {condition : Prop} [Decidable condition] {fault : Fault}
    {rest : Unit → Except Fault α} {value : α} :
    (require condition fault >>= rest) = .ok value ↔ condition ∧ rest () = .ok value := by
  rw [require_bind]
  split <;> simp_all

theorem bind_ok_iff {first : Except Fault α} {β : Type} {rest : α → Except Fault β} {value : β} :
    (first >>= rest) = .ok value ↔ ∃ middle, first = .ok middle ∧ rest middle = .ok value := by
  cases first <;> simp [bind, Except.bind]

theorem ok_bind {β : Type} (value : α) (rest : α → Except Fault β) :
    ((.ok value : Except Fault α) >>= rest) = rest value := rfl

theorem pure_eq_ok {value : α} : (pure value : Except Fault α) = .ok value := rfl

end Processor

/-- Two spans neither of which starts within the other. -/
theorem Memory.span_apart {left right : U64} {size total : Nat}
    (hright : size ≤ (right - left).toNat) (hleft : total ≤ (left - right).toNat) :
    Disjoint (Memory.span left size) (Memory.span right total) := by
  rw [Set.disjoint_left]
  intro address hin hother
  rw [Memory.mem_span] at hin hother
  bv_omega

/-- A word stored over one of a row. -/
theorem Memory.Holds.write64_set {memory : Memory} {address : U64} {words : List U64}
    (hwords : memory.Holds address words) (hroom : 8 * words.length ≤ 2 ^ 64) {index : Nat}
    (hindex : index < words.length) (value : U64) :
    (memory.write64 (address + BitVec.ofNat 64 (8 * index)) value).Holds address
      (words.set index value) := by
  induction words generalizing address index with
  | nil => exact absurd hindex (Nat.not_lt_zero _)
  | cons word rest ih =>
      rw [List.length_cons] at hroom hindex
      cases index with
      | zero =>
          rw [Nat.mul_zero, BitVec.add_zero]
          refine ⟨Memory.read64_write64 _ _ _, hwords.2.congr fun offset hoffset => ?_⟩
          apply Memory.write64_outside
          have hdiff : address + 8#64 + BitVec.ofNat 64 offset - address =
              BitVec.ofNat 64 (8 + offset) := by
            rw [BitVec.ofNat_add]
            bv_omega
          rw [hdiff, BitVec.toNat_ofNat]
          omega
      | succ index =>
          have hshift : address + BitVec.ofNat 64 (8 * (index + 1)) =
              address + 8#64 + BitVec.ofNat 64 (8 * index) := by
            rw [BitVec.add_assoc, ← BitVec.ofNat_add, Nat.mul_succ, Nat.add_comm]
          rw [hshift]
          refine ⟨?_, ih hwords.2 (by omega) (by omega)⟩
          rw [Memory.read64_write64_apart, hwords.1]
          generalize hbytes : 8 * index = bytes
          constructor <;> bv_omega

/-! ### Selectors -/

/-- Clearing the low bits rounds down. -/
theorem clearLow_toNat {width : Nat} (value mask : BitVec width) (low : Nat)
    (hmask : ∀ bit < width, mask.getLsbD bit = decide (low ≤ bit)) :
    (value &&& mask).toNat = value.toNat / 2 ^ low * 2 ^ low := by
  have hshift : value &&& mask = (value >>> low) <<< low := by
    refine BitVec.eq_of_getLsbD_eq fun bit hbit => ?_
    rw [BitVec.getLsbD_and, hmask bit hbit, BitVec.getLsbD_shiftLeft, BitVec.getLsbD_ushiftRight]
    by_cases hlow : bit < low
    · simp [hlow, not_le.mpr hlow]
    · simp [hlow, hbit, not_lt.mp hlow, Nat.add_sub_cancel' (not_lt.mp hlow)]
  have hbound : value.toNat / 2 ^ low * 2 ^ low < 2 ^ width :=
    lt_of_le_of_lt (Nat.div_mul_le_self _ _) value.isLt
  rw [hshift, BitVec.toNat_shiftLeft, BitVec.toNat_ushiftRight, Nat.shiftRight_eq_div_pow,
    Nat.shiftLeft_eq, Nat.mod_eq_of_lt hbound]

theorem bareSelector_toNat (selector : U16) :
    (bareSelector selector).toNat = selector.toNat / 4 * 4 :=
  clearLow_toNat selector 0xFFFC#16 2 (by decide)

theorem tableOffset_toNat (selector : U16) :
    (selector &&& 0xFFF8#16).toNat = selector.toNat / 8 * 8 :=
  clearLow_toNat selector 0xFFF8#16 3 (by decide)

theorem requestedLevel_toNat (selector : U16) :
    (requestedLevel selector).toNat = selector.toNat % 4 :=
  BitVec.toNat_setWidth 2 selector

/-- A selector is its table entry and its level. -/
theorem selector_ext {left right : U16} (hbare : bareSelector left = bareSelector right)
    (hlevel : requestedLevel left = requestedLevel right) : left = right := by
  have hbareNat := congrArg BitVec.toNat hbare
  have hlevelNat := congrArg BitVec.toNat hlevel
  rw [bareSelector_toNat, bareSelector_toNat] at hbareNat
  rw [requestedLevel_toNat, requestedLevel_toNat] at hlevelNat
  exact BitVec.eq_of_toNat_eq (by omega)

namespace Processor

variable {self next : Processor}

theorem tableOffset_eq (selector : U16) :
    (selector &&& 0xFFF8#16).setWidth 64 = BitVec.ofNat 64 (8 * (selector.toNat / 8)) := by
  apply BitVec.eq_of_toNat_eq
  rw [BitVec.toNat_setWidth, tableOffset_toNat, BitVec.toNat_ofNat, Nat.mul_comm]

/-- A selector of the table leads to the word at its place. -/
theorem descriptor_ok_iff {count : Nat} (hlimit : self.gdtr.limit.toNat + 1 = 8 * count)
    {selector : U16} {word : U64} :
    self.descriptor selector = .ok word ↔
      ((bareSelector selector).toNat = 8 * (selector.toNat / 8) ∧ selector.toNat / 8 < count) ∧
        self.memory.read64 (self.gdtr.base + BitVec.ofNat 64 (8 * (selector.toNat / 8))) =
          word := by
  have htable : selector.getLsbD 2 = false ↔
      (bareSelector selector).toNat = 8 * (selector.toNat / 8) := by
    rw [bareSelector_toNat, BitVec.getLsbD, Nat.testBit_eq_decide_div_mod_eq,
      decide_eq_false_iff_not]
    omega
  have hroom : selector.toNat / 8 * 8 + 7 ≤ self.gdtr.limit.toNat ↔ selector.toNat / 8 < count := by
    omega
  rw [descriptor, require_bind_ok, htable, tableOffset_toNat, tableOffset_eq, pure_eq_ok,
    Except.ok.injEq, hroom]

section Table

variable {entries : List U64} (hlimit : self.gdtr.limit.toNat + 1 = 8 * entries.length)
  (htable : self.memory.HoldsTable self.gdtr.base entries)

include hlimit htable

/-- The processor finds the entries of its table only, and only under selectors
of that table. -/
theorem entry_of_descriptor {selector : U16} {word : U64}
    (hword : self.descriptor selector = .ok word) :
    (bareSelector selector).toNat = 8 * (selector.toNat / 8) ∧
      ∃ entry, entries[selector.toNat / 8]? = some entry ∧ Descriptor.Marked entry word := by
  obtain ⟨⟨hbare, hindex⟩, rfl⟩ := (descriptor_ok_iff hlimit).mp hword
  have hentry := List.getElem?_eq_getElem hindex
  exact ⟨hbare, _, hentry, htable _ _ hentry⟩

theorem descriptor_of_entry {selector : U16} {entry : U64}
    (hbare : (bareSelector selector).toNat = 8 * (selector.toNat / 8))
    (hentry : entries[selector.toNat / 8]? = some entry) :
    ∃ word, self.descriptor selector = .ok word ∧ Descriptor.Marked entry word := by
  obtain ⟨hindex, _⟩ := List.getElem?_eq_some_iff.mp hentry
  exact ⟨_, (descriptor_ok_iff hlimit).mpr ⟨⟨hbare, hindex⟩, rfl⟩, htable _ _ hentry⟩

end Table

theorem require_ok {condition : Prop} [Decidable condition] {fault : Fault} :
    require condition fault = .ok () ↔ condition := by
  unfold require
  split <;> simp_all

theorem nonNull_ok {selector : U16} {word : U64} :
    self.nonNull selector = .ok word ↔
      bareSelector selector ≠ 0#16 ∧ self.descriptor selector = .ok word := by
  rw [nonNull, require_bind_ok]

/-- What a far return has found about its code segment. -/
theorem checkReturnCode_ok {selector : U16} {rip : U64} :
    self.checkReturnCode selector rip = .ok () ↔
      ∃ word, self.nonNull selector = .ok word ∧
        (Descriptor.isCode word ∧ self.cpl ≤ requestedLevel selector ∧
          (if Descriptor.isConforming word then Descriptor.level word ≤ requestedLevel selector
            else Descriptor.level word = requestedLevel selector)) ∧
        Descriptor.present word ∧ canonical rip := by
  rw [checkReturnCode, bind_ok_iff]
  simp only [require_bind_ok, require_ok]

/-- What a return has found about its stack segment. -/
theorem checkReturnStack_ok {selector : U16} {level : BitVec 2} :
    self.checkReturnStack selector level = .ok () ↔
      if bareSelector selector = 0#16 then level ≠ 3#2 ∧ requestedLevel selector = level
      else ∃ word, self.descriptor selector = .ok word ∧
        (requestedLevel selector = level ∧ Descriptor.isWritableData word ∧
          Descriptor.level word = level) ∧ Descriptor.present word := by
  unfold checkReturnStack
  split
  · exact require_ok
  · rw [bind_ok_iff]
    simp only [require_bind_ok, require_ok]

/-- `MOV SS` checks what a return to the current level checks. -/
theorem loadStackSegment_ok {selector : U16} :
    self.loadStackSegment selector = .ok next ↔
      self.checkReturnStack selector self.cpl = .ok () ∧ {self with ss := selector} = next := by
  rw [checkReturnStack_ok, loadStackSegment]
  split
  · rw [require_bind_ok, pure_eq_ok, Except.ok.injEq]
  · rw [bind_ok_iff]
    simp only [require_bind_ok, pure_eq_ok, Except.ok.injEq, and_assoc, ← exists_and_right]

theorem checkDataSegment_ok {selector : U16} {word : U64}
    (hword : self.descriptor selector = .ok word) (hreadable : Descriptor.isReadable word = true)
    (hlevel : requestedLevel selector ≤ Descriptor.level word ∧ self.cpl ≤ Descriptor.level word)
    (hpresent : Descriptor.present word = true) : self.checkDataSegment selector = .ok () := by
  unfold checkDataSegment
  split
  · rfl
  · rw [bind_ok_iff]
    refine ⟨word, hword, ?_⟩
    rw [require_bind_ok, require_ok]
    exact ⟨⟨hreadable, Or.inr hlevel⟩, hpresent⟩

theorem interruptReturn_ok :
    self.interruptReturn = .ok next ↔
      self.rflags.getLsbD 14 = false ∧
        self.checkReturnCode self.iretq.cs self.iretq.rip = .ok () ∧
        self.checkReturnStack self.iretq.ss (requestedLevel self.iretq.cs) = .ok () ∧
        {self with toMachine := self.toMachine.iretq} = next := by
  rw [interruptReturn, require_bind_ok, bind_ok_iff]
  constructor
  · rintro ⟨hnested, _, hcode, hrest⟩
    obtain ⟨_, hstack, hnext⟩ := bind_ok_iff.mp hrest
    cases hnext
    exact ⟨hnested, hcode, hstack, rfl⟩
  · rintro ⟨hnested, hcode, hstack, rfl⟩
    exact ⟨hnested, (), hcode, bind_ok_iff.mpr ⟨(), hstack, rfl⟩⟩

/-- The state that segment loads and far transfers leave alone. -/
structure Untouched (before after : Processor) : Prop where
  memory : after.memory = before.memory
  gdtr : after.gdtr = before.gdtr
  idtr : after.idtr = before.idtr
  tssBase : after.tssBase = before.tssBase
  tssLimit : after.tssLimit = before.tssLimit
  msrs : after.msrs = before.msrs

theorem farReturn_untouched (hact : self.farReturn = .ok next) : Untouched self next := by
  rw [farReturn, bind_ok_iff] at hact
  obtain ⟨_, _, hrest⟩ := hact
  split at hrest
  · cases hrest
    exact ⟨rfl, rfl, rfl, rfl, rfl, rfl⟩
  · obtain ⟨_, _, hnext⟩ := bind_ok_iff.mp hrest
    cases hnext
    exact ⟨rfl, rfl, rfl, rfl, rfl, rfl⟩

theorem farTransfer_untouched {selector : U16} {offset : U64}
    (hact : self.farTransfer selector offset = .ok next) : Untouched self next := by
  rw [farTransfer, bind_ok_iff] at hact
  obtain ⟨word, _, hrest⟩ := hact
  split at hrest
  · rw [require_bind_ok, require_bind_ok, require_bind_ok] at hrest
    cases hrest.2.2.2
    exact ⟨rfl, rfl, rfl, rfl, rfl, rfl⟩
  · rw [require_bind_ok, require_bind_ok] at hrest
    obtain ⟨level, _, hlevel⟩ := bind_ok_iff.mp hrest.2.2
    obtain ⟨stack, _, hstack⟩ := bind_ok_iff.mp hlevel
    rw [require_bind_ok] at hstack
    cases hstack.2
    exact ⟨rfl, rfl, rfl, rfl, rfl, rfl⟩

/-- Only computation and interrupt delivery store to memory. -/
theorem act_untouched {action : Action} (hcomputes : action.computes = false)
    (hinterrupt : ∀ vector software errorCode, action ≠ .interrupt vector software errorCode)
    (hact : self.act action = .ok next) : Untouched self next := by
  cases action with
  | compute machine => cases hcomputes
  | privileged =>
      cases (require_bind_ok.mp hact).2
      exact ⟨rfl, rfl, rfl, rfl, rfl, rfl⟩
  | loadStackSegment selector =>
      obtain ⟨_, rfl⟩ := loadStackSegment_ok.mp hact
      exact ⟨rfl, rfl, rfl, rfl, rfl, rfl⟩
  | loadDs selector =>
      obtain ⟨_, _, hnext⟩ := bind_ok_iff.mp hact
      cases hnext
      exact ⟨rfl, rfl, rfl, rfl, rfl, rfl⟩
  | loadEs selector =>
      obtain ⟨_, _, hnext⟩ := bind_ok_iff.mp hact
      cases hnext
      exact ⟨rfl, rfl, rfl, rfl, rfl, rfl⟩
  | farTransfer selector offset => exact farTransfer_untouched hact
  | farReturn => exact farReturn_untouched hact
  | interruptReturn =>
      obtain ⟨_, _, _, rfl⟩ := interruptReturn_ok.mp hact
      exact ⟨rfl, rfl, rfl, rfl, rfl, rfl⟩
  | systemCall =>
      cases (require_bind_ok.mp hact).2
      exact ⟨rfl, rfl, rfl, rfl, rfl, rfl⟩
  | systemReturn =>
      cases (require_bind_ok.mp (require_bind_ok.mp hact).2).2
      exact ⟨rfl, rfl, rfl, rfl, rfl, rfl⟩
  | interrupt vector software errorCode => exact absurd rfl (hinterrupt vector software errorCode)

end Processor

end UnboundOS.X86
