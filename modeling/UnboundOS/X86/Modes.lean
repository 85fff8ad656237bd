import UnboundOS.X86.Segments

/-!
The way from real mode to 64-bit mode: the control registers, EFER, the hidden
part of CS, and the instructions that set them, each with the checks that can
refuse it. A segment register that is loaded from a descriptor table sets the
accessed bit there. Segment limits, 32-bit paging and the task switch are left
out, and so are the accessed and dirty bits of page tables.
-/

namespace UnboundOS.X86

/-- A processor with the state that decides its mode. `csWord` is the descriptor
behind CS. With `a20` off, bit 20 of a physical address reads as zero. -/
structure ModeProcessor extends Processor where
  cr0 : U64
  cr3 : U64
  cr4 : U64
  csWord : U64
  a20 : Bool

inductive Mode where
  | real
  | bits32
  | compatibility
  | bits64
deriving DecidableEq, Repr

namespace ModeProcessor

def efer (self : ModeProcessor) : U64 := self.msrs 0xC0000080#32

def isProtected (self : ModeProcessor) : Bool := self.cr0.getLsbD 0

def paging (self : ModeProcessor) : Bool := self.cr0.getLsbD 31

def longEnabled (self : ModeProcessor) : Bool := self.efer.getLsbD 8

def longActive (self : ModeProcessor) : Bool := self.efer.getLsbD 10

def mode (self : ModeProcessor) : Mode :=
  if !self.isProtected then .real
  else if !self.longActive then .bits32
  else if Descriptor.isLong self.csWord then .bits64
  else .compatibility

def setEfer (self : ModeProcessor) (value : U64) : ModeProcessor :=
  {self with msrs := Function.update self.msrs 0xC0000080#32 value}

/-- `MOV CR0`. Turning paging on with long mode enabled activates long mode, and
takes PAE and a code segment that is not a 64-bit one. -/
def loadCr0 (self : ModeProcessor) (value : U64) : Except Fault ModeProcessor := do
  Processor.require (value.getLsbD 31 = true → value.getLsbD 0 = true) (.generalProtection 0#64)
  if value.getLsbD 31 = true ∧ self.paging = false ∧ self.longEnabled = true then
    Processor.require (self.cr4.getLsbD 5 = true ∧ self.csWord.getLsbD 53 = false)
      (.generalProtection 0#64)
    pure {self.setEfer (self.efer ||| 0x400#64) with cr0 := value}
  else if value.getLsbD 31 = false ∧ self.longActive = true then
    Processor.require (Descriptor.isLong self.csWord = false) (.generalProtection 0#64)
    pure {self.setEfer (self.efer &&& ~~~0x400#64) with cr0 := value}
  else pure {self with cr0 := value}

/-- `MOV CR4`. -/
def loadCr4 (self : ModeProcessor) (value : U64) : Except Fault ModeProcessor := do
  Processor.require (self.longActive = true → value.getLsbD 5 = true) (.generalProtection 0#64)
  pure {self with cr4 := value}

/-- `WRMSR` to EFER: long mode is enabled or disabled without paging only, and
whether it is active cannot be written. -/
def writeEfer (self : ModeProcessor) (value : U64) : Except Fault ModeProcessor := do
  Processor.require (self.paging = true → value.getLsbD 8 = self.longEnabled)
    (.generalProtection 0#64)
  pure (self.setEfer ((value &&& ~~~0x400#64) ||| (self.efer &&& 0x400#64)))

/-- The accessed bit of the descriptor behind a selector that is loaded. -/
def markAccessed (self : ModeProcessor) (selector : U16) : ModeProcessor :=
  if bareSelector selector = 0#16 then self
  else
    let address := self.gdtr.base + (selector &&& 0xFFF8#16).setWidth 64
    {self with
      memory := self.memory.write64 address (self.memory.read64 address ||| Descriptor.accessed)}

/-- A far jump to a code segment of the current level, outside real mode. -/
def farJump (self : ModeProcessor) (selector : U16) (offset : U64) :
    Except Fault ModeProcessor := do
  let word ← self.nonNull selector
  Processor.require (Descriptor.isCode word = true ∧ Descriptor.isConforming word = false ∧
    requestedLevel selector ≤ self.cpl ∧ Descriptor.level word = self.cpl ∧
    ¬(self.longActive = true ∧ word.getLsbD 53 = true ∧ word.getLsbD 54 = true))
    (.generalProtection (selectorError selector))
  Processor.require (Descriptor.present word = true) (.notPresent (selectorError selector))
  Processor.require (canonical offset = true) (.generalProtection 0#64)
  pure {self.markAccessed selector with
    cs := bareSelector selector ||| self.cpl.setWidth 16
    csWord := word ||| Descriptor.accessed
    rip := offset}

/-- The segment registers of a data segment. -/
inductive DataRegister where
  | ds
  | es
  | fs
  | gs
deriving DecidableEq, Repr

/-- FS and GS are not kept. -/
def setData (self : ModeProcessor) (register : DataRegister) (selector : U16) : ModeProcessor :=
  match register with
  | .ds => {self with ds := selector}
  | .es => {self with es := selector}
  | .fs | .gs => self

/-- `MOV` to a data segment register. -/
def loadData (self : ModeProcessor) (register : DataRegister) (selector : U16) :
    Except Fault ModeProcessor := do
  self.checkDataSegment selector
  pure ((self.markAccessed selector).setData register selector)

/-- `MOV SS`. -/
def loadStack (self : ModeProcessor) (selector : U16) : Except Fault ModeProcessor := do
  let next ← self.loadStackSegment selector
  pure (markAccessed {self with toProcessor := next} selector)

/-- The instructions of a mode switch. -/
inductive Switch where
  | cli
  /-- With 16-bit operands: a limit and 24 bits of a base. -/
  | lgdt (address : U64)
  | orCr0 (bits : U64)
  | orCr4 (bits : U64)
  | orEfer (bits : U64)
  | movCr3 (value : U64)
  | farJump (selector : U16) (offset : U64)
  | movData (register : DataRegister) (selector : U16)
  | movStack (selector : U16)
  | movRsp (value : U64)
  | enableA20

def execute (self : ModeProcessor) : Switch → Except Fault ModeProcessor
  | .cli => pure {self with rflags := self.rflags &&& ~~~0x200#64}
  | .lgdt address => pure {self with gdtr :=
      ⟨(self.memory.read32 (address + 2#64) &&& 0xFFFFFF#32).setWidth 64,
        self.memory.read16 address⟩}
  | .orCr0 bits => self.loadCr0 (self.cr0 ||| bits)
  | .orCr4 bits => self.loadCr4 (self.cr4 ||| bits)
  | .orEfer bits => self.writeEfer (self.efer ||| bits)
  | .movCr3 value => pure {self with cr3 := value}
  | .farJump selector offset => self.farJump selector offset
  | .movData register selector => self.loadData register selector
  | .movStack selector => self.loadStack selector
  | .movRsp value => pure {self with toMachine := self.setReg .rsp value}
  | .enableA20 => pure {self with a20 := true}

def executeAll (self : ModeProcessor) (program : List Switch) : Except Fault ModeProcessor :=
  program.foldlM execute self

end ModeProcessor

/-! ### Rules -/

/-- The registers that a mode switch reads or sets. -/
structure ModeState where
  cr0 : U64
  cr3 : U64
  cr4 : U64
  efer : U64
  rflags : U64
  rsp : U64
  rip : U64
  cs : U16
  csWord : U64
  ss : U16
  ds : U16
  es : U16
  a20 : Bool
  gdtr : TableRegister

def ModeProcessor.state (self : ModeProcessor) : ModeState where
  cr0 := self.cr0
  cr3 := self.cr3
  cr4 := self.cr4
  efer := self.efer
  rflags := self.rflags
  rsp := self.regs .rsp
  rip := self.rip
  cs := self.cs
  csWord := self.csWord
  ss := self.ss
  ds := self.ds
  es := self.es
  a20 := self.a20
  gdtr := self.gdtr

def ModeState.setData (self : ModeState) (register : ModeProcessor.DataRegister) (selector : U16) :
    ModeState :=
  match register with
  | .ds => {self with ds := selector}
  | .es => {self with es := selector}
  | .fs | .gs => self

/-- From these registers, and in every memory of that kind, the program runs
without a fault and ends with those registers in a memory of that kind. -/
def Leads (kind : Memory → Prop) (state : ModeState) (program : List ModeProcessor.Switch)
    (final : ModeState) : Prop :=
  ∀ self : ModeProcessor, self.state = state → kind self.memory →
    ∃ next, self.executeAll program = .ok next ∧ next.state = final ∧ kind next.memory

namespace Leads

open ModeProcessor

variable {kind : Memory → Prop} {state final : ModeState} {program : List Switch}

theorem nil (kind : Memory → Prop) (state : ModeState) : Leads kind state [] state :=
  fun self hstate hmemory => ⟨self, rfl, hstate, hmemory⟩

/-- One instruction, then the rest. -/
theorem cons {instruction : Switch} {middle : ModeState}
    (hstep : ∀ self : ModeProcessor, self.state = state → kind self.memory →
      ∃ next, self.execute instruction = .ok next ∧ next.state = middle ∧ kind next.memory)
    (hrest : Leads kind middle program final) :
    Leads kind state (instruction :: program) final := by
  intro self hstate hmemory
  obtain ⟨next, hnext, hmiddle, hkept⟩ := hstep self hstate hmemory
  obtain ⟨last, hlast, hfinal, hend⟩ := hrest next hmiddle hkept
  refine ⟨last, ?_, hfinal, hend⟩
  rw [executeAll, List.foldlM_cons, hnext]
  exact hlast

theorem append {middle : ModeState} {rest : List Switch} (hfirst : Leads kind state program middle)
    (hrest : Leads kind middle rest final) : Leads kind state (program ++ rest) final := by
  intro self hstate hmemory
  obtain ⟨next, hnext, hmiddle, hkept⟩ := hfirst self hstate hmemory
  obtain ⟨last, hlast, hfinal, hend⟩ := hrest next hmiddle hkept
  refine ⟨last, ?_, hfinal, hend⟩
  rw [executeAll] at hnext
  rw [executeAll, List.foldlM_append, hnext]
  exact hlast

theorem cli
    (hrest : Leads kind {state with rflags := state.rflags &&& ~~~0x200#64} program final) :
    Leads kind state (.cli :: program) final := by
  refine cons ?_ hrest
  rintro self rfl hmemory
  exact ⟨_, rfl, rfl, hmemory⟩

theorem lgdt {address : U64} {limit : U16} {base : U32}
    (hlimit : ∀ memory, kind memory → memory.read16 address = limit)
    (hbase : ∀ memory, kind memory → memory.read32 (address + 2#64) = base)
    (hrest : Leads kind {state with gdtr := ⟨(base &&& 0xFFFFFF#32).setWidth 64, limit⟩}
      program final) :
    Leads kind state (.lgdt address :: program) final := by
  refine cons ?_ hrest
  rintro self rfl hmemory
  rw [← hlimit _ hmemory, ← hbase _ hmemory]
  exact ⟨_, rfl, rfl, hmemory⟩

theorem movCr3 {value : U64} (hrest : Leads kind {state with cr3 := value} program final) :
    Leads kind state (.movCr3 value :: program) final := by
  refine cons ?_ hrest
  rintro self rfl hmemory
  exact ⟨_, rfl, rfl, hmemory⟩

theorem enableA20 (hrest : Leads kind {state with a20 := true} program final) :
    Leads kind state (.enableA20 :: program) final := by
  refine cons ?_ hrest
  rintro self rfl hmemory
  exact ⟨_, rfl, rfl, hmemory⟩

theorem movRsp {value : U64} (hrest : Leads kind {state with rsp := value} program final) :
    Leads kind state (.movRsp value :: program) final := by
  refine cons ?_ hrest
  rintro self rfl hmemory
  refine ⟨_, rfl, ?_, hmemory⟩
  simp [ModeProcessor.state, Machine.setReg, efer]

/-- Protection without paging. -/
theorem orCr0_protect {bits : U64} (hpaging : (state.cr0 ||| bits).getLsbD 31 = false)
    (hactive : state.efer.getLsbD 10 = false)
    (hrest : Leads kind {state with cr0 := state.cr0 ||| bits} program final) :
    Leads kind state (.orCr0 bits :: program) final := by
  refine cons ?_ hrest
  rintro self rfl hmemory
  refine ⟨{self with cr0 := self.cr0 ||| bits}, ?_, rfl, hmemory⟩
  have hpaging' : (self.cr0 ||| bits).getLsbD 31 = false := hpaging
  have hactive' : self.longActive = false := hactive
  rw [execute, loadCr0, Processor.require_bind, if_pos (by rw [hpaging']; simp),
    if_neg (by rw [hpaging']; simp), if_neg (by rw [hactive']; simp)]
  rfl

/-- Paging with long mode enabled. -/
theorem orCr0_activate {bits : U64} (hpaging : (state.cr0 ||| bits).getLsbD 31 = true)
    (hprotected : (state.cr0 ||| bits).getLsbD 0 = true) (hbefore : state.cr0.getLsbD 31 = false)
    (henabled : state.efer.getLsbD 8 = true) (hpae : state.cr4.getLsbD 5 = true)
    (hcode : state.csWord.getLsbD 53 = false)
    (hrest : Leads kind {state with cr0 := state.cr0 ||| bits, efer := state.efer ||| 0x400#64}
      program final) :
    Leads kind state (.orCr0 bits :: program) final := by
  refine cons ?_ hrest
  rintro self rfl hmemory
  refine ⟨{self.setEfer (self.efer ||| 0x400#64) with cr0 := self.cr0 ||| bits}, ?_, ?_, hmemory⟩
  · have hallowed : (self.cr0 ||| bits).getLsbD 31 = true → (self.cr0 ||| bits).getLsbD 0 = true :=
      fun _ => hprotected
    have hturned : (self.cr0 ||| bits).getLsbD 31 = true ∧ self.paging = false ∧
        self.longEnabled = true := ⟨hpaging, hbefore, henabled⟩
    have hchecks : self.cr4.getLsbD 5 = true ∧ self.csWord.getLsbD 53 = false := ⟨hpae, hcode⟩
    rw [execute, loadCr0, Processor.require_bind, if_pos hallowed, if_pos hturned,
      Processor.require_bind, if_pos hchecks]
    rfl
  · simp [ModeProcessor.state, setEfer, efer]

theorem orCr4 {bits : U64} (hactive : state.efer.getLsbD 10 = false)
    (hrest : Leads kind {state with cr4 := state.cr4 ||| bits} program final) :
    Leads kind state (.orCr4 bits :: program) final := by
  refine cons ?_ hrest
  rintro self rfl hmemory
  refine ⟨{self with cr4 := self.cr4 ||| bits}, ?_, rfl, hmemory⟩
  have hactive' : self.longActive = false := hactive
  rw [execute, loadCr4, Processor.require_bind, if_pos (by rw [hactive']; simp)]
  rfl

/-- Bit 10 of EFER is kept, so it must not be among the bits. -/
theorem orEfer {bits : U64} (hpaging : state.cr0.getLsbD 31 = false)
    (hbits : bits &&& 0x400#64 = 0#64)
    (hrest : Leads kind {state with efer := state.efer ||| bits} program final) :
    Leads kind state (.orEfer bits :: program) final := by
  have hkept (value : U64) : (value ||| bits) &&& ~~~0x400#64 ||| value &&& 0x400#64 =
      value ||| bits := by
    refine BitVec.eq_of_getLsbD_eq fun index hindex => ?_
    have hbit := congrArg (fun word => word.getLsbD index) hbits
    simp only [BitVec.getLsbD_and, BitVec.getLsbD_zero] at hbit
    simp only [BitVec.getLsbD_or, BitVec.getLsbD_and, BitVec.getLsbD_not, hindex, decide_true,
      Bool.true_and]
    cases hmask : (0x400#64).getLsbD index <;> simp_all
  refine cons ?_ hrest
  rintro self rfl hmemory
  have hpaging' : self.paging = false := hpaging
  refine ⟨self.setEfer (self.efer ||| bits), ?_, ?_, hmemory⟩
  · rw [execute, writeEfer, Processor.require_bind, if_pos (by rw [hpaging']; simp), hkept]
    rfl
  · simp [ModeProcessor.state, setEfer, efer]

/-! ### Loads from a descriptor table -/

end Leads

/-- The memory after some loads: the table is there, with what the processor has
marked in it, and everything else is as it was. -/
structure Memory.MarksTable (base : U64) (entries : List U64) (before after : Memory) : Prop where
  table : after.HoldsTable base entries
  outside : Memory.SameOutside (Memory.span base (8 * entries.length)) before after

/-- One more load. -/
theorem Memory.MarksTable.mark {base : U64} {entries : List U64} {before after : Memory}
    (hmarks : Memory.MarksTable base entries before after) (hroom : 8 * entries.length ≤ 2 ^ 64)
    {index : Nat} {entry : U64} (hentry : entries[index]? = some entry)
    (hsegment : entry.getLsbD 44 = true) :
    Memory.MarksTable base entries before (after.write64 (base + BitVec.ofNat 64 (8 * index))
      (after.read64 (base + BitVec.ofNat 64 (8 * index)) ||| Descriptor.accessed)) := by
  obtain ⟨hindex, _⟩ := List.getElem?_eq_some_iff.mp hentry
  constructor
  · intro other word hword
    obtain ⟨hother, _⟩ := List.getElem?_eq_some_iff.mp hword
    by_cases hsame : other = index
    · subst hsame
      rw [Option.some.inj (hword.symm.trans hentry), Memory.read64_write64,
        (hmarks.table _ _ hentry).or_accessed]
      exact Descriptor.Marked.mark hsegment
    · rw [Memory.read64_write64_apart]
      · exact hmarks.table other word hword
      · generalize hleft : 8 * index = left
        generalize hright : 8 * other = right
        constructor <;> bv_omega
  · apply hmarks.outside.trans
    exact (Memory.write64_sameOutside _ _ _).mono (Memory.span_subset rfl (by omega))

namespace Leads

open ModeProcessor

theorem markAccessed_state (self : ModeProcessor) (selector : U16) :
    (self.markAccessed selector).state = self.state := by
  unfold markAccessed
  split <;> rfl

section Tables

variable {state final : ModeState} {program : List Switch} {entries : List U64} {before : Memory}

/-- What a load finds, and what it leaves. -/
theorem load_spec {self : ModeProcessor}
    (hlimit : self.gdtr.limit.toNat + 1 = 8 * entries.length)
    (hmemory : Memory.MarksTable self.gdtr.base entries before self.memory)
    {selector : U16} {entry : U64}
    (hselector : (bareSelector selector).toNat = 8 * (selector.toNat / 8))
    (hentry : entries[selector.toNat / 8]? = some entry) (hsegment : entry.getLsbD 44 = true) :
    (∃ word, self.descriptor selector = .ok word ∧ Descriptor.Marked entry word) ∧
      Memory.MarksTable self.gdtr.base entries before (self.markAccessed selector).memory := by
  refine ⟨Processor.descriptor_of_entry hlimit hmemory.table hselector hentry, ?_⟩
  unfold markAccessed
  split
  · exact hmemory
  · have hbound : self.gdtr.limit.toNat < 2 ^ 16 := self.gdtr.limit.isLt
    rw [Processor.tableOffset_eq]
    exact hmemory.mark (by omega) hentry hsegment

variable (hlimit : state.gdtr.limit.toNat + 1 = 8 * entries.length)

include hlimit

theorem farJump {selector cs : U16} {entry offset : U64}
    (hselector : (bareSelector selector).toNat = 8 * (selector.toNat / 8))
    (hentry : entries[selector.toNat / 8]? = some entry) (hnull : bareSelector selector ≠ 0#16)
    (hcode : Descriptor.isCode entry = true ∧ Descriptor.isConforming entry = false ∧
      requestedLevel selector ≤ requestedLevel state.cs ∧
      Descriptor.level entry = requestedLevel state.cs ∧
      ¬(state.efer.getLsbD 10 = true ∧ entry.getLsbD 53 = true ∧ entry.getLsbD 54 = true))
    (hpresent : Descriptor.present entry = true) (hoffset : canonical offset = true)
    (hcs : bareSelector selector ||| (requestedLevel state.cs).setWidth 16 = cs)
    (hrest : Leads (Memory.MarksTable state.gdtr.base entries before) {state with
      cs := cs
      csWord := entry ||| Descriptor.accessed
      rip := offset} program final) :
    Leads (Memory.MarksTable state.gdtr.base entries before) state
      (.farJump selector offset :: program) final := by
  refine cons ?_ hrest
  rintro self rfl hmemory
  have hsegment : entry.getLsbD 44 = true := (Bool.and_eq_true_iff.mp hcode.1).1
  obtain ⟨⟨word, hword, hmarked⟩, hkept⟩ := load_spec hlimit hmemory hselector hentry hsegment
  have hfound : self.nonNull selector = .ok word := Processor.nonNull_ok.mpr ⟨hnull, hword⟩
  have hcode' : Descriptor.isCode word = true ∧ Descriptor.isConforming word = false ∧
      requestedLevel selector ≤ self.cpl ∧ Descriptor.level word = self.cpl ∧
      ¬(self.longActive = true ∧ word.getLsbD 53 = true ∧ word.getLsbD 54 = true) := by
    rw [hmarked.isCode, hmarked.isConforming, hmarked.level, hmarked.getLsbD (by decide),
      hmarked.getLsbD (by decide)]
    exact hcode
  refine ⟨{self.markAccessed selector with
    cs := bareSelector selector ||| self.cpl.setWidth 16
    csWord := word ||| Descriptor.accessed
    rip := offset}, ?_, ?_, hkept⟩
  · rw [execute, ModeProcessor.farJump, hfound, Processor.ok_bind, Processor.require_bind,
      if_pos hcode', Processor.require_bind, if_pos (hmarked.present.trans hpresent),
      Processor.require_bind, if_pos hoffset]
    rfl
  · rw [← hcs, ← hmarked.or_accessed, markAccessed, if_neg hnull]
    rfl

/-- A data segment for any of the four registers. -/
theorem movData {register : DataRegister} {selector : U16} {entry : U64}
    (hselector : (bareSelector selector).toNat = 8 * (selector.toNat / 8))
    (hentry : entries[selector.toNat / 8]? = some entry)
    (hreadable : Descriptor.isReadable entry = true)
    (hlevel : requestedLevel selector ≤ Descriptor.level entry ∧
      requestedLevel state.cs ≤ Descriptor.level entry)
    (hpresent : Descriptor.present entry = true)
    (hrest : Leads (Memory.MarksTable state.gdtr.base entries before)
      (state.setData register selector) program final) :
    Leads (Memory.MarksTable state.gdtr.base entries before) state
      (.movData register selector :: program) final := by
  refine cons ?_ hrest
  rintro self rfl hmemory
  have hsegment : entry.getLsbD 44 = true := (Bool.and_eq_true_iff.mp hreadable).1
  obtain ⟨⟨word, hword, hmarked⟩, hkept⟩ := load_spec hlimit hmemory hselector hentry hsegment
  have hcheck : self.checkDataSegment selector = .ok () := by
    apply Processor.checkDataSegment_ok hword (hmarked.isReadable.trans hreadable) _
      (hmarked.present.trans hpresent)
    rw [hmarked.level]
    exact hlevel
  refine ⟨(self.markAccessed selector).setData register selector, ?_, ?_, ?_⟩
  · rw [execute, loadData, hcheck]
    rfl
  · rw [← markAccessed_state self selector]
    cases register <;> rfl
  · cases register <;> exact hkept

theorem movStack {selector : U16} {entry : U64}
    (hselector : (bareSelector selector).toNat = 8 * (selector.toNat / 8))
    (hentry : entries[selector.toNat / 8]? = some entry) (hnull : bareSelector selector ≠ 0#16)
    (hchecks : requestedLevel selector = requestedLevel state.cs ∧
      Descriptor.isWritableData entry = true ∧ Descriptor.level entry = requestedLevel state.cs)
    (hpresent : Descriptor.present entry = true)
    (hrest : Leads (Memory.MarksTable state.gdtr.base entries before)
      {state with ss := selector} program final) :
    Leads (Memory.MarksTable state.gdtr.base entries before) state
      (.movStack selector :: program) final := by
  refine cons ?_ hrest
  rintro self rfl hmemory
  have hsegment : entry.getLsbD 44 = true :=
    (Bool.and_eq_true_iff.mp (Bool.and_eq_true_iff.mp hchecks.2.1).1).1
  obtain ⟨⟨word, hword, hmarked⟩, hkept⟩ := load_spec hlimit hmemory hselector hentry hsegment
  have hchecks' : requestedLevel selector = self.cpl ∧ Descriptor.isWritableData word = true ∧
      Descriptor.level word = self.cpl := by
    rw [hmarked.isWritableData, hmarked.level]
    exact hchecks
  have hloaded : self.loadStackSegment selector = .ok {self.toProcessor with ss := selector} := by
    rw [Processor.loadStackSegment, if_neg hnull, hword, Processor.ok_bind, Processor.require_bind,
      if_pos hchecks', Processor.require_bind, if_pos (hmarked.present.trans hpresent)]
    rfl
  refine ⟨markAccessed {self with ss := selector} selector, ?_, ?_, ?_⟩
  · rw [execute, loadStack, hloaded]
    rfl
  · rw [markAccessed_state]
    rfl
  · rw [markAccessed, if_neg hnull] at hkept ⊢
    exact hkept

end Tables

/-- The null selector, which only DS, ES, FS and GS take from any level. -/
theorem movData_null {kind : Memory → Prop} {state final : ModeState} {program : List Switch}
    {register : DataRegister}
    (hrest : Leads kind (state.setData register 0#16) program final) :
    Leads kind state (.movData register 0#16 :: program) final := by
  refine cons ?_ hrest
  rintro self rfl hmemory
  refine ⟨self.setData register 0#16, ?_, ?_, ?_⟩
  · rw [execute, loadData, Processor.checkDataSegment, if_pos (by decide), markAccessed,
      if_pos (by decide)]
    rfl
  · cases register <;> rfl
  · cases register <;> exact hmemory

end Leads

end UnboundOS.X86
