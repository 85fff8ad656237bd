import UnboundOS.Arch.Privilege

/-!
What the processor says to the `IRETQ` of `unbound_exception_common`. The tail
leaves one word too many on the stack, so CS is loaded with a word that was
never a selector. The tables have two code segments, and `IRETQ` accepts no
other: an exception whose handler returns ends in a general-protection fault,
the `INT3` that `_start` raises as a self-test included.
-/

namespace UnboundOS.Arch

open X86 X86.Machine

namespace Layout

variable {layout : Layout} {self : Processor} {callee : Machine → Machine}

/-- The processor in front of the `IRETQ` of an exception it has taken. -/
def handled (callee : Machine → Machine) (returnAddress : U64) (vector : Fin 32)
    (self : Processor) : Processor :=
  let framed := self.toMachine.run callee (installedIsr vector)
  {self with toMachine := framed.run callee (unboundExceptionCommon returnAddress)}

/-- The word that `IRETQ` takes for CS: the interrupted RIP, or the error code
for the vectors that push twice. -/
def returnSelector (vector : Fin 32) (errorCode : U64) (self : Processor) : U16 :=
  if doublePush vector then errorCode.setWidth 16 else self.rip.setWidth 16

theorem nonNull_error {selector : U16} {fault : Fault}
    (herror : self.nonNull selector = .error fault) :
    ∃ errorCode, fault = .generalProtection errorCode := by
  rw [Processor.nonNull, Processor.descriptor, Processor.require_bind, Processor.require_bind]
    at herror
  split at herror
  · split at herror
    · cases herror
    · cases herror
      exact ⟨_, rfl⟩
  · cases herror
    exact ⟨_, rfl⟩

/-- Every selector but those of the two code segments faults. -/
theorem GdtLoaded.checkReturnCode_error (hloaded : layout.GdtLoaded self) {selector : U16}
    (hkernel : selector ≠ kernelCodeSelector) (huser : selector ≠ userCodeSelectorR3) (rip : U64) :
    ∃ errorCode, self.checkReturnCode selector rip = .error (.generalProtection errorCode) := by
  rw [Processor.checkReturnCode]
  cases hword : self.nonNull selector with
  | error fault =>
      obtain ⟨errorCode, rfl⟩ := nonNull_error hword
      exact ⟨errorCode, rfl⟩
  | ok word =>
      rw [Processor.ok_bind, Processor.require_bind, if_neg]
      · exact ⟨_, rfl⟩
      · rintro ⟨hcode, _, hlevel⟩
        obtain ⟨hconforming, hsegment⟩ := hloaded.codeSelector hword hcode
        rw [hconforming, if_neg Bool.false_ne_true] at hlevel
        rcases hsegment with ⟨hbare, hring⟩ | ⟨hbare, hring⟩
        · exact hkernel (selector_ext hbare (hlevel.symm.trans hring))
        · exact huser (selector_ext hbare (hlevel.symm.trans hring))

theorem GdtLoaded.interruptReturn_error (hloaded : layout.GdtLoaded self)
    (hkernel : self.iretq.cs ≠ kernelCodeSelector) (huser : self.iretq.cs ≠ userCodeSelectorR3) :
    ∃ errorCode, self.interruptReturn = .error (.generalProtection errorCode) := by
  obtain ⟨errorCode, hcheck⟩ := hloaded.checkReturnCode_error hkernel huser self.iretq.rip
  rw [Processor.interruptReturn, Processor.require_bind]
  split
  · rw [hcheck]
    exact ⟨errorCode, rfl⟩
  · exact ⟨_, rfl⟩

/-- The stack in front of `IRETQ`: what stub and processor pushed between the
vector and the return address is still there. -/
theorem handled_iretq_cs (hcallee : ∀ machine, Returned 192 machine (callee machine))
    (layout : Layout) (returnAddress : U64) (vector : Fin 32) (errorCode : U64) (self : Processor) :
    (handled callee returnAddress vector (layout.delivered (BitVec.ofNat 8 vector)
      (if hasErrorCode vector then some errorCode else none) self)).iretq.cs =
      returnSelector vector errorCode self := by
  obtain ⟨hdelivered, _⟩ := deliver_spec (layout.stackFor (BitVec.ofNat 8 vector) self)
    (layout.handler (BitVec.ofNat 8 vector)) kernelCodeSelector
    (if hasErrorCode vector then some errorCode else none) self.toMachine
  have hstack : (layout.delivered (BitVec.ofNat 8 vector)
      (if hasErrorCode vector then some errorCode else none) self).Stack
      ((if hasErrorCode vector then some errorCode else none).toList ++ self.returnWords) :=
    hdelivered
  obtain ⟨hstub, _⟩ := installedIsr_spec callee vector errorCode rfl hstack
  have hlength : (errorWords vector errorCode ++ self.returnWords).length ≤ 7 := by
    have herror := errorWords_length vector errorCode
    rw [List.length_append]
    change _ + 5 ≤ 7
    omega
  obtain ⟨hcommon, _⟩ := unboundExceptionCommon_spec hcallee returnAddress hstub hlength
  rw [errorWords_eq] at hcommon
  unfold returnSelector
  cases hdouble : doublePush vector with
  | true =>
      rw [hdouble] at hcommon
      exact (iretq_spec hcommon).2.1
  | false =>
      rw [hdouble] at hcommon
      exact (iretq_spec hcommon).2.1

/-- No exception handler gets back by its `IRETQ`, in ring 0 or in ring 3, as
long as the tables are in place: the return faults unless the low 16 bits of
the interrupted RIP (of the error code for the vectors that push twice) happen
to be the selector of a code segment. -/
theorem exception_return_faults (layout : Layout) (self entered : Processor)
    (hloaded : layout.IdtLoaded self) (hrsp0 : layout.HasRsp0 self) (vector : Fin 32)
    (software : Bool) (errorCode : U64)
    (hentered : self.interrupt (BitVec.ofNat 8 vector) software
      (if hasErrorCode vector then some errorCode else none) = .ok entered)
    (callee : Machine → Machine) (hcallee : ∀ machine, Returned 192 machine (callee machine))
    (returnAddress : U64) (hkeeps : layout.Keeps self (handled callee returnAddress vector entered))
    (hkernel : returnSelector vector errorCode self ≠ kernelCodeSelector)
    (huser : returnSelector vector errorCode self ≠ userCodeSelectorR3) :
    ∃ raised, (handled callee returnAddress vector entered).interruptReturn =
      .error (.generalProtection raised) := by
  obtain ⟨_, rfl⟩ := hloaded.interrupt_ok hrsp0 hentered
  have hcs := handled_iretq_cs hcallee layout returnAddress vector errorCode self
  rw [← hcs] at hkernel huser
  exact (hkeeps.gdtLoaded hloaded.toGdtLoaded).interruptReturn_error hkernel huser

/-- The stack pointer moved down without a store. -/
theorem pushedTo_lower {before : Memory} {top : U64} {depth : Nat} {machine : Machine}
    (hmachine : PushedTo before top depth machine) (lowered : Machine)
    (hrsp : lowered.regs .rsp = machine.regs .rsp - 8#64)
    (hmemory : lowered.memory = machine.memory) : PushedTo before top (depth + 8) lowered := by
  constructor
  · rw [hrsp, hmachine.rsp, BitVec.ofNat_add]
    bv_omega
  · rw [hmemory]
    exact hmachine.memory.mono (Memory.below_subset (by omega) (by omega))

theorem installedIsr_pushedTo (callee : Machine → Machine) {before : Memory} {top : U64}
    {depth : Nat} {machine : Machine} (hmachine : PushedTo before top depth machine)
    (vector : Fin 32) :
    ∃ words ≤ 2, PushedTo before top (depth + 8 * words)
      (machine.run callee (installedIsr vector)) := by
  rw [installedIsr_eq]
  split
  · exact ⟨1, by omega, hmachine.pushWord _⟩
  · exact ⟨2, by omega, (hmachine.pushWord _).pushWord _⟩

/-- Around a handler that stores nothing, the stub and the tail write 152 bytes
at most below what the processor pushed. -/
theorem handled_memory (callee : Machine → Machine)
    (hsilent : ∀ machine, (callee machine).memory = machine.memory) {before : Memory} {top : U64}
    {depth : Nat} (returnAddress : U64) (vector : Fin 32) (self : Processor)
    (hself : PushedTo before top depth self.toMachine) :
    Memory.SameOutside (Memory.span (top - BitVec.ofNat 64 (depth + 152)) (depth + 152)) before
      (handled callee returnAddress vector self).memory := by
  obtain ⟨words, hwords, hstub⟩ := installedIsr_pushedTo callee hself vector
  have hsaved := hstub.run_pushes callee savedRegs
  have hready := pushedTo_lower hsaved (((self.toMachine.run callee
    (installedIsr vector)).run callee (savedRegs.map .push)).run callee
    [.lea .rdi .rsp 120#64, .sub .rsp 8#64]) rfl rfl
  have hcall := hready.pushWord returnAddress
  have hmemory : (handled callee returnAddress vector self).memory =
      ((((self.toMachine.run callee (installedIsr vector)).run callee
        (savedRegs.map .push)).run callee [.lea .rdi .rsp 120#64, .sub .rsp 8#64]).pushWord
          returnAddress).memory := by
    change ((self.toMachine.run callee (installedIsr vector)).run callee
      (unboundExceptionCommon returnAddress)).memory = _
    rw [run_unboundExceptionCommon, dropWord_memory, run_pops_memory]
    exact hsilent _
  rw [hmemory]
  refine hcall.memory.mono (Memory.below_subset ?_ ?_)
  all_goals
    simp only [savedRegs, List.length_cons, List.length_nil]
    omega

theorem delivered_pushedTo (layout : Layout) (vector : U8) (errorCode : Option U64)
    (self : Processor) :
    PushedTo self.memory (layout.stackFor vector self &&& ~~~15#64)
      (40 + 8 * errorCode.toList.length) (layout.delivered vector errorCode self).toMachine := by
  have hdeliver := deliver_pushedTo (layout.stackFor vector self) (layout.handler vector)
    kernelCodeSelector errorCode self.toMachine
  exact ⟨hdeliver.rsp, hdeliver.memory⟩

/-- Such a handler leaves the tables in place on a stack that is apart from them. -/
theorem handled_keeps (callee : Machine → Machine)
    (hsilent : ∀ machine, (callee machine).memory = machine.memory) (returnAddress : U64)
    (vector : Fin 32) (layout : Layout) (entry : U8) (errorCode : Option U64) (self : Processor)
    (hstack : Disjoint layout.tables (Memory.span ((layout.stackFor entry self &&& ~~~15#64) -
      BitVec.ofNat 64 (40 + 8 * errorCode.toList.length + 152))
      (40 + 8 * errorCode.toList.length + 152))) :
    layout.Keeps self
      (handled callee returnAddress vector (layout.delivered entry errorCode self)) := by
  have hmemory := handled_memory callee hsilent returnAddress vector _
    (layout.delivered_pushedTo entry errorCode self)
  refine .of_same rfl rfl rfl rfl rfl ?_
  intro address htables
  exact hmemory address (Set.disjoint_left.mp hstack htables)

/-- What the boot stack holds of an exception without an error code is apart from
the tables. -/
theorem sample_kernelStack :
    Disjoint sample.tables (Memory.span ((0x90000#64 &&& ~~~15#64) - 192#64) 192) := by
  rw [tables, Set.disjoint_union_left, Set.disjoint_union_left]
  exact ⟨⟨Memory.span_apart (by decide) (by decide), Memory.span_apart (by decide) (by decide)⟩,
    Memory.span_apart (by decide) (by decide)⟩

/-- The self-test of `_start` in the sample layout: `INT3` in ring 0 right after
`idt::init`, and a handler that only returns. -/
theorem exception_return_faults_int3 :
    ∃ (self entered : Processor) (raised : U64), self.cpl = 0#2 ∧
      self.interrupt 3#8 true none = .ok entered ∧
      (handled plainReturn 0x100200#64 3 entered).interruptReturn =
        .error (.generalProtection raised) := by
  obtain ⟨loaded, _, hloaded, _, hcs, _, _, _, hrip, hrsp, _⟩ := sample.gdtInit_loaded 0x100010#64
    (show canonical 0x100020#64 = true by decide) (show sampleProcessor.cpl = 0#2 by decide)
    sample_stack
  have htables := idtInit_loaded hloaded
  have hcs' : (sample.idtInit loaded).cs = kernelCodeSelector := hcs
  have hrip' : (sample.idtInit loaded).rip = 0x100010#64 := hrip
  have hrsp' : (sample.idtInit loaded).regs .rsp = 0x90000#64 := hrsp
  generalize sample.idtInit loaded = self at *
  have hcpl : self.cpl = 0#2 := by
    rw [Processor.cpl, hcs']
    rfl
  have hrsp0 : sample.HasRsp0 self := fun hring => absurd hcpl hring
  have hstack : sample.stackFor 3#8 self = 0x90000#64 := by
    rw [stackFor, if_neg (by decide), if_pos hcpl, hrsp']
  have hentered : self.interrupt 3#8 true none = .ok (sample.delivered 3#8 none self) := by
    rw [htables.interrupt_eq hrsp0, if_pos ⟨by decide, fun _ => hcpl⟩, hstack,
      if_pos (by decide)]
  have hkeeps : sample.Keeps self
      (handled plainReturn 0x100200#64 3 (sample.delivered 3#8 none self)) := by
    apply handled_keeps plainReturn (fun _ => rfl)
    rw [hstack]
    exact sample_kernelStack
  have hselector : returnSelector 3 0#64 self = 0x10#16 := by
    rw [returnSelector, hrip']
    rfl
  obtain ⟨raised, hfault⟩ := exception_return_faults sample self _ htables hrsp0 3 true 0#64
    hentered plainReturn plainReturn_returned 0x100200#64 hkeeps (by rw [hselector]; decide)
    (by rw [hselector]; decide)
  exact ⟨self, _, raised, hcpl, hentered, hfault⟩

end Layout

end UnboundOS.Arch
