import UnboundOS.Arch.Idt

/-!
What `unbound_exception_handler` is called with. Each of the thirty-two stubs
decides alone whether to push a word for the error code, and the common tail
points RDI to the `InterruptFrame` at one fixed offset for all of them. The
frame is the fault for every stub that agrees with the processor; for the other
three its fields are off by one word.
-/

namespace UnboundOS.Arch

open X86 X86.Machine

/-- `InterruptFrame` of `idt.rs`. -/
structure InterruptFrame where
  vector : U64
  errorCode : U64
  rip : U64
  cs : U64
  rflags : U64
deriving DecidableEq

/-- The fields at their `repr(C)` offsets. -/
def InterruptFrame.read (memory : Memory) (address : U64) : InterruptFrame where
  vector := memory.read64 (address + 0#64)
  errorCode := memory.read64 (address + 8#64)
  rip := memory.read64 (address + 16#64)
  cs := memory.read64 (address + 24#64)
  rflags := memory.read64 (address + 32#64)

/-- An exception from its delivery: the states in which the stub and the common
tail call the handler. -/
def handlerCalls (callee : Machine → Machine) (stack handler returnAddress : U64)
    (vector : Fin 32) (errorCode : U64) (self : Machine) : List Machine :=
  (self.deliver stack handler kernelCodeSelector
    (if hasErrorCode vector then some errorCode else none)).callSites callee
    (installedIsr vector ++ unboundExceptionCommon returnAddress)

/-- The frame a handler called at `site` finds behind its argument. -/
def receivedFrame (returnAddress : U64) (site : Machine) : InterruptFrame :=
  InterruptFrame.read (site.pushWord returnAddress).memory (site.regs .rdi)

/-- The fault itself. -/
def faultFrame (vector : Fin 32) (errorCode : U64) (self : Machine) : InterruptFrame where
  vector := BitVec.ofNat 64 vector
  errorCode := if hasErrorCode vector then errorCode else 0#64
  rip := self.rip
  cs := self.cs.setWidth 64
  rflags := self.rflags

variable {callee : Machine → Machine} {self : Machine}

theorem installedIsr_callSites (callee : Machine → Machine) (vector : Fin 32) (self : Machine) :
    self.callSites callee (installedIsr vector) = [] := by
  apply callSites_eq_nil
  revert vector
  decide

/-- The common tail calls once, with its fifteen pushes done. -/
theorem unboundExceptionCommon_callSites (returnAddress : U64) :
    self.callSites callee (unboundExceptionCommon returnAddress) =
      [(self.run callee (savedRegs.map .push)).run callee
        [.lea .rdi .rsp 120#64, .sub .rsp 8#64]] :=
  rfl

theorem installedIsr_pushedTo (callee : Machine → Machine) (vector : Fin 32) (errorCode : U64)
    {before : Memory} {top : U64} {delivered : Machine}
    (hpushed : PushedTo before top
      (40 + 8 * (if hasErrorCode vector then some errorCode else none).toList.length) delivered) :
    PushedTo before top (48 + 8 * (errorWords vector errorCode).length)
      (delivered.run callee (installedIsr vector)) := by
  have herror : (if hasErrorCode vector then some errorCode else none).toList.length =
      (if hasErrorCode vector then [errorCode] else []).length := by split <;> rfl
  rw [herror] at hpushed
  rw [installedIsr_eq, errorWords, List.length_append]
  split
  · have hvector := hpushed.pushWord (BitVec.ofNat 64 vector)
    have hdepth (count : Nat) : 40 + 8 * count + 8 = 48 + 8 * (0 + count) := by omega
    rwa [hdepth] at hvector
  · have hvector := (hpushed.pushWord 0#64).pushWord (BitVec.ofNat 64 vector)
    have hdepth (count : Nat) : 40 + 8 * count + 8 + 8 = 48 + 8 * (1 + count) := by omega
    rwa [hdepth] at hvector

/-- RDI points to the vector, fifteen words above the saved registers; the call
pushes below them. -/
theorem receivedFrame_eq {saved : Machine} {registers rest : List U64}
    {vector errorCode rip cs rflags : U64}
    (hstack : saved.Stack (registers ++ vector :: errorCode :: rip :: cs :: rflags :: rest))
    (hregisters : registers.length = 15) (hrest : rest.length ≤ 4) (returnAddress : U64) :
    receivedFrame returnAddress
        (saved.run callee [.lea .rdi .rsp 120#64, .sub .rsp 8#64]) =
      ⟨vector, errorCode, rip, cs, rflags⟩ := by
  -- The padding word counts as a word of the stack, whatever it holds.
  have hpadded : (saved.run callee [.lea .rdi .rsp 120#64, .sub .rsp 8#64]).Stack
      (saved.memory.read64 (saved.regs .rsp - 8#64) ::
        (registers ++ vector :: errorCode :: rip :: cs :: rflags :: rest)) := by
    refine ⟨rfl, ?_⟩
    change saved.memory.Holds (saved.regs .rsp - 8#64 + 8#64) _
    rw [BitVec.sub_add_cancel]
    exact hstack
  have hcalled := hpadded.pushWord (by
    simp only [List.length_cons, List.length_append, hregisters]
    omega) returnAddress
  have hfield (index : Nat) {word : U64}
      (hword : (vector :: errorCode :: rip :: cs :: rflags :: rest)[index]? = some word) :
      ((saved.run callee [.lea .rdi .rsp 120#64, .sub .rsp 8#64]).pushWord
        returnAddress).memory.read64
        (saved.regs .rsp + 120#64 + BitVec.ofNat 64 (8 * index)) = word := by
    have hplace : (returnAddress :: saved.memory.read64 (saved.regs .rsp - 8#64) ::
        (registers ++ vector :: errorCode :: rip :: cs :: rflags :: rest))[17 + index]? =
        some word := by
      rw [show 17 + index = index + 15 + 1 + 1 by omega, List.getElem?_cons_succ,
        List.getElem?_cons_succ, List.getElem?_append_right (by omega), hregisters,
        Nat.add_sub_cancel, hword]
    have hread := hcalled.read (17 + index) hplace
    have haddress : saved.regs .rsp - 8#64 - 8#64 + BitVec.ofNat 64 (8 * (17 + index)) =
        saved.regs .rsp + 120#64 + BitVec.ofNat 64 (8 * index) := by
      rw [Nat.mul_add, BitVec.ofNat_add]
      bv_omega
    rw [← haddress]
    exact hread
  rw [receivedFrame, InterruptFrame.read, InterruptFrame.mk.injEq]
  exact ⟨hfield 0 rfl, hfield 1 rfl, hfield 2 rfl, hfield 3 rfl, hfield 4 rfl⟩

/-- The handler is called once. Its frame is made of the first words above the
saved registers, and the stack pointer is as deep as there are words. -/
theorem handlerCalls_spec (callee : Machine → Machine) (stack handler returnAddress : U64)
    (vector : Fin 32) (errorCode : U64) (self : Machine)
    {first second third fourth : U64} {rest : List U64}
    (hwords : errorWords vector errorCode ++ self.returnWords =
      first :: second :: third :: fourth :: rest) :
    ∃ site, handlerCalls callee stack handler returnAddress vector errorCode self = [site] ∧
      receivedFrame returnAddress site =
        ⟨BitVec.ofNat 64 vector, first, second, third, fourth⟩ ∧
      site.regs .rsp = (stack &&& ~~~15#64) -
        BitVec.ofNat 64 (176 + 8 * (errorWords vector errorCode).length) := by
  obtain ⟨hdelivered, _⟩ := deliver_spec stack handler kernelCodeSelector
    (if hasErrorCode vector then some errorCode else none) self
  have hpushed := deliver_pushedTo stack handler kernelCodeSelector
    (if hasErrorCode vector then some errorCode else none) self
  rw [handlerCalls, callSites_append, installedIsr_callSites, List.nil_append,
    unboundExceptionCommon_callSites]
  generalize self.deliver stack handler kernelCodeSelector
    (if hasErrorCode vector then some errorCode else none) = delivered at *
  obtain ⟨hstub, _⟩ := installedIsr_spec callee vector errorCode rfl hdelivered
  have hentered := installedIsr_pushedTo callee vector errorCode hpushed
  have hlength := congrArg List.length hwords
  have herror := errorWords_length vector errorCode
  simp only [List.length_append, List.length_cons] at hlength
  change _ + 5 = _ at hlength
  rw [hwords] at hstub
  generalize delivered.run callee (installedIsr vector) = entered at *
  obtain ⟨hsaved, _⟩ := run_pushes callee savedRegs (by decide) hstub (by
    simp only [List.length_cons, savedRegs, List.length_nil]
    omega)
  have hdepth := hentered.run_pushes callee savedRegs
  generalize entered.run callee (savedRegs.map .push) = saved at *
  refine ⟨_, rfl, receivedFrame_eq hsaved rfl (by omega) returnAddress, ?_⟩
  change saved.regs .rsp - 8#64 = _
  rw [hdepth.rsp]
  change _ - BitVec.ofNat 64 (48 + 8 * (errorWords vector errorCode).length + 8 * 15) - 8#64 = _
  have hsum : 176 + 8 * (errorWords vector errorCode).length =
      48 + 8 * (errorWords vector errorCode).length + 8 * 15 + 8 := by omega
  rw [hsum, BitVec.ofNat_add _ 8]
  bv_omega

theorem hasErrorCode_of_doublePush (vector : Fin 32) (hdouble : doublePush vector = true) :
    hasErrorCode vector = true := by
  revert vector
  decide

theorem setWidth_eq_zero {selector : U16} (hzero : selector.setWidth 64 = 0#64) :
    selector = 0#16 := by
  bv_omega

/-- The handler sees the fault exactly on the vectors for which stub and
processor agree about the error code. On the other three a fault could still be
mistaken for itself if everything about it were zero; RFLAGS never is. -/
theorem handler_sees_fault_iff (callee : Machine → Machine) (stack handler returnAddress : U64)
    (vector : Fin 32) (errorCode : U64) (self : Machine) :
    (handlerCalls callee stack handler returnAddress vector errorCode self).map
        (receivedFrame returnAddress) = [faultFrame vector errorCode self] ↔
      doublePush vector = false ∨
        errorCode = 0#64 ∧ self.rip = 0#64 ∧ self.cs = 0#16 ∧ self.rflags = 0#64 := by
  have hwords := errorWords_eq vector errorCode
  cases hdouble : doublePush vector with
  | false =>
      rw [hdouble] at hwords
      obtain ⟨site, hsites, hframe, _⟩ := handlerCalls_spec callee stack handler returnAddress
        vector errorCode self (by rw [hwords]; rfl)
      rw [hsites, List.map_singleton, hframe]
      exact iff_of_true rfl (Or.inl rfl)
  | true =>
      rw [hdouble] at hwords
      obtain ⟨site, hsites, hframe, _⟩ := handlerCalls_spec callee stack handler returnAddress
        vector errorCode self (by rw [hwords]; rfl)
      rw [hsites, List.map_singleton, hframe, faultFrame, hasErrorCode_of_doublePush vector hdouble,
        if_pos rfl, List.cons.injEq, InterruptFrame.mk.injEq]
      constructor
      · rintro ⟨⟨_, herror, hrip, hcs, hrflags⟩, _⟩
        rw [← hrip, ← herror] at hcs
        rw [← hcs] at hrflags
        exact Or.inr ⟨herror.symm, hrip.symm.trans herror.symm, setWidth_eq_zero hcs.symm,
          hrflags.symm⟩
      · rintro (hfalse | ⟨herror, hrip, hcs, hrflags⟩)
        · cases hfalse
        · rw [herror, hrip, hcs, hrflags]
          exact ⟨⟨rfl, rfl, rfl, rfl, rfl⟩, rfl⟩

/-- A control-protection fault in kernel code. The handler reads the error code
as the return address and the return address as the code selector. -/
theorem control_protection_fault_shifted :
    let interrupted := interruptedState 0x101234#64 0x08#16 0x202#64 0x9000#64 0x10#16
    (handlerCalls plainReturn 0x9000#64 0x100000#64 0x100100#64 21 3#64 interrupted).map
        (receivedFrame 0x100100#64) = [⟨21#64, 0#64, 3#64, 0x101234#64, 0x08#64⟩] ∧
      (handlerCalls plainReturn 0x9000#64 0x100000#64 0x100100#64 21 3#64 interrupted).map
        (receivedFrame 0x100100#64) ≠ [faultFrame 21 3#64 interrupted] := by
  intro interrupted
  obtain ⟨site, hsites, hframe, _⟩ := handlerCalls_spec plainReturn 0x9000#64 0x100000#64
    0x100100#64 21 3#64 interrupted rfl
  rw [hsites, List.map_singleton, hframe]
  exact ⟨rfl, by decide⟩

end UnboundOS.Arch
