import UnboundOS.Arch.ExceptionFrame
import UnboundOS.Arch.Irq

/-!
The System V ABI wants RSP to be a multiple of 16 at every `call`. The kernel
calls Rust from four places in its entry stubs, reached with different numbers
of words on a stack that the processor aligned. Two of them mask RSP first; the
exception tail subtracts a constant, and the second call of the IRQ tail does
nothing. The result says which of the calls are aligned.
-/

namespace UnboundOS.Arch

open X86 X86.Machine X86.Memory

/-- A `call` of an entry stub, with the Rust functions called up to there, the
stack the processor pushes on, and the addresses the linker chose. -/
inductive RustCall where
  | exceptionHandler (handler : Machine → Machine) (vector : Fin 32) (errorCode : U64)
      (stack entry returnAddress : U64)
  | timerHandler (timer : Machine → Machine) (stack entry timerReturn : U64)
  | debugIretFrame (timer debug : Machine → Machine)
      (stack entry timerReturn debugReturn : U64)
  | syscallDispatch (dispatcher : Machine → Machine) (msrs : SyscallMsrs)
      (stackTop returnAddress : U64)

/-- The pointer the IRQ stub passes to the timer handler, for some interruption. -/
def SavedByIrq0 (frame : U64) : Prop :=
  ∃ (timer : Machine → Machine) (stack entry : U64) (interrupted : Machine),
    (irq0Saved timer stack entry interrupted).regs .rdi = frame

/-- The timer handler returns as the ABI asks, with zero or a frame that IRQ0
has saved. -/
structure SelectsSaved (timer : Machine → Machine) (entry : Machine) : Prop where
  returned : Returned 0 entry (timer entry)
  selects : (timer entry).regs .rax = 0#64 ∨ SavedByIrq0 ((timer entry).regs .rax)

namespace RustCall

/-- The states in which the `call` is executed, after an exception, IRQ0 or
`SYSCALL` in the state `self`. -/
def sites (self : Machine) : RustCall → List Machine
  | .exceptionHandler handler vector errorCode stack entry returnAddress =>
      handlerCalls handler stack entry returnAddress vector errorCode self
  | .timerHandler timer stack entry timerReturn =>
      (self.deliver stack entry kernelCodeSelector none).callSites timer
        (unboundIrq0 ++ unboundIrqCommon timerReturn)
  | .debugIretFrame timer debug stack entry timerReturn debugReturn =>
      (selectContext (irq0Handled timer stack entry timerReturn self)).callSites debug
        (debugSelected debugReturn)
  | .syscallDispatch dispatcher msrs stackTop returnAddress =>
      (self.syscall msrs).callSites dispatcher (unboundSyscallEntry stackTop returnAddress)

/-- What is assumed of the Rust code that has run before. -/
def Regular (self : Machine) : RustCall → Prop
  | .debugIretFrame timer _ stack entry timerReturn _ =>
      SelectsSaved timer ((irq0Saved timer stack entry self).pushWord timerReturn)
  | _ => True

/-- The `call` is executed once, with RSP on a multiple of 16. -/
def Aligned (self : Machine) (call : RustCall) : Prop :=
  ∃ site, call.sites self = [site] ∧ (site.regs .rsp).toNat % 16 = 0

/-- The calls whose stub leaves the stack aligned. -/
def Padded : RustCall → Prop
  | .exceptionHandler _ vector _ _ _ _ => doublePush vector = true
  | .timerHandler .. => True
  | .debugIretFrame .. => False
  | .syscallDispatch .. => True

/-- With the one site of a call known, only its RSP is left to look at. -/
theorem aligned_iff {self site : Machine} {call : RustCall} (hsites : call.sites self = [site]) :
    call.Aligned self ↔ (site.regs .rsp).toNat % 16 = 0 := by
  rw [Aligned, hsites]
  simp

end RustCall

theorem aligned_sub_iff (stack : U64) {depth : Nat} (hdepth : depth < 2 ^ 64) :
    ((stack &&& ~~~15#64) - BitVec.ofNat 64 depth).toNat % 16 = 0 ↔ depth % 16 = 0 := by
  have haligned : (stack &&& ~~~15#64).toNat = stack.toNat / 16 * 16 := and_neg_sixteen_toNat stack
  have hbound := stack.isLt
  rw [BitVec.toNat_sub, haligned, BitVec.toNat_ofNat, Nat.mod_eq_of_lt hdepth]
  omega

theorem masked_aligned (address : U64) : (address &&& (-16#64)).toNat % 16 = 0 := by
  rw [and_neg_sixteen_toNat]
  exact Nat.mul_mod_left _ 16

/-- The exception tail pads for an even number of words. -/
theorem exceptionHandler_aligned_iff (callee : Machine → Machine) (vector : Fin 32)
    (errorCode stack entry returnAddress : U64) (self : Machine) :
    (RustCall.exceptionHandler callee vector errorCode stack entry returnAddress).Aligned self ↔
      doublePush vector = true := by
  have hwords : ∃ first second third fourth rest,
      errorWords vector errorCode ++ self.returnWords =
        first :: second :: third :: fourth :: rest := by
    rw [errorWords_eq]
    split <;> exact ⟨_, _, _, _, _, rfl⟩
  have hlength := errorWords_length vector errorCode
  obtain ⟨_, _, _, _, _, hwords⟩ := hwords
  obtain ⟨site, hsites, _, hrsp⟩ :=
    handlerCalls_spec callee stack entry returnAddress vector errorCode self hwords
  have hcall : (RustCall.exceptionHandler callee vector errorCode stack entry returnAddress).sites
      self = [site] := hsites
  rw [RustCall.aligned_iff hcall, hrsp, aligned_sub_iff stack (by omega), errorWords_eq]
  cases doublePush vector <;> simp

/-- The timer handler is called on a masked stack pointer. -/
theorem timerHandler_aligned (timer : Machine → Machine) (stack entry timerReturn : U64)
    (self : Machine) :
    (RustCall.timerHandler timer stack entry timerReturn).Aligned self := by
  have hsites : (RustCall.timerHandler timer stack entry timerReturn).sites self =
      [irq0Saved timer stack entry self] := rfl
  rw [RustCall.aligned_iff hsites, irq0Saved, saveContext_eq, run_append]
  exact masked_aligned _

theorem irq0Saved_rdi (timer : Machine → Machine) (stack entry : U64) (self : Machine) :
    (irq0Saved timer stack entry self).regs .rdi =
      (stack &&& ~~~15#64) - BitVec.ofNat 64 frameSize := by
  obtain ⟨ready, hready, hr12, _⟩ := irq0Saved_spec timer stack entry self
  have hsame : (irq0Saved timer stack entry self).regs .rdi =
      (irq0Saved timer stack entry self).regs .r12 := by
    rw [irq0Saved, saveContext_eq, run_append]
    rfl
  rw [hsame, hready, hr12]

/-- Frames saved by IRQ0 are never aligned: twenty-one words below an aligned
address. -/
theorem SavedByIrq0.misaligned {frame : U64} (hframe : SavedByIrq0 frame) :
    ¬ frame.toNat % 16 = 0 := by
  obtain ⟨timer, stack, entry, interrupted, rfl⟩ := hframe
  rw [irq0Saved_rdi, aligned_sub_iff stack (by decide)]
  decide

/-- RSP at the second call of the IRQ tail is the selected frame. -/
theorem selectContext_saved {timer : Machine → Machine} {stack entry timerReturn : U64}
    {self : Machine}
    (hselects : SelectsSaved timer ((irq0Saved timer stack entry self).pushWord timerReturn)) :
    SavedByIrq0 ((selectContext (irq0Handled timer stack entry timerReturn self)).regs .rsp) := by
  have hrax : (irq0Handled timer stack entry timerReturn self).regs .rax =
      (timer ((irq0Saved timer stack entry self).pushWord timerReturn)).regs .rax := by
    rw [irq0Handled, unboundIrqCommon, run_append]
    rfl
  rw [selectContext]
  split
  · have hbehaves : Behaves ∅ timer ((irq0Saved timer stack entry self).pushWord timerReturn) :=
      ⟨hselects.returned, fun address houtside => absurd (Set.mem_compl (Set.notMem_empty address))
        houtside⟩
    obtain ⟨hrsp, _⟩ := irq0Handled_spec stack entry timerReturn self hbehaves
    exact ⟨timer, stack, entry, self, (irq0Saved_rdi timer stack entry self).trans hrsp.symm⟩
  · rename_i hnonzero
    rw [setReg_same]
    rw [hrax] at hnonzero ⊢
    exact hselects.selects.resolve_left hnonzero

/-- The second call of the IRQ tail is made on the frame itself. -/
theorem debugIretFrame_misaligned {timer : Machine → Machine} {stack entry timerReturn : U64}
    {self : Machine}
    (hselects : SelectsSaved timer ((irq0Saved timer stack entry self).pushWord timerReturn))
    (debug : Machine → Machine) (debugReturn : U64) :
    ¬ (RustCall.debugIretFrame timer debug stack entry timerReturn debugReturn).Aligned self := by
  have hsites : (RustCall.debugIretFrame timer debug stack entry timerReturn debugReturn).sites
      self = [(selectContext (irq0Handled timer stack entry timerReturn self)).exec debug
        (.mov .rdi .rsp)] := rfl
  rw [RustCall.aligned_iff hsites]
  exact (selectContext_saved hselects).misaligned

/-- The dispatcher is called on a masked stack pointer. -/
theorem syscallDispatch_aligned (dispatcher : Machine → Machine) (msrs : SyscallMsrs)
    (stackTop returnAddress : U64) (self : Machine) :
    (RustCall.syscallDispatch dispatcher msrs stackTop returnAddress).Aligned self := by
  have hsites : (RustCall.syscallDispatch dispatcher msrs stackTop returnAddress).sites self =
      [(((self.syscall msrs).run dispatcher [.mov .r12 .rsp, .loadSymbol .rsp stackTop]).run
        dispatcher (syscallFrame.map .push)).run dispatcher loadArguments] := rfl
  rw [RustCall.aligned_iff hsites]
  exact masked_aligned _

/-- Which calls into Rust are made with an aligned stack: both that mask RSP,
the exception handler only on the three vectors whose extra word makes the
number even, and the debug call after the timer handler never. -/
theorem calls_aligned_iff (call : RustCall) (self : Machine) (hcall : call.Regular self) :
    call.Aligned self ↔ call.Padded := by
  cases call with
  | exceptionHandler handler vector errorCode stack entry returnAddress =>
      exact exceptionHandler_aligned_iff handler vector errorCode stack entry returnAddress self
  | timerHandler timer stack entry timerReturn =>
      exact iff_of_true (timerHandler_aligned timer stack entry timerReturn self) trivial
  | debugIretFrame timer debug stack entry timerReturn debugReturn =>
      exact iff_of_false (debugIretFrame_misaligned hcall debug debugReturn) id
  | syscallDispatch dispatcher msrs stackTop returnAddress =>
      exact iff_of_true (syscallDispatch_aligned dispatcher msrs stackTop returnAddress self)
        trivial

/-- An idle timer handler selects the interrupted task. -/
theorem plainReturn_selectsSaved {entry : Machine} (hrax : entry.regs .rax = 0#64) :
    SelectsSaved plainReturn entry where
  returned := ⟨(plainReturn_returned entry).rsp, (plainReturn_returned entry).saved, nofun⟩
  selects := Or.inl ((setReg_other (by decide) _).trans hrax)

/-- An IRQ0 whose timer handler selects the interrupted task: the frame is
passed on as it is. -/
theorem calls_aligned_irq0 :
    let interrupted := interruptedState 0x101234#64 0x08#16 0x202#64 0x9008#64 0x10#16
    let call := RustCall.debugIretFrame plainReturn plainReturn 0x9008#64 0x100000#64 0x100100#64
      0x100200#64
    call.Regular interrupted ∧ (call.Aligned interrupted ↔ call.Padded) := by
  intro interrupted call
  have hregular : call.Regular interrupted := plainReturn_selectsSaved rfl
  exact ⟨hregular, calls_aligned_iff call interrupted hregular⟩

/-- A breakpoint in kernel code and an IRQ0 in the same state. -/
theorem breakpoint_call_misaligned :
    let interrupted := interruptedState 0x101234#64 0x08#16 0x202#64 0x9000#64 0x10#16
    ¬ (RustCall.exceptionHandler plainReturn 3 0#64 0x9000#64 0x100000#64 0x100100#64).Aligned
        interrupted ∧
      ¬ (RustCall.debugIretFrame plainReturn plainReturn 0x9000#64 0x100000#64 0x100100#64
        0x100200#64).Aligned interrupted := by
  intro interrupted
  constructor
  · rw [exceptionHandler_aligned_iff]
    decide
  · exact debugIretFrame_misaligned (plainReturn_selectsSaved rfl) plainReturn 0x100200#64

end UnboundOS.Arch
