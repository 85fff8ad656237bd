import UnboundOS.Arch.Syscall

/-!
What a system call leaves of the user's state. The stub borrows R12 to switch
stacks before it has saved anything, and what it then saves and restores as R12
is the user's stack pointer. Every other register comes back, and the stub and
the dispatcher write nothing outside the syscall stack.
-/

namespace UnboundOS.Arch

open X86 X86.Machine X86.Memory

def syscallStackSize : Nat := 16 * 1024

/-- The stack whose top is stored at `unbound_syscall_stack_top`. -/
def syscallStack (memory : Memory) (stackTop : U64) : Set U64 :=
  span (memory.read64 stackTop - BitVec.ofNat 64 syscallStackSize) syscallStackSize

/-- A compiled function whose stack frame, the return address included, takes
at most `frameBytes` and that writes nothing else. -/
def WritesFrame (callee : Machine → Machine) (frameBytes : Nat) : Prop :=
  ∀ machine, SameOutside
    (span (machine.regs .rsp + 8#64 - BitVec.ofNat 64 frameBytes) frameBytes)
    machine.memory (callee machine).memory

/-- The user's state at `SYSCALL` is there again at `SYSRETQ`, and nothing
outside the syscall stack was written. -/
structure PreservesUser (stackTop : U64) (user exit : Machine) : Prop where
  registers : ∀ reg ∈ [Reg.rsp, .rbx, .rbp, .rdi, .rsi, .rdx, .r8, .r9, .r10, .r12, .r13, .r14,
    .r15], exit.regs reg = user.regs reg
  rip : exit.regs .rcx = user.rip
  rflags : exit.regs .r11 = user.rflags
  memory : SameOutside (syscallStack user.memory stackTop) user.memory exit.memory

variable {callee : Machine → Machine}

/-- The fifteen pushes start at the top of the syscall stack. -/
theorem save_memory (callee : Machine → Machine) (stackTop : U64) (self : Machine) :
    ∃ saved : Machine, (self.run callee [.mov .r12 .rsp, .loadSymbol .rsp stackTop]).run callee
        (syscallFrame.map .push) = saved ∧
      saved.regs .rsp = self.memory.read64 stackTop - 120#64 ∧
      SameOutside (span (self.memory.read64 stackTop - 120#64) 120) self.memory saved.memory := by
  have hstart : PushedTo self.memory (self.memory.read64 stackTop) 0
      (self.run callee [.mov .r12 .rsp, .loadSymbol .rsp stackTop]) :=
    ⟨(setReg_same _ _ _).trans (BitVec.sub_zero _).symm, SameOutside.refl _ _⟩
  have hsaved := hstart.run_pushes callee syscallFrame
  exact ⟨_, rfl, hsaved.rsp, hsaved.memory⟩

/-- Aligning a stack pointer moves it down by less than 16 bytes. -/
theorem align_down (address : U64) : ∃ offset < 16,
    address &&& (-16#64) = address - BitVec.ofNat 64 offset := by
  refine ⟨(address - (address &&& (-16#64))).toNat, align_offset address, ?_⟩
  rw [BitVec.ofNat_toNat, BitVec.setWidth_eq]
  bv_omega

/-- The call, from the saved frame on: the dispatcher's frame starts right below
the aligned stack pointer. -/
theorem call_memory {frameBytes : Nat} (hwrites : WritesFrame callee frameBytes)
    (ready : Machine) (returnAddress : U64) (hframe : 8 ≤ frameBytes) :
    SameOutside (span (ready.regs .rsp - BitVec.ofNat 64 frameBytes) frameBytes) ready.memory
      (ready.exec callee (.call returnAddress)).memory := by
  have hcallee := hwrites (ready.pushWord returnAddress)
  rw [pushWord_rsp, BitVec.sub_add_cancel] at hcallee
  apply SameOutside.trans _ hcallee
  apply (pushWord_memory ready returnAddress).mono
  exact below_subset hframe (by omega)

/-- The restoring part writes nothing. -/
theorem restore_memory (callee : Machine → Machine) (returned : Machine) :
    ((((returned.exec callee (.mov .rsp .r12)).run callee (restoredRegs.map .pop)).dropWord.run
      callee ([Reg.r11, .rcx, .r12].map .pop)).exec callee (.mov .rsp .r12)).memory =
      returned.memory := by
  rw [exec_mov_memory, run_pops_memory, dropWord_memory, run_pops_memory, exec_mov_memory]

/-- The stub writes only the syscall stack, if the dispatcher's frame fits what
the saved registers leave of it. -/
theorem unboundSyscallEntry_memory {frameBytes : Nat} (hwrites : WritesFrame callee frameBytes)
    (hframe : 8 ≤ frameBytes) (hfits : 136 + frameBytes ≤ syscallStackSize) (self : Machine)
    (stackTop returnAddress : U64) :
    SameOutside (syscallStack self.memory stackTop) self.memory
      (self.run callee (unboundSyscallEntry stackTop returnAddress)).memory := by
  obtain ⟨saved, hsaved, hrsp, hsavedMemory⟩ := save_memory callee stackTop self
  have hready : (saved.run callee loadArguments).regs .rsp = saved.regs .rsp &&& (-16#64) := rfl
  have hreadyMemory : (saved.run callee loadArguments).memory = saved.memory := rfl
  have hcall := call_memory hwrites (saved.run callee loadArguments) returnAddress hframe
  obtain ⟨offset, hoffset, halign⟩ := align_down (saved.regs .rsp)
  rw [hready, hreadyMemory, halign, hrsp] at hcall
  have hstack : self.memory.read64 stackTop - 120#64 - BitVec.ofNat 64 offset -
      BitVec.ofNat 64 frameBytes =
      self.memory.read64 stackTop - BitVec.ofNat 64 (120 + offset + frameBytes) := by
    rw [BitVec.ofNat_add, BitVec.ofNat_add]
    bv_omega
  rw [hstack] at hcall
  have hsize : syscallStackSize = 16384 := rfl
  rw [run_unboundSyscallEntry, hsaved]
  rw [restore_memory]
  apply SameOutside.trans
  · exact hsavedMemory.mono (below_subset (by omega) (by omega))
  · exact hcall.mono (below_subset (by omega) (by omega))

/-- System calls and the user's state. Whatever the user's registers are, all of
them but R12 are back when `SYSRETQ` is executed, RCX and R11 hold the return
address and the flags, and nothing outside the syscall stack has been written;
R12 is back if and only if it held the user's stack pointer. -/
theorem syscall_preserves_user_iff (callee : Machine → Machine) (hcallee : Dispatches callee)
    (frameBytes : Nat) (hwrites : WritesFrame callee frameBytes) (hframe : 8 ≤ frameBytes)
    (hfits : 136 + frameBytes ≤ syscallStackSize) (msrs : SyscallMsrs)
    (stackTop returnAddress : U64) (user : Machine) :
    PreservesUser stackTop user
        ((user.syscall msrs).run callee (unboundSyscallEntry stackTop returnAddress)) ↔
      user.regs .r12 = user.regs .rsp := by
  obtain ⟨_, _, hr12, hregs⟩ :=
    unboundSyscallEntry_spec hcallee (user.syscall msrs) stackTop returnAddress
  have hmemory := unboundSyscallEntry_memory hwrites hframe hfits (user.syscall msrs) stackTop
    returnAddress
  generalize (user.syscall msrs).run callee (unboundSyscallEntry stackTop returnAddress) = exit at *
  have hrsp : (user.syscall msrs).regs .rsp = user.regs .rsp := rfl
  constructor
  · intro hpreserves
    rw [← hrsp, ← hr12]
    exact (hpreserves.registers .r12 (by decide)).symm
  · intro hsame
    refine ⟨fun reg hreg => ?_, hregs .rcx (by decide) (by decide),
      hregs .r11 (by decide) (by decide), hmemory⟩
    by_cases hborrowed : reg = .r12
    · rw [hborrowed, hr12, hrsp, hsame]
    · have hothers : reg ≠ .rax ∧ reg ≠ .rcx ∧ reg ≠ .r11 := by
        refine ⟨?_, ?_, ?_⟩ <;> rintro rfl <;> revert hreg <;> decide
      rw [hregs reg hothers.1 hborrowed]
      exact (setReg_other hothers.2.2 _).trans (setReg_other hothers.2.1 _)

/-- A dispatcher without a frame of its own writes nothing. -/
theorem plainDispatch_writesFrame : WritesFrame plainDispatch 8 :=
  fun _ => SameOutside.refl _ _

/-- A user whose registers all differ, but for R12 and the stack pointer. -/
def distinctUser : Machine :=
  {userState 0#64 0#64 0#64 0#64 0x400000#64 with regs := fun
    | .rax => 1#64 | .rbx => 2#64 | .rcx => 3#64 | .rdx => 4#64
    | .rsi => 5#64 | .rdi => 6#64 | .rbp => 7#64 | .rsp => 0x7000#64
    | .r8 => 8#64 | .r9 => 9#64 | .r10 => 10#64 | .r11 => 11#64
    | .r12 => 0x7000#64 | .r13 => 13#64 | .r14 => 14#64 | .r15 => 15#64}

theorem syscall_preserves_user_distinct :
    PreservesUser 0x8000#64 distinctUser
      ((distinctUser.syscall kernelMsrs).run plainDispatch
        (unboundSyscallEntry 0x8000#64 0x100100#64)) :=
  (syscall_preserves_user_iff plainDispatch plainDispatch_dispatches 8 plainDispatch_writesFrame
    le_rfl (by decide) kernelMsrs 0x8000#64 0x100100#64 distinctUser).mpr rfl

/-- A user with 7 in R12 and its stack pointer at zero: after the call R12 is
zero. -/
theorem syscall_loses_r12 :
    Dispatches plainDispatch ∧ WritesFrame plainDispatch 8 ∧
      ((((userState 0#64 0#64 0#64 0#64 0x400000#64).setReg .r12 7#64).syscall kernelMsrs).run
        plainDispatch (unboundSyscallEntry 0x8000#64 0x100100#64)).regs .r12 = 0#64 ∧
      ¬ PreservesUser 0x8000#64 ((userState 0#64 0#64 0#64 0#64 0x400000#64).setReg .r12 7#64)
        ((((userState 0#64 0#64 0#64 0#64 0x400000#64).setReg .r12 7#64).syscall kernelMsrs).run
          plainDispatch (unboundSyscallEntry 0x8000#64 0x100100#64)) := by
  obtain ⟨_, _, hr12, _⟩ := unboundSyscallEntry_spec plainDispatch_dispatches
    (((userState 0#64 0#64 0#64 0#64 0x400000#64).setReg .r12 7#64).syscall kernelMsrs)
    0x8000#64 0x100100#64
  refine ⟨plainDispatch_dispatches, plainDispatch_writesFrame, hr12, fun hpreserves => ?_⟩
  have hkept := hpreserves.registers .r12 (by decide)
  rw [hr12] at hkept
  exact absurd hkept (by decide)

end UnboundOS.Arch
