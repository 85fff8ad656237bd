import UnboundOS.X86.Machine

/-!
The `SYSCALL` path: the entry stub of `arch/x86_64/syscall.asm` and the
dispatcher of `syscall/mod.rs`. The stub pushes fifteen words, but reloads the
arguments at the offsets of the sixteen-word frame its comment describes, and
leaves them in the registers they came in. The results below say what the
dispatcher really receives, and exactly when that is what the user passed.
-/

namespace UnboundOS.Arch

open X86 X86.Machine

def sysGetVersion : U64 := 0#64

def unboundSyscallAbiVersion : U64 := 1#64

def dispatch (number _arg0 _arg1 _arg2 : U64) : U64 :=
  if number = sysGetVersion then unboundSyscallAbiVersion else BitVec.allOnes 64

/-- `unbound_syscall_entry` up to its `sysretq`. `stackTop` is the address of
`unbound_syscall_stack_top`, `returnAddress` the one after the call. -/
def unboundSyscallEntry (stackTop returnAddress : U64) : List Instr :=
  [.mov .r12 .rsp,
    .loadSymbol .rsp stackTop,
    .push .r12, .push .rcx, .push .r11,
    .push .rax, .push .rdx, .push .rbx, .push .rbp, .push .rsi, .push .rdi,
    .push .r8, .push .r9, .push .r10,
    .push .r13, .push .r14, .push .r15,
    .cli,
    .load .rax .rsp 96#64,
    .load .rdi .rsp 56#64,
    .load .rsi .rsp 64#64,
    .load .rdx .rsp 88#64,
    .mov .r12 .rsp,
    .and .rsp (-16#64),
    .call returnAddress,
    .mov .rsp .r12,
    .pop .r15, .pop .r14, .pop .r13,
    .pop .r10, .pop .r9, .pop .r8,
    .pop .rdi, .pop .rsi, .pop .rbp, .pop .rbx, .pop .rdx,
    .add .rsp 8#64,
    .pop .r11, .pop .rcx, .pop .r12,
    .mov .rsp .r12]

/-- `unbound_syscall_dispatch` as compiled for the System V ABI: entered with an
aligned stack it returns `dispatch` of its argument registers and leaves the
caller's frame alone. -/
structure Dispatches (callee : Machine → Machine) : Prop where
  returned : ∀ machine, machine.regs .rsp % 16#64 = 8#64 → Returned 136 machine (callee machine)
  result : ∀ machine, machine.regs .rsp % 16#64 = 8#64 → (callee machine).regs .rax =
    dispatch (machine.regs .rdi) (machine.regs .rsi) (machine.regs .rdx) (machine.regs .rcx)

/-- The `and` in front of the call aligns the stack as the callee expects. -/
theorem align_entry (address : U64) : ((address &&& (-16#64)) - 8#64) % 16#64 = 8#64 := by
  have haligned := and_neg_sixteen_toNat address
  have hbound := address.isLt
  rw [← BitVec.toNat_inj, BitVec.toNat_umod, BitVec.toNat_sub, haligned]
  simp only [BitVec.toNat_ofNat, Nat.reducePow, Nat.reduceMod]
  omega

theorem align_offset (address : U64) : (address - (address &&& (-16#64))).toNat < 16 := by
  have haligned := and_neg_sixteen_toNat address
  have hbound := address.isLt
  rw [BitVec.toNat_sub, haligned]
  omega

variable {callee : Machine → Machine} {self : Machine} {stackTop returnAddress : U64}

/-- What the stub saves: RSP in R12, everything else as the user left it. -/
def savedValue (self : Machine) (reg : Reg) : U64 :=
  if reg = .r12 then self.regs .rsp else self.regs reg

/-- The registers the stub pushes, in order. -/
def syscallFrame : List Reg :=
  [.r12, .rcx, .r11, .rax, .rdx, .rbx, .rbp, .rsi, .rdi, .r8, .r9, .r10, .r13, .r14, .r15]

/-- The same registers as they lie on the stack, from RSP upwards. -/
def frameOrder : List Reg :=
  [.r15, .r14, .r13, .r10, .r9, .r8, .rdi, .rsi, .rbp, .rbx, .rdx, .rax, .r11, .rcx, .r12]

/-- The instructions between the pushes and the call. -/
def loadArguments : List Instr :=
  [.cli, .load .rax .rsp 96#64, .load .rdi .rsp 56#64, .load .rsi .rsp 64#64,
    .load .rdx .rsp 88#64, .mov .r12 .rsp, .and .rsp (-16#64)]

def restoredRegs : List Reg :=
  [.r15, .r14, .r13, .r10, .r9, .r8, .rdi, .rsi, .rbp, .rbx, .rdx]

/-- The stub in its phases. -/
theorem run_unboundSyscallEntry :
    self.run callee (unboundSyscallEntry stackTop returnAddress) =
      ((((((((self.run callee [.mov .r12 .rsp, .loadSymbol .rsp stackTop]).run callee
        (syscallFrame.map .push)).run callee loadArguments).exec callee
        (.call returnAddress)).exec callee (.mov .rsp .r12)).run callee
        (restoredRegs.map .pop)).dropWord.run callee
        ([Reg.r11, .rcx, .r12].map .pop)).exec callee (.mov .rsp .r12)) :=
  rfl

/-- The state after the fifteen pushes. -/
theorem save_spec (callee : Machine → Machine) (stackTop : U64) (self : Machine) :
    ∃ saved : Machine, (self.run callee [.mov .r12 .rsp, .loadSymbol .rsp stackTop]).run callee
        (syscallFrame.map .push) = saved ∧
      saved.Stack (frameOrder.map (savedValue self)) ∧
      (∀ reg ≠ .rsp, saved.regs reg = savedValue self reg) ∧ saved.calls = self.calls := by
  have hstart : (self.run callee [.mov .r12 .rsp, .loadSymbol .rsp stackTop]).Stack [] := trivial
  have hregs (reg : Reg) (hreg : reg ≠ .rsp) :
      (self.run callee [.mov .r12 .rsp, .loadSymbol .rsp stackTop]).regs reg =
        savedValue self reg := by
    cases reg <;> first | rfl | exact absurd rfl hreg
  obtain ⟨hstack, hsame, hcalls⟩ := run_pushes callee syscallFrame (by decide) hstart
    (by decide)
  have hmap : syscallFrame.map
      (self.run callee [.mov .r12 .rsp, .loadSymbol .rsp stackTop]).regs =
      syscallFrame.map (savedValue self) :=
    List.map_congr_left fun reg hmem => hregs reg (by rintro rfl; revert hmem; decide)
  rw [hmap] at hstack
  exact ⟨_, rfl, hstack, fun reg hreg => (hsame reg hreg).trans (hregs reg hreg), hcalls⟩

/-- The state in front of the call: the offsets select RSI, RBP and RAX, and RCX
still holds the user's return address. -/
theorem loadArguments_spec (callee : Machine → Machine) {values : Reg → U64} {saved : Machine}
    (hstack : saved.Stack (frameOrder.map values))
    (hregs : ∀ reg ≠ .rsp, saved.regs reg = values reg) :
    (saved.run callee loadArguments).arguments =
        ⟨values .rsi, values .rbp, values .rax, values .rcx⟩ ∧
      (saved.run callee loadArguments).regs .rsp = saved.regs .rsp &&& (-16#64) ∧
      (saved.run callee loadArguments).regs .r12 = saved.regs .rsp ∧
      (saved.run callee loadArguments).memory = saved.memory ∧
      (saved.run callee loadArguments).calls = saved.calls := by
  refine ⟨?_, rfl, rfl, rfl, rfl⟩
  have hrdi : saved.memory.read64 (saved.regs .rsp + 56#64) = values .rsi :=
    hstack.read 7 rfl
  have hrsi : saved.memory.read64 (saved.regs .rsp + 64#64) = values .rbp :=
    hstack.read 8 rfl
  have hrdx : saved.memory.read64 (saved.regs .rsp + 88#64) = values .rax :=
    hstack.read 11 rfl
  rw [← hrdi, ← hrsi, ← hrdx, ← hregs .rcx (by decide)]
  rfl

/-- From the frame at R12 the stub restores everything but RAX. -/
theorem restore_spec (callee : Machine → Machine) {values : Reg → U64} {returned : Machine}
    (hframe : returned.memory.Holds (returned.regs .r12) (frameOrder.map values)) :
    ∃ final : Machine,
      (((returned.exec callee (.mov .rsp .r12)).run callee (restoredRegs.map .pop)).dropWord.run
        callee ([Reg.r11, .rcx, .r12].map .pop)).exec callee (.mov .rsp .r12) = final ∧
      final.calls = returned.calls ∧ final.regs .rax = returned.regs .rax ∧
      final.regs .rsp = values .r12 ∧
      ∀ reg, reg ≠ .rax → reg ≠ .rsp → final.regs reg = values reg := by
  have hunwound : (returned.exec callee (.mov .rsp .r12)).Stack (restoredRegs.map values ++
      [Reg.rax, .r11, .rcx, .r12].map values) := hframe
  obtain ⟨hrest, hvalues, hothers, hpopped⟩ :=
    run_pops callee restoredRegs values (by decide) (by decide) hunwound
  generalize (returned.exec callee (.mov .rsp .r12)).run callee (restoredRegs.map .pop) = popped
    at *
  have hdropped : popped.dropWord.Stack ([Reg.r11, .rcx, .r12].map values ++ []) := hrest.dropWord
  obtain ⟨_, hlast, hsame, hfinal⟩ :=
    run_pops callee [Reg.r11, .rcx, .r12] values (by decide) (by decide) hdropped
  generalize popped.dropWord.run callee ([Reg.r11, .rcx, .r12].map .pop) = restored at *
  refine ⟨restored.setReg .rsp (restored.regs .r12), rfl, hfinal.trans hpopped, ?_, ?_,
    fun reg hrax hrsp => ?_⟩
  · rw [setReg_other (by decide), hsame .rax (by decide) (by decide), dropWord,
      setReg_other (by decide), hothers .rax (by decide) (by decide)]
    rfl
  · rw [setReg_same, hlast .r12 (by decide)]
  · rw [setReg_other hrsp]
    by_cases hmem : reg ∈ [Reg.r11, .rcx, .r12]
    · exact hlast reg hmem
    · rw [hsame reg hmem hrsp, dropWord, setReg_other hrsp]
      refine hvalues reg ?_
      revert hrax hrsp hmem
      cases reg <;> decide

/-- The whole stub. The dispatcher is called once, with RSI, RBP, RAX and the
user's return address; its result goes to RAX, R12 is left with the user's
stack pointer, and every other register comes back. -/
theorem unboundSyscallEntry_spec (hcallee : Dispatches callee) (self : Machine)
    (stackTop returnAddress : U64) :
    (self.run callee (unboundSyscallEntry stackTop returnAddress)).calls =
        self.calls ++ [⟨self.regs .rsi, self.regs .rbp, self.regs .rax, self.regs .rcx⟩] ∧
      (self.run callee (unboundSyscallEntry stackTop returnAddress)).regs .rax =
        dispatch (self.regs .rsi) (self.regs .rbp) (self.regs .rax) (self.regs .rcx) ∧
      (self.run callee (unboundSyscallEntry stackTop returnAddress)).regs .r12 =
        self.regs .rsp ∧
      ∀ reg, reg ≠ .rax → reg ≠ .r12 →
        (self.run callee (unboundSyscallEntry stackTop returnAddress)).regs reg =
          self.regs reg := by
  obtain ⟨saved, hsaved, hstack, hregs, hcalls⟩ := save_spec callee stackTop self
  obtain ⟨harguments, hrsp, hr12, hmemory, hready⟩ := loadArguments_spec callee hstack hregs
  rw [run_unboundSyscallEntry, hsaved]
  generalize saved.run callee loadArguments = ready at *
  have hentry : (ready.pushWord returnAddress).regs .rsp % 16#64 = 8#64 := by
    change (ready.regs .rsp - 8#64) % 16#64 = 8#64
    rw [hrsp]
    exact align_entry _
  obtain ⟨_, hkept, hframe⟩ := call_spec (by omega) (hcallee.returned _ hentry)
  have hresult : (ready.exec callee (.call returnAddress)).regs .rax = _ :=
    hcallee.result _ hentry
  have htrace : (ready.exec callee (.call returnAddress)).calls =
      ready.calls ++ [ready.arguments] := rfl
  have hholds := hframe (saved.regs .rsp) (frameOrder.map (savedValue self)) (by
    have hoffset := align_offset (saved.regs .rsp)
    rw [hrsp]
    change _ + 8 * 15 ≤ 136
    omega) (by rw [hmemory]; exact hstack)
  rw [← hr12, ← hkept .r12 (by decide)] at hholds
  obtain ⟨final, hfinal, hfinalCalls, hfinalRax, hfinalRsp, hfinalRegs⟩ :=
    restore_spec callee hholds
  rw [hfinal]
  obtain ⟨hrdi, hrsi, hrdx, hrcx⟩ := Arguments.mk.inj harguments
  refine ⟨?_, ?_, hfinalRegs .r12 (by decide) (by decide), fun reg hrax hregR12 => ?_⟩
  · rw [hfinalCalls, htrace, hready, hcalls, harguments]
    rfl
  · rw [hfinalRax, hresult, pushWord_other (by decide), pushWord_other (by decide),
      pushWord_other (by decide), pushWord_other (by decide), hrdi, hrsi, hrdx, hrcx]
    rfl
  · by_cases hregRsp : reg = .rsp
    · rw [hregRsp, hfinalRsp]
      rfl
    · rw [hfinalRegs reg hrax hregRsp, savedValue, if_neg hregR12]

/-- A user program's system call, from its `SYSCALL` to the state it resumes
in. -/
def systemCall (callee : Machine → Machine) (msrs : SyscallMsrs) (stackTop returnAddress : U64)
    (user : Machine) : Machine :=
  ((user.syscall msrs).run callee (unboundSyscallEntry stackTop returnAddress)).sysretq msrs

/-- The dispatcher is called once, with RAX, RDI, RSI and RDX, and the user sees
its result for them in RAX. -/
def PassesArguments (callee : Machine → Machine) (msrs : SyscallMsrs)
    (stackTop returnAddress : U64) (user : Machine) : Prop :=
  (systemCall callee msrs stackTop returnAddress user).calls = user.calls ++
      [⟨user.regs .rax, user.regs .rdi, user.regs .rsi, user.regs .rdx⟩] ∧
    (systemCall callee msrs stackTop returnAddress user).regs .rax =
      dispatch (user.regs .rax) (user.regs .rdi) (user.regs .rsi) (user.regs .rdx)

/-- What a system call really passes and returns. -/
theorem systemCall_spec (hcallee : Dispatches callee) (msrs : SyscallMsrs)
    (stackTop returnAddress : U64) (user : Machine) :
    (systemCall callee msrs stackTop returnAddress user).calls = user.calls ++
        [⟨user.regs .rsi, user.regs .rbp, user.regs .rax, user.rip⟩] ∧
      (systemCall callee msrs stackTop returnAddress user).regs .rax =
        dispatch (user.regs .rsi) (user.regs .rbp) (user.regs .rax) user.rip := by
  obtain ⟨hcalls, hrax, _⟩ :=
    unboundSyscallEntry_spec hcallee (user.syscall msrs) stackTop returnAddress
  rw [systemCall, sysretq_calls, sysretq_regs, hcalls, hrax]
  exact ⟨rfl, rfl⟩

/-- The arguments arrive exactly if the user happened to hold them where the
stub looks: the number in RSI as well, the first argument in RBP and the third
equal to the return address. -/
theorem passesArguments_iff (callee : Machine → Machine) (hcallee : Dispatches callee)
    (msrs : SyscallMsrs) (stackTop returnAddress : U64) (user : Machine) :
    PassesArguments callee msrs stackTop returnAddress user ↔
      user.regs .rsi = user.regs .rax ∧ user.regs .rbp = user.regs .rdi ∧
        user.rip = user.regs .rdx := by
  obtain ⟨hcalls, hrax⟩ := systemCall_spec hcallee msrs stackTop returnAddress user
  rw [PassesArguments, hcalls, hrax]
  constructor
  · rintro ⟨htrace, _⟩
    obtain ⟨hrdi, hrsi, _, hrcx⟩ :=
      Arguments.mk.inj (List.singleton_inj.mp (List.append_cancel_left htrace))
    exact ⟨hrdi, hrsi, hrcx⟩
  · rintro ⟨hrsi, hrbp, hrip⟩
    rw [hrsi, hrbp, hrip]
    exact ⟨rfl, rfl⟩

/-- A dispatcher that touches nothing but RAX and its return address. -/
def plainDispatch (machine : Machine) : Machine :=
  (machine.setReg .rax (dispatch (machine.regs .rdi) (machine.regs .rsi) (machine.regs .rdx)
    (machine.regs .rcx))).dropWord

theorem plainDispatch_dispatches : Dispatches plainDispatch where
  returned := by
    intro machine _
    refine ⟨rfl, fun reg hreg => ?_, fun _ _ => rfl⟩
    have hrsp : reg ≠ .rsp := by rintro rfl; revert hreg; decide
    have hrax : reg ≠ .rax := by rintro rfl; revert hreg; decide
    exact (setReg_other hrsp _).trans (setReg_other hrax _)
  result := fun _ _ => rfl

/-- A user state with the given system-call registers, the other registers zero
and `0x9000` stored at `0x8000` for the syscall stack. -/
def userState (rax rdi rsi rdx rip : U64) : Machine where
  regs
    | .rax => rax
    | .rdi => rdi
    | .rsi => rsi
    | .rdx => rdx
    | _ => 0#64
  memory := fun address => if address = 0x8001#64 then 0x90#8 else 0#8
  rip := rip
  rflags := 0x202#64
  cs := 0x33#16
  ss := 0x2B#16
  calls := []

def kernelMsrs : SyscallMsrs where
  lstar := 0x100000#64
  fmask := 0x200#64
  kernelCode := 0x08#16
  kernelStack := 0x10#16
  userCode := 0x33#16
  userStack := 0x2B#16

/-- A call of `SYS_GET_VERSION` whose arguments are also where the stub looks. -/
theorem passesArguments_version_call :
    PassesArguments plainDispatch kernelMsrs 0x8000#64 0x100100#64
      ((userState 0#64 7#64 0#64 0x400000#64 0x400000#64).setReg .rbp 7#64) :=
  (passesArguments_iff plainDispatch plainDispatch_dispatches kernelMsrs 0x8000#64 0x100100#64
    ((userState 0#64 7#64 0#64 0x400000#64 0x400000#64).setReg .rbp 7#64)).mpr ⟨rfl, rfl, rfl⟩

/-- `SYS_GET_VERSION` with 5 in the second argument: the dispatcher takes the 5
for the number, and the user sees the error value instead of the version. -/
theorem version_call_with_second_argument :
    Dispatches plainDispatch ∧
      (systemCall plainDispatch kernelMsrs 0x8000#64 0x100100#64
        (userState 0#64 0#64 5#64 0#64 0x400000#64)).regs .rax = BitVec.allOnes 64 ∧
      dispatch 0#64 0#64 5#64 0#64 = 1#64 ∧
      ¬ PassesArguments plainDispatch kernelMsrs 0x8000#64 0x100100#64
        (userState 0#64 0#64 5#64 0#64 0x400000#64) := by
  obtain ⟨_, hrax⟩ := systemCall_spec plainDispatch_dispatches kernelMsrs 0x8000#64 0x100100#64
    (userState 0#64 0#64 5#64 0#64 0x400000#64)
  have herror : dispatch 5#64 0#64 0#64 0x400000#64 = BitVec.allOnes 64 := by decide
  refine ⟨plainDispatch_dispatches, hrax.trans herror, by decide, fun hpasses => ?_⟩
  have hversion := hpasses.2
  rw [hrax] at hversion
  exact absurd hversion (by decide)

end UnboundOS.Arch
