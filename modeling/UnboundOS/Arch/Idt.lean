import UnboundOS.X86.Machine

/-!
The exception path of `arch/x86_64/idt.rs`: the thirty-two entry stubs, their
common tail and the return. The tail saves and restores fifteen registers
correctly, but drops only one of the two words the stubs account for before
`iretq`, and three stubs push a zero although the processor pushes an error
code for their vectors. The results below say what `iretq` pops for every
vector, and exactly when that is the interrupted state.
-/

namespace UnboundOS.Arch

open X86 X86.Machine

/-- Stubs for vectors the source takes to have no error code: they push a zero
in its place. -/
def isrWithoutErrorCode (vector : U64) : List Instr :=
  [.pushImm 0#64, .pushImm vector]

/-- Stubs for vectors with an error code on the stack already. -/
def isrWithErrorCode (vector : U64) : List Instr :=
  [.pushImm vector]

def unboundIsr0 : List Instr := isrWithoutErrorCode 0#64
def unboundIsr1 : List Instr := isrWithoutErrorCode 1#64
def unboundIsr2 : List Instr := isrWithoutErrorCode 2#64
def unboundIsr3 : List Instr := isrWithoutErrorCode 3#64
def unboundIsr4 : List Instr := isrWithoutErrorCode 4#64
def unboundIsr5 : List Instr := isrWithoutErrorCode 5#64
def unboundIsr6 : List Instr := isrWithoutErrorCode 6#64
def unboundIsr7 : List Instr := isrWithoutErrorCode 7#64
def unboundIsr8 : List Instr := isrWithErrorCode 8#64
def unboundIsr9 : List Instr := isrWithoutErrorCode 9#64
def unboundIsr10 : List Instr := isrWithErrorCode 10#64
def unboundIsr11 : List Instr := isrWithErrorCode 11#64
def unboundIsr12 : List Instr := isrWithErrorCode 12#64
def unboundIsr13 : List Instr := isrWithErrorCode 13#64
def unboundIsr14 : List Instr := isrWithErrorCode 14#64
def unboundIsr15 : List Instr := isrWithoutErrorCode 15#64
def unboundIsr16 : List Instr := isrWithoutErrorCode 16#64
def unboundIsr17 : List Instr := isrWithErrorCode 17#64
def unboundIsr18 : List Instr := isrWithoutErrorCode 18#64
def unboundIsr19 : List Instr := isrWithoutErrorCode 19#64
def unboundIsr20 : List Instr := isrWithoutErrorCode 20#64
def unboundIsr21 : List Instr := isrWithoutErrorCode 21#64
def unboundIsr22 : List Instr := isrWithoutErrorCode 22#64
def unboundIsr23 : List Instr := isrWithoutErrorCode 23#64
def unboundIsr24 : List Instr := isrWithoutErrorCode 24#64
def unboundIsr25 : List Instr := isrWithoutErrorCode 25#64
def unboundIsr26 : List Instr := isrWithoutErrorCode 26#64
def unboundIsr27 : List Instr := isrWithoutErrorCode 27#64
def unboundIsr28 : List Instr := isrWithoutErrorCode 28#64
def unboundIsr29 : List Instr := isrWithoutErrorCode 29#64
def unboundIsr30 : List Instr := isrWithoutErrorCode 30#64
def unboundIsr31 : List Instr := isrWithoutErrorCode 31#64

/-- The handlers `idt::init` installs for the exception vectors. -/
def installedIsr (vector : Fin 32) : List Instr :=
  #v[unboundIsr0, unboundIsr1, unboundIsr2, unboundIsr3, unboundIsr4, unboundIsr5,
    unboundIsr6, unboundIsr7, unboundIsr8, unboundIsr9, unboundIsr10, unboundIsr11,
    unboundIsr12, unboundIsr13, unboundIsr14, unboundIsr15, unboundIsr16, unboundIsr17,
    unboundIsr18, unboundIsr19, unboundIsr20, unboundIsr21, unboundIsr22, unboundIsr23,
    unboundIsr24, unboundIsr25, unboundIsr26, unboundIsr27, unboundIsr28, unboundIsr29,
    unboundIsr30, unboundIsr31][vector]

/-- The vectors for which the processor pushes an error code. -/
def hasErrorCode (vector : Fin 32) : Bool :=
  vector ∈ [8, 10, 11, 12, 13, 14, 17, 21, 29, 30]

/-- The registers `unbound_exception_common` saves, in order. -/
def savedRegs : List Reg :=
  [.rax, .rcx, .rdx, .rbx, .rbp, .rsi, .rdi, .r8, .r9, .r10, .r11, .r12, .r13, .r14, .r15]

/-- `unbound_exception_common` up to its `iretq`. -/
def unboundExceptionCommon (returnAddress : U64) : List Instr :=
  [.push .rax, .push .rcx, .push .rdx, .push .rbx, .push .rbp, .push .rsi, .push .rdi,
    .push .r8, .push .r9, .push .r10, .push .r11, .push .r12, .push .r13, .push .r14, .push .r15,
    .lea .rdi .rsp 120#64,
    .sub .rsp 8#64,
    .call returnAddress,
    .add .rsp 8#64,
    .pop .r15, .pop .r14, .pop .r13, .pop .r12, .pop .r11, .pop .r10, .pop .r9, .pop .r8,
    .pop .rdi, .pop .rsi, .pop .rbp, .pop .rbx, .pop .rdx, .pop .rcx, .pop .rax,
    .add .rsp 8#64]

def kernelCodeSelector : U16 := 0x08#16

/-- An exception from delivery to the state after `iretq`. `stack` is the stack
the processor selects: the interrupted one, the one of the task-state segment
or an interrupt stack. -/
def takeException (callee : Machine → Machine) (stack handler returnAddress : U64)
    (vector : Fin 32) (errorCode : U64) (self : Machine) : Machine :=
  (((self.deliver stack handler kernelCodeSelector
    (if hasErrorCode vector then some errorCode else none)).run callee
    (installedIsr vector)).run callee (unboundExceptionCommon returnAddress)).iretq

/-- The interrupted code goes on as if nothing had happened. -/
structure Resumes (before after : Machine) : Prop where
  rip : after.rip = before.rip
  cs : after.cs = before.cs
  rflags : after.rflags = before.rflags
  rsp : after.regs .rsp = before.regs .rsp
  ss : after.ss = before.ss
  saved : ∀ reg ∈ savedRegs, after.regs reg = before.regs reg

variable {callee : Machine → Machine} {self : Machine}

/-- The words between the vector and the return address: the zero of the stub,
if it pushes one, and the error code of the processor, if it pushes one. -/
def errorWords (vector : Fin 32) (errorCode : U64) : List U64 :=
  (if vector ∈ [8, 10, 11, 12, 13, 14, 17] then [] else [0#64]) ++
    (if hasErrorCode vector then [errorCode] else [])

theorem installedIsr_eq (vector : Fin 32) :
    installedIsr vector =
      (if vector ∈ [8, 10, 11, 12, 13, 14, 17] then [] else [.pushImm 0#64]) ++
        [.pushImm (BitVec.ofNat 64 vector)] := by
  revert vector
  decide

theorem errorWords_length (vector : Fin 32) (errorCode : U64) :
    (errorWords vector errorCode).length ≤ 2 := by
  rw [errorWords, List.length_append]
  split <;> split <;> simp

/-- The stack a stub hands to the common tail. -/
theorem installedIsr_spec (callee : Machine → Machine) (vector : Fin 32) (errorCode : U64)
    {delivered : Machine} {words : List U64} (hroom : words.length = 5)
    (hstack : delivered.Stack ((if hasErrorCode vector then some errorCode else none).toList ++
      words)) :
    (delivered.run callee (installedIsr vector)).Stack
        (BitVec.ofNat 64 vector :: (errorWords vector errorCode ++ words)) ∧
      ∀ reg ≠ .rsp,
        (delivered.run callee (installedIsr vector)).regs reg = delivered.regs reg := by
  have herror : (if hasErrorCode vector then some errorCode else none).toList =
      if hasErrorCode vector then [errorCode] else [] := by split <;> rfl
  rw [herror] at hstack
  have hlength : ((if hasErrorCode vector then [errorCode] else []) ++ words).length ≤ 6 := by
    rw [List.length_append, hroom]
    split <;> simp
  rw [installedIsr_eq, errorWords]
  split
  · refine ⟨hstack.pushWord (by omega) _, fun reg hreg => pushWord_other hreg _⟩
  · have hzero := hstack.pushWord (by omega) 0#64
    refine ⟨hzero.pushWord (by rw [List.length_cons]; omega) _, fun reg hreg => ?_⟩
    exact (pushWord_other hreg _).trans (pushWord_other hreg _)

/-- The common tail in its phases. -/
theorem run_unboundExceptionCommon (returnAddress : U64) :
    self.run callee (unboundExceptionCommon returnAddress) =
      ((((((self.run callee (savedRegs.map .push)).run callee
        [.lea .rdi .rsp 120#64, .sub .rsp 8#64]).exec callee (.call returnAddress)).exec callee
        (.add .rsp 8#64)).run callee (savedRegs.reverse.map .pop)).dropWord) :=
  rfl

/-- The common tail restores every register it saves and drops the vector, but
nothing else. -/
theorem unboundExceptionCommon_spec
    (hcallee : ∀ machine, Returned 192 machine (callee machine)) (returnAddress : U64)
    {vector : U64} {words : List U64} (hstack : self.Stack (vector :: words))
    (hroom : words.length ≤ 7) :
    (self.run callee (unboundExceptionCommon returnAddress)).Stack words ∧
      ∀ reg ∈ savedRegs, (self.run callee (unboundExceptionCommon returnAddress)).regs reg =
        self.regs reg := by
  obtain ⟨hsaved, hregs, _⟩ := run_pushes callee savedRegs (by decide) hstack
    (by simp only [List.length_cons, savedRegs, List.length_nil]; omega)
  rw [run_unboundExceptionCommon]
  generalize self.run callee (savedRegs.map .push) = saved at *
  have hrsp : (saved.run callee [.lea .rdi .rsp 120#64, .sub .rsp 8#64]).regs .rsp =
      saved.regs .rsp - 8#64 := rfl
  have hmemory : (saved.run callee [.lea .rdi .rsp 120#64, .sub .rsp 8#64]).memory =
      saved.memory := rfl
  generalize saved.run callee [.lea .rdi .rsp 120#64, .sub .rsp 8#64] = ready at *
  obtain ⟨hcallRsp, _, hframe⟩ := call_spec (by omega) (hcallee (ready.pushWord returnAddress))
  have hholds := hframe (saved.regs .rsp) ((savedRegs.map self.regs).reverse ++ vector :: words) (by
    have hdistance (base : U64) : base - (base - 8#64) = 8#64 := by bv_omega
    rw [hrsp, hdistance]
    simp only [List.length_append, List.length_reverse, List.length_map, List.length_cons,
      savedRegs, List.length_nil, BitVec.toNat_ofNat]
    omega) (by rw [hmemory]; exact hsaved)
  generalize ready.exec callee (.call returnAddress) = returned at *
  have hback : (returned.exec callee (.add .rsp 8#64)).Stack
      (savedRegs.reverse.map self.regs ++ vector :: words) := by
    change returned.memory.Holds (returned.regs .rsp + 8#64) _
    rw [hcallRsp, hrsp, BitVec.sub_add_cancel, List.map_reverse]
    exact hholds
  obtain ⟨hrest, hvalues, _⟩ :=
    run_pops callee savedRegs.reverse self.regs (by decide) (by decide) hback
  generalize (returned.exec callee (.add .rsp 8#64)).run callee (savedRegs.reverse.map .pop) =
    restored at *
  refine ⟨hrest.dropWord, fun reg hreg => ?_⟩
  have hne : reg ≠ .rsp := by rintro rfl; revert hreg; decide
  rw [dropWord, setReg_other hne]
  exact hvalues reg (List.mem_reverse.mpr hreg)

/-- What `iretq` pops: the words between the vector and the return address are
still there. The fifteen registers are as they were. -/
theorem takeException_spec (hcallee : ∀ machine, Returned 192 machine (callee machine))
    (stack handler returnAddress : U64) (vector : Fin 32) (errorCode : U64) (self : Machine)
    {rip cs rflags rsp ss : U64} {rest : List U64}
    (hwords : errorWords vector errorCode ++ self.returnWords =
      rip :: cs :: rflags :: rsp :: ss :: rest) :
    ∃ after, takeException callee stack handler returnAddress vector errorCode self = after ∧
      after.rip = rip ∧ after.cs = cs.setWidth 16 ∧ after.rflags = rflags ∧
      after.regs .rsp = rsp ∧ after.ss = ss.setWidth 16 ∧
      ∀ reg ∈ savedRegs, after.regs reg = self.regs reg := by
  obtain ⟨hdelivered, hdeliveredRegs⟩ := deliver_spec stack handler kernelCodeSelector
    (if hasErrorCode vector then some errorCode else none) self
  obtain ⟨hstub, hstubRegs⟩ := installedIsr_spec callee vector errorCode rfl hdelivered
  have hlength : (errorWords vector errorCode ++ self.returnWords).length ≤ 7 := by
    have herror := errorWords_length vector errorCode
    rw [List.length_append]
    change _ + 5 ≤ 7
    omega
  obtain ⟨hcommon, hcommonRegs⟩ :=
    unboundExceptionCommon_spec hcallee returnAddress hstub hlength
  rw [hwords] at hcommon
  obtain ⟨hrip, hcs, hrflags, hrsp, hss, hregs⟩ := iretq_spec hcommon
  refine ⟨_, rfl, hrip, hcs, hrflags, hrsp, hss, fun reg hreg => ?_⟩
  have hne : reg ≠ .rsp := by rintro rfl; revert hreg; decide
  rw [takeException, hregs reg hne, hcommonRegs reg hreg, hstubRegs reg hne, hdeliveredRegs reg hne]

theorem resumes_iff_words (hcallee : ∀ machine, Returned 192 machine (callee machine))
    (stack handler returnAddress : U64) (vector : Fin 32) (errorCode : U64) (self : Machine)
    {rip cs rflags rsp ss : U64} {rest : List U64}
    (hwords : errorWords vector errorCode ++ self.returnWords =
      rip :: cs :: rflags :: rsp :: ss :: rest) :
    Resumes self (takeException callee stack handler returnAddress vector errorCode self) ↔
      rip = self.rip ∧ cs.setWidth 16 = self.cs ∧ rflags = self.rflags ∧
        rsp = self.regs .rsp ∧ ss.setWidth 16 = self.ss := by
  obtain ⟨after, hafter, hrip, hcs, hrflags, hrsp, hss, hregs⟩ :=
    takeException_spec hcallee stack handler returnAddress vector errorCode self hwords
  rw [hafter, ← hrip, ← hcs, ← hrflags, ← hrsp, ← hss]
  constructor
  · intro hresumes
    exact ⟨hresumes.rip, hresumes.cs, hresumes.rflags, hresumes.rsp, hresumes.ss⟩
  · rintro ⟨hripSame, hcsSame, hrflagsSame, hrspSame, hssSame⟩
    exact ⟨hripSame, hcsSame, hrflagsSame, hrspSame, hssSame, hregs⟩

/-- The vectors for which stub and processor both push an error code. -/
def doublePush (vector : Fin 32) : Bool :=
  vector ∈ [21, 29, 30]

theorem errorWords_eq (vector : Fin 32) (errorCode : U64) :
    errorWords vector errorCode =
      if doublePush vector then [0#64, errorCode]
      else [if hasErrorCode vector then errorCode else 0#64] := by
  have htable : ∀ other : Fin 32,
      (other ∈ [8, 10, 11, 12, 13, 14, 17] → hasErrorCode other ∧ doublePush other = false) ∧
      (other ∉ [8, 10, 11, 12, 13, 14, 17] → hasErrorCode other = doublePush other) := by decide
  rw [errorWords]
  by_cases hstub : vector ∈ [8, 10, 11, 12, 13, 14, 17]
  · obtain ⟨hcpu, hdouble⟩ := (htable vector).1 hstub
    simp [hstub, hcpu, hdouble]
  · rw [if_neg hstub, (htable vector).2 hstub]
    cases doublePush vector <;> rfl

/-- The interrupted states an exception on `vector` returns to unchanged: each
word must coincide with the one pushed next to it. -/
def ShiftedStateAgrees (vector : Fin 32) (errorCode : U64) (self : Machine) : Prop :=
  if doublePush vector then
    0#64 = self.rip ∧ errorCode.setWidth 16 = self.cs ∧ self.rip = self.rflags ∧
      self.cs.setWidth 64 = self.regs .rsp ∧ self.rflags.setWidth 16 = self.ss
  else
    (if hasErrorCode vector then errorCode else 0#64) = self.rip ∧
      self.rip.setWidth 16 = self.cs ∧ self.cs.setWidth 64 = self.rflags ∧
      self.rflags = self.regs .rsp ∧ (self.regs .rsp).setWidth 16 = self.ss

instance (vector : Fin 32) (errorCode : U64) (self : Machine) :
    Decidable (ShiftedStateAgrees vector errorCode self) := by
  unfold ShiftedStateAgrees
  infer_instance

/-- An exception whose handler returns resumes the interrupted code exactly if
the state shifted by one word, or by two for the vectors that push twice, is
the state itself. -/
theorem exception_resumes_iff (callee : Machine → Machine)
    (hcallee : ∀ machine, Returned 192 machine (callee machine))
    (stack handler returnAddress : U64) (vector : Fin 32) (errorCode : U64) (self : Machine) :
    Resumes self (takeException callee stack handler returnAddress vector errorCode self) ↔
      ShiftedStateAgrees vector errorCode self := by
  have hwords := errorWords_eq vector errorCode
  rw [ShiftedStateAgrees]
  cases hdouble : doublePush vector with
  | true =>
      rw [hdouble] at hwords
      exact resumes_iff_words hcallee stack handler returnAddress vector errorCode self
        (by rw [hwords]; rfl)
  | false =>
      rw [hdouble] at hwords
      exact resumes_iff_words hcallee stack handler returnAddress vector errorCode self
        (by rw [hwords]; rfl)

/-- A handler that only returns. -/
def plainReturn (machine : Machine) : Machine :=
  machine.dropWord

theorem plainReturn_returned (machine : Machine) : Returned 192 machine (plainReturn machine) := by
  refine ⟨rfl, fun reg hreg => setReg_other ?_ _, fun _ _ => rfl⟩
  rintro rfl
  revert hreg
  decide

/-- An interrupted state with all other registers and all memory zero. -/
def interruptedState (rip : U64) (cs : U16) (rflags rsp : U64) (ss : U16) : Machine where
  regs
    | .rsp => rsp
    | _ => 0#64
  memory := fun _ => 0#8
  rip := rip
  rflags := rflags
  cs := cs
  ss := ss
  calls := []

/-- A general-protection fault whose error code, return address and selectors
are all equal does come back. -/
theorem exception_resumes_equal_words :
    Resumes (interruptedState 0x10#64 0x10#16 0x10#64 0x10#64 0x10#16)
      (takeException plainReturn 0x9000#64 0x100000#64 0x100100#64 13 0x10#64
        (interruptedState 0x10#64 0x10#16 0x10#64 0x10#64 0x10#16)) :=
  (exception_resumes_iff plainReturn plainReturn_returned 0x9000#64 0x100000#64 0x100100#64 13
    0x10#64 (interruptedState 0x10#64 0x10#16 0x10#64 0x10#64 0x10#16)).mpr
    (by decide)

/-- A breakpoint in user code: `iretq` takes the zero the stub pushed for the
return address, the return address for the code selector, and so on. -/
theorem breakpoint_does_not_resume :
    (∀ machine, Returned 192 machine (plainReturn machine)) ∧
      (takeException plainReturn 0x9000#64 0x100000#64 0x100100#64 3 0#64
        (interruptedState 0x401000#64 0x33#16 0x202#64 0x7000#64 0x2B#16)).rip = 0#64 ∧
      ¬ Resumes (interruptedState 0x401000#64 0x33#16 0x202#64 0x7000#64 0x2B#16)
        (takeException plainReturn 0x9000#64 0x100000#64 0x100100#64 3 0#64
          (interruptedState 0x401000#64 0x33#16 0x202#64 0x7000#64 0x2B#16)) := by
  obtain ⟨after, hafter, hrip, _⟩ := takeException_spec plainReturn_returned 0x9000#64 0x100000#64
    0x100100#64 3 0#64 (interruptedState 0x401000#64 0x33#16 0x202#64 0x7000#64 0x2B#16) rfl
  refine ⟨plainReturn_returned, by rw [hafter, hrip], fun hresumes => ?_⟩
  have hsame := hresumes.rip
  rw [hafter, hrip] at hsame
  exact absurd hsame (by decide)

end UnboundOS.Arch
