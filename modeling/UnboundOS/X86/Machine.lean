import UnboundOS.X86.Memory

/-!
The part of x86-64 that entry stubs are made of: the general registers, a
stack, straight-line instructions, calls under the System V convention, and the
four ways in and out of the kernel (`SYSCALL`, `SYSRETQ`, exception delivery,
`IRETQ`). A stub is a list of instructions, so the instruction pointer is only
tracked across those four and a jump out of the stub. Arithmetic flags are not
modelled; no stub here reads them, and every way out reloads RFLAGS.
-/

namespace UnboundOS.X86

inductive Reg where
  | rax | rbx | rcx | rdx | rsi | rdi | rbp | rsp
  | r8 | r9 | r10 | r11 | r12 | r13 | r14 | r15
deriving DecidableEq

/-- The first four integer arguments of a System V call. -/
structure Arguments where
  rdi : U64
  rsi : U64
  rdx : U64
  rcx : U64
deriving DecidableEq

/-- The processor and its memory. `calls` records the arguments of every call
a stub has made. -/
structure Machine where
  regs : Reg → U64
  memory : Memory
  rip : U64
  rflags : U64
  cs : U16
  ss : U16
  calls : List Arguments

inductive Instr where
  | push (source : Reg)
  | pushImm (value : U64)
  | pop (target : Reg)
  | mov (target source : Reg)
  /-- `mov target, [base + offset]` -/
  | load (target base : Reg) (offset : U64)
  /-- `mov [base + offset], source` -/
  | store (base : Reg) (offset : U64) (source : Reg)
  /-- `mov target, [rip + symbol]` -/
  | loadSymbol (target : Reg) (address : U64)
  | lea (target base : Reg) (offset : U64)
  | add (target : Reg) (value : U64)
  | sub (target : Reg) (value : U64)
  | and (target : Reg) (value : U64)
  | cli
  | call (returnAddress : U64)
  | jmp (target : Reg)
deriving DecidableEq

def Instr.isCall : Instr → Bool
  | .call _ => true
  | _ => false

namespace Machine

def setReg (self : Machine) (target : Reg) (value : U64) : Machine :=
  {self with regs := Function.update self.regs target value}

def pushWord (self : Machine) (value : U64) : Machine :=
  {self.setReg .rsp (self.regs .rsp - 8#64) with
    memory := self.memory.write64 (self.regs .rsp - 8#64) value}

/-- The word on top of the stack. -/
def top (self : Machine) : U64 :=
  self.memory.read64 (self.regs .rsp)

def dropWord (self : Machine) : Machine :=
  self.setReg .rsp (self.regs .rsp + 8#64)

def arguments (self : Machine) : Arguments :=
  ⟨self.regs .rdi, self.regs .rsi, self.regs .rdx, self.regs .rcx⟩

/-- One instruction. `callee` is the called function: it takes the state at its
first instruction to the state after its `ret`. -/
def exec (callee : Machine → Machine) (self : Machine) : Instr → Machine
  | .push source => self.pushWord (self.regs source)
  | .pushImm value => self.pushWord value
  | .pop target => self.dropWord.setReg target self.top
  | .mov target source => self.setReg target (self.regs source)
  | .load target base offset =>
      self.setReg target (self.memory.read64 (self.regs base + offset))
  | .store base offset source =>
      {self with memory := self.memory.write64 (self.regs base + offset) (self.regs source)}
  | .loadSymbol target address => self.setReg target (self.memory.read64 address)
  | .lea target base offset => self.setReg target (self.regs base + offset)
  | .add target value => self.setReg target (self.regs target + value)
  | .sub target value => self.setReg target (self.regs target - value)
  | .and target value => self.setReg target (self.regs target &&& value)
  | .cli => {self with rflags := self.rflags &&& ~~~0x200#64}
  | .call returnAddress =>
      {callee (self.pushWord returnAddress) with calls := self.calls ++ [self.arguments]}
  | .jmp target => {self with rip := self.regs target}

def run (callee : Machine → Machine) (self : Machine) (code : List Instr) : Machine :=
  code.foldl (exec callee) self

/-- The states right before the calls of a stub, in order. -/
def callSites (callee : Machine → Machine) : Machine → List Instr → List Machine
  | _, [] => []
  | self, instr :: rest =>
      (if instr.isCall then [self] else []) ++ callSites callee (self.exec callee instr) rest

/-- The model-specific registers behind `SYSCALL` and `SYSRETQ`. -/
structure SyscallMsrs where
  lstar : U64
  fmask : U64
  kernelCode : U16
  kernelStack : U16
  userCode : U16
  userStack : U16

/-- `SYSCALL`: the return address goes to RCX, RFLAGS to R11; the stack stays. -/
def syscall (msrs : SyscallMsrs) (self : Machine) : Machine :=
  {(self.setReg .rcx self.rip).setReg .r11 self.rflags with
    rip := msrs.lstar
    rflags := self.rflags &&& ~~~msrs.fmask
    cs := msrs.kernelCode
    ss := msrs.kernelStack}

/-- `SYSRETQ`: back to RCX with the writable flags of R11. -/
def sysretq (msrs : SyscallMsrs) (self : Machine) : Machine :=
  {self with
    rip := self.regs .rcx
    rflags := (self.regs .r11 &&& 0x3C7FD7#64) ||| 2#64
    cs := msrs.userCode
    ss := msrs.userStack}

/-- Exception delivery through an interrupt gate on the stack the processor
selected: align it to 16 bytes, push the return state and the error code if the
vector has one. -/
def deliver (stack handler : U64) (code : U16) (errorCode : Option U64) (self : Machine) :
    Machine :=
  let frame := (((((self.setReg .rsp (stack &&& ~~~15#64)).pushWord (self.ss.setWidth 64)).pushWord
    (self.regs .rsp)).pushWord self.rflags).pushWord (self.cs.setWidth 64)).pushWord self.rip
  let frame := match errorCode with
    | some error => frame.pushWord error
    | none => frame
  {frame with rip := handler, rflags := self.rflags &&& ~~~0x34300#64, cs := code}

/-- `IRETQ`: pop RIP, CS, RFLAGS, RSP and SS. -/
def iretq (self : Machine) : Machine :=
  let word (index : Nat) := self.memory.read64 (self.regs .rsp + BitVec.ofNat 64 (8 * index))
  {self.setReg .rsp (word 3) with
    rip := word 0
    cs := (word 1).setWidth 16
    rflags := word 2
    ss := (word 4).setWidth 16}

/-- The words from the stack pointer upwards. -/
def Stack (self : Machine) (words : List U64) : Prop :=
  self.memory.Holds (self.regs .rsp) words

end Machine

/-- What a System V function leaves alone when it returns: the stack pointer,
the callee-saved registers and the caller's frame above the return address. -/
structure Returned (frameBytes : Nat) (entry exit : Machine) : Prop where
  rsp : exit.regs .rsp = entry.regs .rsp + 8#64
  saved : ∀ reg ∈ [Reg.rbx, .rbp, .r12, .r13, .r14, .r15], exit.regs reg = entry.regs reg
  frame : ∀ offset < frameBytes,
    exit.memory (entry.regs .rsp + 8#64 + BitVec.ofNat 64 offset) =
      entry.memory (entry.regs .rsp + 8#64 + BitVec.ofNat 64 offset)

namespace Machine

variable {callee : Machine → Machine} {self : Machine} {words : List U64}

@[simp] theorem setReg_same (self : Machine) (target : Reg) (value : U64) :
    (self.setReg target value).regs target = value :=
  Function.update_self _ _ _

@[simp] theorem setReg_memory (self : Machine) (target : Reg) (value : U64) :
    (self.setReg target value).memory = self.memory := rfl

theorem setReg_other {target reg : Reg} (hreg : reg ≠ target) (value : U64) :
    (self.setReg target value).regs reg = self.regs reg :=
  Function.update_of_ne hreg _ _

@[simp] theorem sysretq_regs (msrs : SyscallMsrs) (self : Machine) :
    (self.sysretq msrs).regs = self.regs := rfl

@[simp] theorem sysretq_calls (msrs : SyscallMsrs) (self : Machine) :
    (self.sysretq msrs).calls = self.calls := rfl

theorem run_append (first second : List Instr) :
    self.run callee (first ++ second) = (self.run callee first).run callee second :=
  List.foldl_append

@[simp] theorem run_nil : self.run callee [] = self := rfl

@[simp] theorem run_cons (instr : Instr) (rest : List Instr) :
    self.run callee (instr :: rest) = (self.exec callee instr).run callee rest := rfl

theorem callSites_append (callee : Machine → Machine) (self : Machine)
    (first second : List Instr) :
    self.callSites callee (first ++ second) =
      self.callSites callee first ++ (self.run callee first).callSites callee second := by
  induction first generalizing self with
  | nil => rfl
  | cons instr rest ih => simp only [List.cons_append, callSites, ih, run_cons, List.append_assoc]

theorem callSites_eq_nil (callee : Machine → Machine) (self : Machine) {code : List Instr}
    (hcode : ∀ instr ∈ code, instr.isCall = false) : self.callSites callee code = [] := by
  induction code generalizing self with
  | nil => rfl
  | cons instr rest ih =>
      obtain ⟨hinstr, hrest⟩ := List.forall_mem_cons.mp hcode
      simp [callSites, hinstr, ih _ hrest]

theorem pushWord_other {reg : Reg} (hreg : reg ≠ .rsp) (value : U64) :
    (self.pushWord value).regs reg = self.regs reg :=
  setReg_other hreg _

theorem Stack.pushWord (hstack : self.Stack words) (hroom : 8 * (words.length + 1) ≤ 2 ^ 64)
    (value : U64) : (self.pushWord value).Stack (value :: words) := by
  change (self.memory.write64 _ value).Holds ((self.setReg .rsp _).regs .rsp) _
  rw [setReg_same]
  exact Memory.Holds.push hstack hroom value

/-- The frame of an exception, from the return address upwards. -/
def returnWords (self : Machine) : List U64 :=
  [self.rip, self.cs.setWidth 64, self.rflags, self.regs .rsp, self.ss.setWidth 64]

theorem deliver_spec (stack handler : U64) (code : U16) (errorCode : Option U64)
    (self : Machine) :
    (self.deliver stack handler code errorCode).Stack (errorCode.toList ++ self.returnWords) ∧
      ∀ reg ≠ .rsp, (self.deliver stack handler code errorCode).regs reg = self.regs reg := by
  have hempty : (self.setReg .rsp (stack &&& ~~~15#64)).Stack [] := trivial
  have hframe := ((((hempty.pushWord (by simp) (self.ss.setWidth 64)).pushWord (by simp)
    (self.regs .rsp)).pushWord (by simp) self.rflags).pushWord (by simp)
    (self.cs.setWidth 64)).pushWord (by simp) self.rip
  cases errorCode with
  | none =>
      refine ⟨hframe, fun reg hreg => ?_⟩
      simp only [deliver, pushWord_other hreg, setReg_other hreg]
  | some error =>
      refine ⟨hframe.pushWord (by simp) error, fun reg hreg => ?_⟩
      simp only [deliver, pushWord_other hreg, setReg_other hreg]

/-- `IRETQ` loads five words from the stack. -/
theorem iretq_spec {rip cs rflags rsp ss : U64}
    (hstack : self.Stack (rip :: cs :: rflags :: rsp :: ss :: words)) :
    self.iretq.rip = rip ∧ self.iretq.cs = cs.setWidth 16 ∧ self.iretq.rflags = rflags ∧
      self.iretq.regs .rsp = rsp ∧ self.iretq.ss = ss.setWidth 16 ∧
      ∀ reg ≠ .rsp, self.iretq.regs reg = self.regs reg := by
  have hword (index : Nat) (word : U64)
      (hindex : (rip :: cs :: rflags :: rsp :: ss :: words)[index]? = some word) :
      self.memory.read64 (self.regs .rsp + BitVec.ofNat 64 (8 * index)) = word :=
    Memory.Holds.getElem hstack hindex
  refine ⟨hword 0 rip rfl, ?_, hword 2 rflags rfl, ?_, ?_, fun reg hreg => setReg_other hreg _⟩
  · exact congrArg (BitVec.setWidth 16) (hword 1 cs rfl)
  · exact (setReg_same self .rsp _).trans (hword 3 rsp rfl)
  · exact congrArg (BitVec.setWidth 16) (hword 4 ss rfl)

/-- Registers saved one after the other lie on the stack in reverse. -/
theorem run_pushes (callee : Machine → Machine) (regs : List Reg)
    (hrsp : .rsp ∉ regs) (hstack : self.Stack words)
    (hroom : 8 * (words.length + regs.length) ≤ 2 ^ 64) :
    (self.run callee (regs.map .push)).Stack ((regs.map self.regs).reverse ++ words) ∧
      (∀ reg ≠ .rsp, (self.run callee (regs.map .push)).regs reg = self.regs reg) ∧
      (self.run callee (regs.map .push)).calls = self.calls := by
  induction regs generalizing self words with
  | nil => exact ⟨hstack, fun _ _ => rfl, rfl⟩
  | cons first rest ih =>
      rw [List.length_cons] at hroom
      have hfirst : first ≠ .rsp := fun heq => hrsp (by simp [heq])
      have hpushed := hstack.pushWord (by omega) (self.regs first)
      obtain ⟨hwords, hregs, hcalls⟩ := ih (fun hmem => hrsp (List.mem_cons_of_mem _ hmem)) hpushed
        (by rw [List.length_cons]; omega)
      have hsame : rest.map (self.pushWord (self.regs first)).regs = rest.map self.regs :=
        List.map_congr_left fun reg hmem =>
          pushWord_other (fun heq => hrsp (by simp [← heq, hmem])) _
      refine ⟨?_, fun reg hreg => ?_, hcalls⟩
      · rw [hsame] at hwords
        simpa [exec] using hwords
      · rw [List.map_cons, run_cons, exec, hregs reg hreg, pushWord_other hreg]

/-- Registers restored one after the other take the words on the stack. -/
theorem run_pops (callee : Machine → Machine) (regs : List Reg) (values : Reg → U64)
    (hnodup : regs.Nodup) (hrsp : .rsp ∉ regs) (hstack : self.Stack (regs.map values ++ words)) :
    (self.run callee (regs.map .pop)).Stack words ∧
      (∀ reg ∈ regs, (self.run callee (regs.map .pop)).regs reg = values reg) ∧
      (∀ reg ∉ regs, reg ≠ .rsp →
        (self.run callee (regs.map .pop)).regs reg = self.regs reg) ∧
      (self.run callee (regs.map .pop)).calls = self.calls := by
  induction regs generalizing self with
  | nil => exact ⟨hstack, fun _ hmem => absurd hmem List.not_mem_nil, fun _ _ _ => rfl, rfl⟩
  | cons first rest ih =>
      obtain ⟨hfirst, hrest⟩ := List.nodup_cons.mp hnodup
      have hne : first ≠ .rsp := fun heq => hrsp (by simp [heq])
      have hpopped : (self.exec callee (.pop first)).Stack (rest.map values ++ words) := by
        change self.memory.Holds ((self.dropWord.setReg first self.top).regs .rsp) _
        rw [setReg_other hne.symm, dropWord, setReg_same]
        exact hstack.2
      have htop : (self.exec callee (.pop first)).regs first = values first := by
        change (self.dropWord.setReg first self.top).regs first = _
        rw [setReg_same]
        exact hstack.1
      obtain ⟨hwords, hvalues, hothers, hcalls⟩ :=
        ih hrest (fun hmem => hrsp (List.mem_cons_of_mem _ hmem)) hpopped
      refine ⟨hwords, fun reg hreg => ?_, fun reg hreg hregRsp => ?_, hcalls⟩
      · rcases List.mem_cons.mp hreg with rfl | hmem
        · exact (hothers reg hfirst hne).trans htop
        · exact hvalues reg hmem
      · rw [List.mem_cons, not_or] at hreg
        refine (hothers reg hreg.2 hregRsp).trans ?_
        change (self.dropWord.setReg first self.top).regs reg = _
        rw [setReg_other hreg.1, dropWord, setReg_other hregRsp]

/-- Across a call that returns, the caller keeps its stack pointer, the
callee-saved registers and its frame. -/
theorem call_spec {frameBytes : Nat} {returnAddress : U64} (hbytes : frameBytes < 2 ^ 63)
    (hcallee : Returned frameBytes (self.pushWord returnAddress)
      (callee (self.pushWord returnAddress))) :
    (self.exec callee (.call returnAddress)).regs .rsp = self.regs .rsp ∧
      (∀ reg ∈ [Reg.rbx, .rbp, .r12, .r13, .r14, .r15],
        (self.exec callee (.call returnAddress)).regs reg = self.regs reg) ∧
      ∀ address words, (address - self.regs .rsp).toNat + 8 * words.length ≤ frameBytes →
        self.memory.Holds address words →
        (self.exec callee (.call returnAddress)).memory.Holds address words := by
  have hentry : (self.pushWord returnAddress).regs .rsp + 8#64 = self.regs .rsp := by
    change (self.setReg .rsp (self.regs .rsp - 8#64)).regs .rsp + 8#64 = _
    rw [setReg_same, BitVec.sub_add_cancel]
  refine ⟨hcallee.rsp.trans hentry, fun reg hreg => ?_, fun address words hframe hholds => ?_⟩
  · refine (hcallee.saved reg hreg).trans (pushWord_other ?_ _)
    rintro rfl
    simp at hreg
  · refine hholds.congr fun offset hoffset => ?_
    have haddress : address + BitVec.ofNat 64 offset = (self.pushWord returnAddress).regs .rsp +
        8#64 + BitVec.ofNat 64 ((address - self.regs .rsp).toNat + offset) := by
      rw [hentry, BitVec.ofNat_add, BitVec.ofNat_toNat, BitVec.setWidth_eq, ← BitVec.add_assoc,
        BitVec.add_comm _ (address - _), BitVec.sub_add_cancel]
    rw [haddress]
    refine (hcallee.frame _ (by omega)).trans ?_
    rw [hentry]
    exact Memory.write64_below _ _ _ (by omega)

/-- Loading from a known slot of the stack. -/
theorem Stack.read (hstack : self.Stack words) (index : Nat) {word : U64}
    (hword : words[index]? = some word) :
    self.memory.read64 (self.regs .rsp + BitVec.ofNat 64 (8 * index)) = word :=
  Memory.Holds.getElem hstack hword

theorem Stack.dropWord {word : U64} (hstack : self.Stack (word :: words)) :
    self.dropWord.Stack words := by
  change self.memory.Holds ((self.setReg .rsp _).regs .rsp) words
  rw [setReg_same]
  exact hstack.2

theorem pushWord_rsp (self : Machine) (value : U64) :
    (self.pushWord value).regs .rsp = self.regs .rsp - 8#64 :=
  setReg_same self .rsp _

theorem pushWord_memory (self : Machine) (value : U64) :
    Memory.SameOutside (Memory.span (self.regs .rsp - 8#64) 8) self.memory
      (self.pushWord value).memory :=
  Memory.write64_sameOutside _ _ _

/-- The stack has grown `depth` bytes down from `top`, and memory differs from
`before` in these bytes only. -/
structure PushedTo (before : Memory) (top : U64) (depth : Nat) (machine : Machine) : Prop where
  rsp : machine.regs .rsp = top - BitVec.ofNat 64 depth
  memory : Memory.SameOutside (Memory.span (top - BitVec.ofNat 64 depth) depth) before
    machine.memory

theorem PushedTo.pushWord {before : Memory} {top : U64} {depth : Nat}
    (hself : PushedTo before top depth self) (value : U64) :
    PushedTo before top (depth + 8) (self.pushWord value) := by
  have hrsp : self.regs .rsp - 8#64 = top - BitVec.ofNat 64 (depth + 8) := by
    rw [hself.rsp, BitVec.ofNat_add]
    bv_omega
  refine ⟨(pushWord_rsp self value).trans hrsp, ?_⟩
  apply Memory.SameOutside.trans
  · exact hself.memory.mono (Memory.below_subset (by omega) (by omega))
  · have hpush := pushWord_memory self value
    rw [hrsp] at hpush
    exact hpush.mono (Memory.span_mono (by omega))

theorem PushedTo.run_pushes {before : Memory} {top : U64} {depth : Nat}
    (callee : Machine → Machine) (regs : List Reg) (hself : PushedTo before top depth self) :
    PushedTo before top (depth + 8 * regs.length) (self.run callee (regs.map .push)) := by
  induction regs generalizing self depth with
  | nil => exact hself
  | cons first rest ih =>
      have hrest := ih (hself.pushWord (self.regs first))
      rwa [Nat.add_assoc, Nat.add_comm 8, ← Nat.mul_succ] at hrest

/-- The processor's own pushes. -/
theorem deliver_pushedTo (stack handler : U64) (code : U16) (errorCode : Option U64)
    (self : Machine) :
    PushedTo self.memory (stack &&& ~~~15#64) (40 + 8 * errorCode.toList.length)
      (self.deliver stack handler code errorCode) := by
  have hstart : PushedTo self.memory (stack &&& ~~~15#64) 0
      (self.setReg .rsp (stack &&& ~~~15#64)) :=
    ⟨(setReg_same self .rsp _).trans (BitVec.sub_zero _).symm, Memory.SameOutside.refl _ _⟩
  have hframe := ((((hstart.pushWord (self.ss.setWidth 64)).pushWord (self.regs .rsp)).pushWord
    self.rflags).pushWord (self.cs.setWidth 64)).pushWord self.rip
  cases errorCode with
  | none => exact ⟨hframe.rsp, hframe.memory⟩
  | some error => exact ⟨(hframe.pushWord error).rsp, (hframe.pushWord error).memory⟩

@[simp] theorem dropWord_memory (self : Machine) : self.dropWord.memory = self.memory := rfl

@[simp] theorem exec_mov_memory (callee : Machine → Machine) (self : Machine)
    (target source : Reg) :
    (self.exec callee (.mov target source)).memory = self.memory := rfl

theorem run_pops_memory (callee : Machine → Machine) (regs : List Reg) (self : Machine) :
    (self.run callee (regs.map .pop)).memory = self.memory := by
  induction regs generalizing self with
  | nil => rfl
  | cons first rest ih => exact ih _

end Machine

end UnboundOS.X86
