import UnboundOS.Arch.Irq
import UnboundOS.Sched.Context

/-!
The first start of a preemptive task: `initialize_interrupt_context` and
`prepare_preemptive_start` of `scheduler/task.rs` write a frame of nineteen
words, and `unbound_start_interrupt_context` or the tail of
`unbound_irq_common` restore it. Both end in a 64-bit `IRETQ`, which pops two
words more than the frame has. RSP and SS are therefore what the task's stack
happened to hold above the frame.
-/

namespace UnboundOS.Sched

open X86 X86.Machine X86.Memory
open Arch (savedRegs debugSelected Behaves restoreFrame_spec debugCall_stack)

/-- `unbound_start_interrupt_context` up to its `iretq`. -/
def unboundStartInterruptContext : List Instr :=
  [.pop .r15, .pop .r14, .pop .r13, .pop .r12, .pop .r11, .pop .r10, .pop .r9, .pop .r8,
    .pop .rdi, .pop .rsi, .pop .rbp, .pop .rbx, .pop .rdx, .pop .rcx, .pop .rax,
    .add .rsp 8#64]

/-- Where the fields of a `Task` lie in its `repr(C)` layout. -/
def contextOffset : U64 := 32#64

def interruptRspOffset : U64 := 96#64

def kernelStackOffset : U64 := 112#64

def kernelStackSize : U64 := 16#64 * 1024#64

def taskSize : Nat := 16496

/-- `KernelStack::top` of the task at `task`. -/
def kernelStackTop (task : U64) : Checked U64 :=
  checkedAdd (task + kernelStackOffset) kernelStackSize

/-- The words of the synthetic frame, from its lowest address upwards. -/
def interruptFrame (entry : U64) : List U64 :=
  [0#64, 0#64, 0#64, 0#64, 0#64, 0#64, 0#64, 0#64,
    0#64, 0#64, 0#64, 0#64, 0#64, 0#64, 0#64,
    0x20#64, entry, 0x08#64, 0x202#64]

/-- `initialize_interrupt_context` of the task at `task`. -/
def initializeInterruptContext (task entry : U64) (memory : Memory) : Checked Memory := do
  let stackTop ← kernelStackTop task
  if (Task.initialStackReserve + Task.interruptContextSize).toNat ≤ stackTop.toNat then
    let contextRsp := stackTop - Task.initialStackReserve - Task.interruptContextSize
    some ((memory.writeWords contextRsp (interruptFrame entry)).write64
      (task + interruptRspOffset) contextRsp)
  else none

/-- The context `prepare_preemptive_start` gives a task. -/
def preemptiveContext (startContext interruptRsp : U64) : TaskContext :=
  ⟨interruptRsp, 0#64, 0#64, 0#64, 0#64, 0#64, 0#64, startContext⟩

/-- `prepare_preemptive_start` of the task at `task`; `startContext` is the
address of `unbound_start_interrupt_context`. -/
def preparePreemptiveStart (startContext task : U64) (memory : Memory) : Checked Memory :=
  let interruptRsp := memory.read64 (task + interruptRspOffset)
  if interruptRsp = 0#64 then none
  else some (memory.storeAll (task + contextOffset)
    (contextFields (preemptiveContext startContext interruptRsp)))

def kernelDataSelector : U16 := 0x10#16

/-- `IRETQ` to kernel code. Of the stack selectors it loads null and the kernel
data segment; any other one is a general protection fault. -/
def returnToKernel (self : Machine) : Option Machine :=
  if self.iretq.ss = 0#16 ∨ self.iretq.ss = kernelDataSelector then some self.iretq else none

/-- The stack pointer a task is meant to start with. -/
def startRsp (task : U64) : U64 :=
  task + kernelStackOffset + kernelStackSize - Task.initialStackReserve

/-- A task object in memory. -/
structure Placed (task : U64) : Prop where
  aligned : task.toNat % 16 = 0
  fits : task.toNat + taskSize < 2 ^ 64

/-- The task runs at its entry as the comments of the source say. -/
structure Started (task entry : U64) (machine : Machine) : Prop where
  rip : machine.rip = entry
  cs : machine.cs = 0x08#16
  interrupts : machine.rflags.getLsbD 9 = true
  registers : ∀ reg ≠ .rsp, machine.regs reg = 0#64
  rsp : machine.regs .rsp = startRsp task
  stack : machine.regs .rsp ∈ span (task + kernelStackOffset) kernelStackSize.toNat

/-- The two words above the frame are what `IRETQ` should find there: the stack
pointer to start with and a stack selector. -/
structure ContinuesFrame (memory : Memory) (task : U64) : Prop where
  rsp : memory.read64 (startRsp task) = startRsp task
  ss : (memory.read64 (startRsp task + 8#64)).setWidth 16 = 0#16 ∨
    (memory.read64 (startRsp task + 8#64)).setWidth 16 = kernelDataSelector

section Layout

variable {task : U64}

theorem startRsp_eq (task : U64) : startRsp task = task + BitVec.ofNat 64 14448 := by
  have hsum : kernelStackOffset + kernelStackSize =
      BitVec.ofNat 64 14448 + Task.initialStackReserve := by
    decide
  rw [startRsp, BitVec.add_assoc, hsum, ← BitVec.add_assoc, BitVec.add_sub_cancel]

/-- The address of the frame. -/
theorem contextRsp_eq (task : U64) :
    startRsp task - Task.interruptContextSize = task + BitVec.ofNat 64 14296 := by
  have hsum : BitVec.ofNat 64 14448 = BitVec.ofNat 64 14296 + Task.interruptContextSize := by decide
  rw [startRsp_eq, hsum, ← BitVec.add_assoc, BitVec.add_sub_cancel]

theorem startRsp_mem_stack (task : U64) :
    startRsp task ∈ span (task + kernelStackOffset) kernelStackSize.toNat := by
  have hsum : startRsp task = task + kernelStackOffset + BitVec.ofNat 64 14336 := by
    rw [startRsp_eq, BitVec.add_assoc]
    rfl
  rw [hsum]
  exact offset_mem_span (by decide)

/-- For a task in memory neither function panics. -/
theorem Placed.kernelStackTop (hplaced : Placed task) :
    kernelStackTop task = some (task + kernelStackOffset + kernelStackSize) ∧
      (task + kernelStackOffset + kernelStackSize).toNat = task.toNat + taskSize := by
  have hfits := hplaced.fits
  have hoffset : kernelStackOffset.toNat = 112 := rfl
  have hsize : kernelStackSize.toNat = 16384 := rfl
  rw [taskSize] at hfits ⊢
  have hstack : (task + kernelStackOffset).toNat = task.toNat + 112 := by
    rw [BitVec.toNat_add, hoffset]
    omega
  have hsum : (task + kernelStackOffset).toNat + kernelStackSize.toNat < 2 ^ 64 := by omega
  refine ⟨checkedAdd_eq_some hsum, ?_⟩
  rw [checkedAdd_toNat (checkedAdd_eq_some hsum)]
  omega

theorem Placed.contextRsp_ne_zero (hplaced : Placed task) :
    task + BitVec.ofNat 64 14296 ≠ 0#64 := by
  have hfits := hplaced.fits
  rw [taskSize] at hfits
  bv_omega

end Layout

/-- What both functions together leave in memory: the frame continued by the
words that were above it, its address, and the context. -/
structure Prepared (startContext task entry : U64) (before after : Memory) : Prop where
  frame : after.Holds (task + BitVec.ofNat 64 14296)
    (interruptFrame entry ++
      [before.read64 (startRsp task), before.read64 (startRsp task + 8#64)])
  interruptRsp : after.read64 (task + interruptRspOffset) = task + BitVec.ofNat 64 14296
  context : readContext after (task + contextOffset) =
    preemptiveContext startContext (task + BitVec.ofNat 64 14296)

/-- The frame in memory, with the words above it. -/
theorem frame_written (memory : Memory) (task entry : U64) :
    (memory.writeWords (task + BitVec.ofNat 64 14296) (interruptFrame entry)).Holds
      (task + BitVec.ofNat 64 14296)
      (interruptFrame entry ++
        [memory.read64 (startRsp task), memory.read64 (startRsp task + 8#64)]) := by
  have hlength : 8 * (interruptFrame entry).length = 152 := rfl
  apply Holds.append
  · exact writeWords_holds _ _ (by omega)
  have hnext : task + BitVec.ofNat 64 14296 + BitVec.ofNat 64 152 = startRsp task := by
    rw [startRsp_eq, BitVec.add_assoc, ← BitVec.ofNat_add]
  rw [hlength, hnext]
  have habove : memory.Holds (startRsp task)
      [memory.read64 (startRsp task), memory.read64 (startRsp task + 8#64)] := ⟨rfl, rfl, trivial⟩
  apply habove.outside (writeWords_sameOutside memory _ _)
  rw [hlength, startRsp_eq]
  exact (span_disjoint task 14296 14448 (by omega) (by simp)).symm

/-- The two functions return and leave a prepared task. -/
theorem prepare_spec (startContext : U64) {task : U64} (hplaced : Placed task) (entry : U64)
    (memory : Memory) :
    ∃ written after, initializeInterruptContext task entry memory = some written ∧
      preparePreemptiveStart startContext task written = some after ∧
      Prepared startContext task entry memory after := by
  obtain ⟨htop, hnat⟩ := hplaced.kernelStackTop
  have hroom : (Task.initialStackReserve + Task.interruptContextSize).toNat ≤
      (task + kernelStackOffset + kernelStackSize).toNat := by
    rw [hnat, taskSize, show (Task.initialStackReserve + Task.interruptContextSize).toNat = 2200
      from rfl]
    omega
  have hframe := frame_written memory task entry
  have hwritten : initializeInterruptContext task entry memory =
      some ((memory.writeWords (task + BitVec.ofNat 64 14296) (interruptFrame entry)).write64
        (task + interruptRspOffset) (task + BitVec.ofNat 64 14296)) := by
    rw [initializeInterruptContext, htop, Option.bind_eq_bind, Option.bind_some, if_pos hroom,
      ← contextRsp_eq]
    rfl
  generalize memory.writeWords (task + BitVec.ofNat 64 14296) (interruptFrame entry) = framed at *
  have hpointer : (framed.write64 (task + interruptRspOffset) (task + BitVec.ofNat 64 14296)).read64
      (task + interruptRspOffset) = task + BitVec.ofNat 64 14296 := read64_write64 _ _ _
  have hheld := hframe.outside
    (write64_sameOutside framed (task + interruptRspOffset) (task + BitVec.ofNat 64 14296))
    (span_disjoint task 96 14296 (by omega) (by simp [interruptFrame])).symm
  generalize framed.write64 (task + interruptRspOffset) (task + BitVec.ofNat 64 14296) = written
    at *
  have hstored : SameOutside (span (task + contextOffset) contextSize) written
      (written.storeAll (task + contextOffset)
        (contextFields (preemptiveContext startContext (task + BitVec.ofNat 64 14296)))) :=
    storeAll_sameOutside _ (by simp [contextFields, contextSize])
  refine ⟨written, written.storeAll (task + contextOffset)
    (contextFields (preemptiveContext startContext (task + BitVec.ofNat 64 14296))), hwritten, ?_,
    ?_, ?_, ?_⟩
  · rw [preparePreemptiveStart, hpointer, if_neg hplaced.contextRsp_ne_zero]
  · exact hheld.outside hstored
      (span_disjoint task 32 14296 (by decide) (by simp [interruptFrame])).symm
  · apply Eq.trans _ hpointer
    apply read64_congr
    intro offset hoffset
    apply hstored
    have hdisjoint : Disjoint (span (task + contextOffset) contextSize)
        (span (task + interruptRspOffset) 8) := span_disjoint task 32 96 (by decide) (by decide)
    exact Set.disjoint_right.mp hdisjoint (offset_mem_span hoffset)
  · exact readContext_storeAll _ _ (contextFields_apart _) (List.Subset.refl _)

section Resume

variable {startContext task entry : U64} {before after : Memory}

/-- The frame passes the scheduler's check for every entry in the kernel
image. -/
theorem Prepared.valid (hprepared : Prepared startContext task entry before after)
    (hplaced : Placed task) (hlow : 0x100000#64 ≤ entry) (hhigh : entry < 0x200000#64) :
    validateInterruptFrame after (after.read64 (task + interruptRspOffset)) = true := by
  have hword (index : Nat) (word : U64)
      (hindex : (interruptFrame entry ++ [before.read64 (startRsp task),
        before.read64 (startRsp task + 8#64)])[index]? = some word) :
      after.read64 (task + BitVec.ofNat 64 14296 + BitVec.ofNat 64 (8 * index)) = word :=
    hprepared.frame.getElem hindex
  have hvector : readInterruptFrameWord after (task + BitVec.ofNat 64 14296) (15#64 * 8#64) =
      0x20#64 := hword 15 _ rfl
  have hrip : readInterruptFrameWord after (task + BitVec.ofNat 64 14296) (16#64 * 8#64) =
      entry := hword 16 _ rfl
  have hcs : readInterruptFrameWord after (task + BitVec.ofNat 64 14296) (17#64 * 8#64) =
      0x08#64 := hword 17 _ rfl
  have hrflags : readInterruptFrameWord after (task + BitVec.ofNat 64 14296) (18#64 * 8#64) =
      0x202#64 := hword 18 _ rfl
  have hcanonical : isCanonicalAddress entry = true := by
    have hupper : entry >>> 48 = 0#64 := by
      rw [← BitVec.toNat_inj, BitVec.toNat_ushiftRight, Nat.shiftRight_eq_div_pow]
      have hnat : entry.toNat < 0x200000 := hhigh
      rw [BitVec.toNat_ofNat]
      omega
    rw [isCanonicalAddress, hupper]
    rfl
  rw [hprepared.interruptRsp, validateInterruptFrame, if_neg hplaced.contextRsp_ne_zero]
  simp only [hvector, hrip, hcs, hrflags, hcanonical]
  simp [BitVec.not_lt.mpr hlow, hhigh]

/-- Restoring the prepared frame: all is as intended but RSP and SS, which are
the words above the frame. -/
theorem restored_prepared (callee : Machine → Machine) {returned : Machine}
    (hstack : returned.Stack (interruptFrame entry ++
      [before.read64 (startRsp task), before.read64 (startRsp task + 8#64)])) :
    (∃ resumed, returnToKernel ((returned.run callee (savedRegs.reverse.map .pop)).dropWord) =
        some resumed ∧ Started task entry resumed) ↔ ContinuesFrame before task := by
  have hwords : returned.Stack (savedRegs.reverse.map (fun _ => 0#64) ++ 0x20#64 ::
      [entry, 0x08#64, 0x202#64, before.read64 (startRsp task),
        before.read64 (startRsp task + 8#64)]) := hstack
  obtain ⟨machine, hmachine, hrip, hcs, hrflags, hrsp, hss, hregs⟩ :=
    restoreFrame_spec callee hwords
  rw [returnToKernel, hmachine, hss]
  constructor
  · rintro ⟨resumed, hresumed, hstarted⟩
    split at hresumed
    next hselector =>
      cases hresumed
      exact ⟨hrsp.symm.trans hstarted.rsp, hselector⟩
    · cases hresumed
  · rintro ⟨hword, hselector⟩
    rw [hword] at hrsp
    refine ⟨machine, if_pos hselector, hrip, hcs, ?_, ?_, hrsp, ?_⟩
    · rw [hrflags]
      decide
    · intro reg hreg
      apply hregs
      cases reg <;> first | exact absurd rfl hreg | decide
    · rw [hrsp]
      exact startRsp_mem_stack task

end Resume

/-- A preemptive task prepared at any place and for any entry has a valid frame,
and either way of resuming it reaches the entry as intended exactly if the
task's stack held the rest of an `IRETQ` frame above it beforehand. -/
theorem prepared_task_starts_iff (startContext task entry : U64) (hplaced : Placed task)
    (hlow : 0x100000#64 ≤ entry) (hhigh : entry < 0x200000#64) (memory : Memory) :
    ∃ written prepared, initializeInterruptContext task entry memory = some written ∧
      preparePreemptiveStart startContext task written = some prepared ∧
      validateInterruptFrame prepared (prepared.read64 (task + interruptRspOffset)) = true ∧
      (∀ machine : Machine, machine.memory = prepared →
        liveContext machine = readContext prepared (task + contextOffset) →
        machine.rip = startContext ∧
        ((∃ resumed, returnToKernel (machine.run id unboundStartInterruptContext) = some resumed ∧
          Started task entry resumed) ↔ ContinuesFrame memory task)) ∧
      ∀ (debug : Machine → Machine) (returnAddress : U64) (selected : Machine),
        selected.memory = prepared →
        selected.regs .rsp = prepared.read64 (task + interruptRspOffset) →
        Behaves (span (selected.regs .rsp) Arch.frameSize) debug
          ((selected.exec debug (.mov .rdi .rsp)).pushWord returnAddress) →
        ((∃ resumed, returnToKernel (selected.run debug (debugSelected returnAddress)) =
          some resumed ∧ Started task entry resumed) ↔ ContinuesFrame memory task) := by
  obtain ⟨written, prepared, hwritten, hprepare, hprepared⟩ :=
    prepare_spec startContext hplaced entry memory
  refine ⟨written, prepared, hwritten, hprepare, hprepared.valid hplaced hlow hhigh, ?_, ?_⟩
  · rintro machine rfl hlive
    rw [hprepared.context] at hlive
    have hrsp : machine.regs .rsp = task + BitVec.ofNat 64 14296 := congrArg TaskContext.rsp hlive
    refine ⟨congrArg TaskContext.rip hlive, restored_prepared id ?_⟩
    rw [Machine.Stack, hrsp]
    exact hprepared.frame
  · rintro debug returnAddress selected rfl hrsp hdebug
    rw [hprepared.interruptRsp] at hrsp
    have hstack : selected.Stack (interruptFrame entry ++
        [memory.read64 (startRsp task), memory.read64 (startRsp task + 8#64)]) := by
      rw [Machine.Stack, hrsp]
      exact hprepared.frame
    exact restored_prepared debug
      (debugCall_stack returnAddress hstack rfl Set.Subset.rfl hdebug)

/-- The processor right after a switch to a context. -/
def switchedTo (context : TaskContext) (memory : Memory) : Machine where
  regs
    | .rsp => context.rsp
    | .rbp => context.rbp
    | .rbx => context.rbx
    | .r12 => context.r12
    | .r13 => context.r13
    | .r14 => context.r14
    | .r15 => context.r15
    | _ => 0#64
  memory := memory
  rip := context.rip
  rflags := 0x202#64
  cs := 0x08#16
  ss := 0x10#16
  calls := []

theorem zeroed_read64 (address : U64) : Memory.read64 (fun _ => 0#8) address = 0#64 := by
  rw [read64]
  decide

theorem placed_example : Placed 0x110000#64 := ⟨by decide, by decide⟩

/-- A stack that holds the missing stack pointer already. -/
theorem prepared_task_starts_on_continued_frame :
    ∃ written prepared,
      initializeInterruptContext 0x110000#64 0x101000#64
        (write64 (fun _ => 0#8) (startRsp 0x110000#64) (startRsp 0x110000#64)) = some written ∧
      preparePreemptiveStart 0x100000#64 0x110000#64 written = some prepared ∧
      ∃ resumed, returnToKernel ((switchedTo (readContext prepared (0x110000#64 + contextOffset))
        prepared).run id unboundStartInterruptContext) = some resumed ∧
        Started 0x110000#64 0x101000#64 resumed := by
  obtain ⟨written, prepared, hwritten, hprepare, _, hswitch, _⟩ :=
    prepared_task_starts_iff 0x100000#64 0x110000#64 0x101000#64 placed_example (by decide)
      (by decide) (write64 (fun _ => 0#8) (startRsp 0x110000#64) (startRsp 0x110000#64))
  refine ⟨written, prepared, hwritten, hprepare, (hswitch (switchedTo _ prepared) rfl rfl).2.mpr
    ⟨read64_write64 _ _ _, Or.inl ?_⟩⟩
  rw [read64_write64_apart _ (by decide), zeroed_read64]
  rfl

/-- A new task, whose stack is zero: it reaches its entry with RSP zero. -/
theorem new_task_starts_without_stack :
    ∃ written prepared resumed,
      initializeInterruptContext 0x110000#64 0x101000#64 (fun _ => 0#8) = some written ∧
      preparePreemptiveStart 0x100000#64 0x110000#64 written = some prepared ∧
      returnToKernel ((switchedTo (readContext prepared (0x110000#64 + contextOffset))
        prepared).run id unboundStartInterruptContext) = some resumed ∧
      resumed.rip = 0x101000#64 ∧ resumed.regs .rsp = 0#64 ∧
      resumed.regs .rsp ≠ startRsp 0x110000#64 := by
  obtain ⟨written, prepared, hwritten, hprepare, hprepared⟩ :=
    prepare_spec 0x100000#64 placed_example 0x101000#64 (fun _ => 0#8)
  have hstack : (switchedTo (readContext prepared (0x110000#64 + contextOffset)) prepared).Stack
      (savedRegs.reverse.map (fun _ => 0#64) ++ 0x20#64 ::
        [0x101000#64, 0x08#64, 0x202#64, 0#64, 0#64]) := by
    have hframe := hprepared.frame
    rw [zeroed_read64, zeroed_read64] at hframe
    rw [hprepared.context]
    exact hframe
  obtain ⟨resumed, hresumed, hrip, _, _, hrsp, hss, _⟩ := restoreFrame_spec id hstack
  refine ⟨written, prepared, resumed, hwritten, hprepare, ?_, hrip, hrsp, ?_⟩
  · rw [← hresumed] at hss ⊢
    exact if_pos (Or.inl hss)
  · rw [hrsp]
    decide

end UnboundOS.Sched
