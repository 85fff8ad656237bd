import Mathlib.Logic.Relation
import UnboundOS.Arch.Idt
import UnboundOS.Arch.UserState

/-!
The timer interrupt of `arch/x86_64/idt.rs`, as a way to switch between tasks:
the stub saves the interrupted task in a frame on its stack, the timer handler
chooses a frame, and the tail restores the task of that frame. The system
around it is any number of tasks on disjoint stacks, interrupted in any order
and in any state; what it keeps true is that the frame of every interrupted
task holds the state the task was interrupted in.
-/

namespace UnboundOS.Arch

open X86 X86.Machine X86.Memory

def unboundIrq0 : List Instr := [.pushImm 32#64]

/-- `unbound_irq_common` up to the call of the timer handler. -/
def saveContext : List Instr :=
  [.push .rax, .push .rcx, .push .rdx, .push .rbx, .push .rbp, .push .rsi, .push .rdi,
    .push .r8, .push .r9, .push .r10, .push .r11, .push .r12, .push .r13, .push .r14, .push .r15,
    .mov .rdi .rsp,
    .mov .r12 .rsp,
    .and .rsp (-16#64)]

theorem saveContext_eq : saveContext =
    savedRegs.map .push ++ [.mov .rdi .rsp, .mov .r12 .rsp, .and .rsp (-16#64)] := rfl

/-- `unbound_irq_common` up to the selection of a frame. -/
def unboundIrqCommon (returnAddress : U64) : List Instr :=
  saveContext ++ [.call returnAddress, .mov .rsp .r12]

/-- `test rax, rax; jz .debug_selected; mov rsp, rax`. -/
def selectContext (self : Machine) : Machine :=
  if self.regs .rax = 0#64 then self else self.setReg .rsp (self.regs .rax)

/-- From `.debug_selected` up to the `iretq`. -/
def debugSelected (returnAddress : U64) : List Instr :=
  [.mov .rdi .rsp,
    .call returnAddress,
    .pop .r15, .pop .r14, .pop .r13, .pop .r12, .pop .r11, .pop .r10, .pop .r9, .pop .r8,
    .pop .rdi, .pop .rsi, .pop .rbp, .pop .rbx, .pop .rdx, .pop .rcx, .pop .rax,
    .add .rsp 8#64]

/-- IRQ0 from its delivery to the call of the timer handler. -/
def irq0Saved (timer : Machine → Machine) (stack handler : U64) (self : Machine) : Machine :=
  ((self.deliver stack handler kernelCodeSelector none).run timer unboundIrq0).run timer saveContext

/-- IRQ0 from its delivery to the return of the timer handler, with RSP back at
the saved frame. -/
def irq0Handled (timer : Machine → Machine) (stack handler returnAddress : U64)
    (self : Machine) : Machine :=
  ((self.deliver stack handler kernelCodeSelector none).run timer unboundIrq0).run timer
    (unboundIrqCommon returnAddress)

/-- From the selected frame to the resumed task. -/
def irq0Return (debug : Machine → Machine) (returnAddress : U64) (self : Machine) : Machine :=
  (self.run debug (debugSelected returnAddress)).iretq

/-- The saved frame of a task: fifteen registers, the vector, and what the
processor pushed. -/
def frameWords (self : Machine) : List U64 :=
  savedRegs.reverse.map self.regs ++ 32#64 :: self.returnWords

def frameSize : Nat := 168

theorem frameWords_bytes (self : Machine) : 8 * (frameWords self).length = frameSize := rfl

/-- What is assumed of a call into Rust: it returns as the System V ABI asks
and does not write into saved frames. -/
structure Behaves (frames : Set U64) (callee : Machine → Machine) (entry : Machine) : Prop where
  returned : Returned 0 entry (callee entry)
  spares : SameOutside framesᶜ entry.memory (callee entry).memory

variable {timer debug : Machine → Machine} {frames : Set U64}

/-- The registers and what the processor pushed, before RSP is aligned. -/
theorem saved_frame (timer : Machine → Machine) (stack handler : U64) (self : Machine) :
    ∃ saved : Machine,
      ((self.deliver stack handler kernelCodeSelector none).run timer unboundIrq0).run timer
        (savedRegs.map .push) = saved ∧
      saved.Stack (frameWords self) ∧
      PushedTo self.memory (stack &&& ~~~15#64) frameSize saved := by
  obtain ⟨hdelivered, hregs⟩ := deliver_spec stack handler kernelCodeSelector none self
  have hpushed := deliver_pushedTo stack handler kernelCodeSelector none self
  generalize self.deliver stack handler kernelCodeSelector none = delivered at *
  have hvector : (delivered.run timer unboundIrq0).Stack (32#64 :: self.returnWords) :=
    hdelivered.pushWord (by simp [returnWords]) 32#64
  have hvectorRegs (reg : Reg) (hreg : reg ≠ .rsp) :
      (delivered.run timer unboundIrq0).regs reg = self.regs reg :=
    (pushWord_other hreg _).trans (hregs reg hreg)
  have hvectorPushed : PushedTo self.memory (stack &&& ~~~15#64) 48
      (delivered.run timer unboundIrq0) := hpushed.pushWord 32#64
  generalize delivered.run timer unboundIrq0 = entered at *
  obtain ⟨hstack, _⟩ := run_pushes timer savedRegs (by decide) hvector
    (by simp [savedRegs, returnWords])
  have hvalues : savedRegs.map entered.regs = savedRegs.map self.regs :=
    List.map_congr_left fun reg hmem => hvectorRegs reg (by rintro rfl; revert hmem; decide)
  rw [hvalues, ← List.map_reverse] at hstack
  exact ⟨_, rfl, hstack, hvectorPushed.run_pushes timer savedRegs⟩

/-- At the call of the timer handler the task is in its frame, R12 points to
the frame, and RSP is at most fifteen bytes below it. -/
theorem irq0Saved_spec (timer : Machine → Machine) (stack handler : U64) (self : Machine) :
    ∃ ready : Machine, irq0Saved timer stack handler self = ready ∧
      ready.regs .r12 = (stack &&& ~~~15#64) - BitVec.ofNat 64 frameSize ∧
      (∃ offset < 16, ready.regs .rsp =
        (stack &&& ~~~15#64) - BitVec.ofNat 64 (frameSize + offset)) ∧
      ready.memory.Holds ((stack &&& ~~~15#64) - BitVec.ofNat 64 frameSize) (frameWords self) ∧
      SameOutside (span ((stack &&& ~~~15#64) - BitVec.ofNat 64 frameSize) frameSize) self.memory
        ready.memory := by
  obtain ⟨saved, hsaved, hstack, hpushed⟩ := saved_frame timer stack handler self
  have hready : irq0Saved timer stack handler self =
      saved.run timer [.mov .rdi .rsp, .mov .r12 .rsp, .and .rsp (-16#64)] := by
    rw [irq0Saved, saveContext_eq, run_append, hsaved]
  have hrsp := hpushed.rsp
  rw [Machine.Stack, hrsp] at hstack
  obtain ⟨offset, hoffset, halign⟩ := align_down (saved.regs .rsp)
  refine ⟨_, hready, hrsp, ⟨offset, hoffset, ?_⟩, hstack, hpushed.memory⟩
  change saved.regs .rsp &&& (-16#64) = _
  rw [halign, hrsp, BitVec.ofNat_add]
  bv_omega

/-- The first half: RSP is back at the frame, and of the bytes the handler
spares only those right below the frame can have changed since the call. -/
theorem irq0Handled_spec (stack handler returnAddress : U64) (self : Machine)
    (htimer : Behaves frames timer
      ((irq0Saved timer stack handler self).pushWord returnAddress)) :
    (irq0Handled timer stack handler returnAddress self).regs .rsp =
        (stack &&& ~~~15#64) - BitVec.ofNat 64 frameSize ∧
      ∀ address ∈ frames, address ∉ span ((stack &&& ~~~15#64) - 192#64) 24 →
        (irq0Handled timer stack handler returnAddress self).memory address =
          (irq0Saved timer stack handler self).memory address := by
  obtain ⟨ready, hready, hr12, ⟨offset, hoffset, hrsp⟩, _⟩ :=
    irq0Saved_spec timer stack handler self
  have hhandled : irq0Handled timer stack handler returnAddress self =
      ((irq0Saved timer stack handler self).exec timer (.call returnAddress)).exec timer
        (.mov .rsp .r12) := by
    rw [irq0Handled, unboundIrqCommon, run_append]
    rfl
  rw [hhandled]
  rw [hready] at htimer ⊢
  constructor
  · have hkept := htimer.returned.saved .r12 (by decide)
    have hr12Kept : (ready.exec timer (.call returnAddress)).regs .r12 = ready.regs .r12 :=
      hkept.trans (pushWord_other (by decide) _)
    exact (setReg_same _ _ _).trans (hr12Kept.trans hr12)
  · intro address haddress houtside
    have hspared := htimer.spares address (fun hmem => hmem haddress)
    have hpushed := pushWord_memory ready returnAddress
    apply hspared.trans
    apply hpushed
    intro hmem
    apply houtside
    have hdepth : ready.regs .rsp - 8#64 =
        (stack &&& ~~~15#64) - BitVec.ofNat 64 (frameSize + offset + 8) := by
      rw [hrsp, BitVec.ofNat_add (frameSize + offset)]
      bv_omega
    rw [hdepth] at hmem
    exact below_subset (by rw [frameSize]; omega) (by rw [frameSize]; omega) hmem

/-- The tail in its phases. -/
theorem irq0Return_eq (debug : Machine → Machine) (returnAddress : U64) (self : Machine) :
    irq0Return debug returnAddress self =
      ((((self.exec debug (.mov .rdi .rsp)).exec debug (.call returnAddress)).run debug
        (savedRegs.reverse.map .pop)).dropWord).iretq := rfl

section Return

variable (returnAddress : U64) {selected snapshot : Machine}

/-- Of the bytes the handler spares, the second half changes only those right
below the selected frame. -/
theorem irq0Return_memory
    (hdebug : Behaves frames debug
      ((selected.exec debug (.mov .rdi .rsp)).pushWord returnAddress)) :
    ∀ address ∈ frames, address ∉ span (selected.regs .rsp - 8#64) 8 →
      (irq0Return debug returnAddress selected).memory address = selected.memory address := by
  intro address haddress houtside
  have hspared := hdebug.spares address (fun hmem => hmem haddress)
  have hpushed := pushWord_memory (selected.exec debug (.mov .rdi .rsp)) returnAddress address
    houtside
  have hpops := run_pops_memory debug savedRegs.reverse
    ((selected.exec debug (.mov .rdi .rsp)).exec debug (.call returnAddress))
  rw [irq0Return_eq]
  exact (congrFun hpops address).trans (hspared.trans hpushed)

/-- A frame that is spared still lies on the stack after the call. -/
theorem debugCall_stack {words : List U64} (hstack : selected.Stack words)
    (hwords : 8 * words.length = frameSize)
    (hframe : span (selected.regs .rsp) frameSize ⊆ frames)
    (hdebug : Behaves frames debug
      ((selected.exec debug (.mov .rdi .rsp)).pushWord returnAddress)) :
    ((selected.exec debug (.mov .rdi .rsp)).exec debug (.call returnAddress)).Stack words := by
  obtain ⟨hrsp, _⟩ := call_spec (by omega) hdebug.returned
  rw [Machine.Stack, hrsp]
  apply Holds.congr hstack
  intro offset hoffset
  rw [hwords] at hoffset
  have hspared := hdebug.spares _ (fun hmem => hmem (hframe (offset_mem_span hoffset)))
  apply hspared.trans
  rw [frameSize] at hoffset
  exact write64_below selected.memory (selected.regs .rsp) returnAddress (by omega)

/-- The fifteen pops, the dropped vector and the `IRETQ`. -/
theorem restoreFrame_spec (callee : Machine → Machine) {returned : Machine} {values : Reg → U64}
    {vector rip cs rflags rsp ss : U64}
    (hstack : returned.Stack
      (savedRegs.reverse.map values ++ vector :: [rip, cs, rflags, rsp, ss])) :
    ∃ resumed : Machine,
      ((returned.run callee (savedRegs.reverse.map .pop)).dropWord).iretq = resumed ∧
      resumed.rip = rip ∧ resumed.cs = cs.setWidth 16 ∧ resumed.rflags = rflags ∧
      resumed.regs .rsp = rsp ∧ resumed.ss = ss.setWidth 16 ∧
      ∀ reg ∈ savedRegs, resumed.regs reg = values reg := by
  obtain ⟨hrest, hvalues, _⟩ :=
    run_pops callee savedRegs.reverse values (by decide) (by decide) hstack
  generalize returned.run callee (savedRegs.reverse.map .pop) = restored at *
  obtain ⟨hrip, hcs, hrflags, hrsp, hss, hregs⟩ := iretq_spec hrest.dropWord
  refine ⟨_, rfl, hrip, hcs, hrflags, hrsp, hss, ?_⟩
  intro reg hreg
  have hne : reg ≠ .rsp := by rintro rfl; revert hreg; decide
  rw [hregs reg hne, dropWord, setReg_other hne]
  exact hvalues reg (List.mem_reverse.mpr hreg)

/-- The second half resumes the task that the selected frame holds. -/
theorem irq0Return_spec (hstack : selected.Stack (frameWords snapshot))
    (hframe : span (selected.regs .rsp) frameSize ⊆ frames)
    (hdebug : Behaves frames debug
      ((selected.exec debug (.mov .rdi .rsp)).pushWord returnAddress)) :
    Resumes snapshot (irq0Return debug returnAddress selected) := by
  have hreturned := debugCall_stack returnAddress hstack (frameWords_bytes snapshot) hframe hdebug
  obtain ⟨resumed, hresumed, hrip, hcs, hrflags, hrsp, hss, hregs⟩ :=
    restoreFrame_spec debug hreturned
  have hwiden (selector : U16) : (selector.setWidth 64).setWidth 16 = selector := by
    rw [BitVec.setWidth_setWidth_of_le _ (by decide), BitVec.setWidth_eq]
  rw [irq0Return_eq, hresumed]
  exact ⟨hrip, hcs.trans (hwiden _), hrflags, hrsp, hss.trans (hwiden _), hregs⟩

end Return

/-- Tasks under IRQ0. `saved` is bookkeeping beside the machine: the frame of
every interrupted task and the state it was interrupted in. -/
structure System (Task : Type) where
  machine : Machine
  current : Task
  saved : Task → Option (U64 × Machine)

variable {Task : Type}

def savedBytes (saved : Task → Option (U64 × Machine)) : Set U64 :=
  {address | ∃ task frame snapshot, saved task = some (frame, snapshot) ∧
    address ∈ span frame frameSize}

/-- One IRQ0: the two Rust functions it calls, the stack the processor pushes
on, and the task whose frame is chosen. -/
structure Delivery (Task : Type) where
  timer : Machine → Machine
  debug : Machine → Machine
  stack : U64
  handler : U64
  timerReturn : U64
  debugReturn : U64
  next : Task

namespace Delivery

variable [DecidableEq Task] (delivery : Delivery Task) (system : System Task)

def frame : U64 :=
  (delivery.stack &&& ~~~15#64) - BitVec.ofNat 64 frameSize

/-- The interrupted tasks while the handlers run. -/
def interrupted : Task → Option (U64 × Machine) :=
  Function.update system.saved system.current (some (delivery.frame, system.machine))

def ready : Machine :=
  irq0Saved delivery.timer delivery.stack delivery.handler system.machine

def handled : Machine :=
  irq0Handled delivery.timer delivery.stack delivery.handler delivery.timerReturn system.machine

def selected : Machine :=
  selectContext (delivery.handled system)

def resumed : System Task where
  machine := irq0Return delivery.debug delivery.debugReturn (delivery.selected system)
  current := delivery.next
  saved := Function.update (delivery.interrupted system) delivery.next none

/-- What the timer handler may return: zero or the frame it was called with,
the frame of another interrupted task, or a frame no interruption made (the
initial one of a new task), on the stack of its task. -/
inductive Choice (stackOf : Task → Set U64) (rax : U64) : Prop where
  | same (hrax : rax = 0#64 ∨ rax = delivery.frame) (hnext : delivery.next = system.current)
  | other (hrax : rax ≠ 0#64) (hnext : delivery.next ≠ system.current) {snapshot : Machine}
      (hsaved : system.saved delivery.next = some (rax, snapshot))
  | new (hrax : rax ≠ 0#64) (hnext : delivery.next ≠ system.current)
      (hsaved : system.saved delivery.next = none)
      (hstack : span (rax - 8#64) 8 ⊆ stackOf delivery.next)

/-- The assumptions on one IRQ0: the interrupted task has room for the frame
and the call on its own stack, both handlers behave, and the timer handler
makes one of its choices. -/
structure Allowed (stackOf : Task → Set U64) : Prop where
  room : span ((delivery.stack &&& ~~~15#64) - 192#64) 192 ⊆ stackOf system.current
  timer : Behaves (savedBytes (delivery.interrupted system)) delivery.timer
    ((delivery.ready system).pushWord delivery.timerReturn)
  debug : Behaves (savedBytes (delivery.interrupted system)) delivery.debug
    (((delivery.selected system).exec delivery.debug (.mov .rdi .rsp)).pushWord
      delivery.debugReturn)
  choice : Choice delivery system stackOf ((delivery.handled system).regs .rax)

end Delivery

/-- Between two interrupts the running code does anything but write into saved
frames; it may also hand over to another task that is not interrupted. -/
inductive System.Step [DecidableEq Task] (stackOf : Task → Set U64) :
    System Task → System Task → Prop where
  | execute {system : System Task} (machine : Machine) (current : Task)
      (hcurrent : system.saved current = none)
      (hspares : SameOutside (savedBytes system.saved)ᶜ system.machine.memory machine.memory) :
      Step stackOf system ⟨machine, current, system.saved⟩
  | irq0 {system : System Task} (delivery : Delivery Task)
      (hallowed : delivery.Allowed system stackOf) :
      Step stackOf system (delivery.resumed system)

/-- The frame of every interrupted task is on its stack, with a word to spare
below it, and holds the state the task was interrupted in. -/
structure Kept (stackOf : Task → Set U64) (memory : Memory)
    (saved : Task → Option (U64 × Machine)) : Prop where
  holds : ∀ {task frame snapshot}, saved task = some (frame, snapshot) →
    memory.Holds frame (frameWords snapshot)
  onStack : ∀ {task frame snapshot}, saved task = some (frame, snapshot) →
    span (frame - 8#64) (frameSize + 8) ⊆ stackOf task

section Kept

variable {stackOf : Task → Set U64} {before after : Memory}
  {saved : Task → Option (U64 × Machine)}

theorem span_frame_subset (frame : U64) :
    span frame frameSize ⊆ span (frame - 8#64) (frameSize + 8) :=
  span_subset (by bv_omega) (Nat.le_of_eq (Nat.add_comm 8 frameSize))

theorem mem_savedBytes {task : Task} {frame address : U64} {snapshot : Machine}
    (hsaved : saved task = some (frame, snapshot)) (haddress : address ∈ span frame frameSize) :
    address ∈ savedBytes saved :=
  ⟨task, frame, snapshot, hsaved, haddress⟩

/-- Changes that miss every saved frame keep the frames. -/
theorem Kept.change (region : Set U64) (hkept : Kept stackOf before saved)
    (hsame : ∀ address ∈ savedBytes saved, address ∉ region → after address = before address)
    (hmiss : ∀ {task frame snapshot}, saved task = some (frame, snapshot) →
      Disjoint (span frame frameSize) region) : Kept stackOf after saved := by
  refine ⟨?_, hkept.onStack⟩
  intro task frame snapshot hsaved
  apply (hkept.holds hsaved).congr
  intro offset hoffset
  rw [frameWords_bytes] at hoffset
  have hmem : frame + BitVec.ofNat 64 offset ∈ span frame frameSize := offset_mem_span hoffset
  exact hsame _ (mem_savedBytes hsaved hmem) (Set.disjoint_left.mp (hmiss hsaved) hmem)

theorem savedBytes_forget [DecidableEq Task] (saved : Task → Option (U64 × Machine)) (task : Task) :
    savedBytes (Function.update saved task none) ⊆ savedBytes saved := by
  rintro address ⟨other, frame, snapshot, hsaved, haddress⟩
  exact mem_savedBytes (of_update_none hsaved).2 haddress

theorem Kept.forget [DecidableEq Task] (hkept : Kept stackOf before saved) (task : Task) :
    Kept stackOf before (Function.update saved task none) :=
  ⟨fun hsaved => hkept.holds (of_update_none hsaved).2,
    fun hsaved => hkept.onStack (of_update_none hsaved).2⟩

/-- What happens on the stack of one task misses the frames of the others. -/
theorem Kept.misses (hkept : Kept stackOf before saved)
    (hstacks : Pairwise fun task other => Disjoint (stackOf task) (stackOf other))
    {task other : Task} (hne : task ≠ other) {frame : U64} {snapshot : Machine}
    (hsaved : saved task = some (frame, snapshot)) {region : Set U64}
    (hregion : region ⊆ stackOf other) : Disjoint (span frame frameSize) region :=
  (hstacks hne).mono ((span_frame_subset frame).trans (hkept.onStack hsaved)) hregion

end Kept

namespace Delivery

variable [DecidableEq Task] {delivery : Delivery Task} {system : System Task}
  {stackOf : Task → Set U64}

theorem interrupted_cases {task : Task} {frame : U64} {snapshot : Machine}
    (hsaved : delivery.interrupted system task = some (frame, snapshot)) :
    task = system.current ∧ frame = delivery.frame ∧ snapshot = system.machine ∨
      task ≠ system.current ∧ system.saved task = some (frame, snapshot) := by
  rcases of_update_some hsaved with ⟨hcurrent, hsame⟩ | hother
  · cases hsame
    exact .inl ⟨hcurrent, rfl, rfl⟩
  · exact .inr hother

/-- The stub adds the frame of the interrupted task to the saved ones. -/
theorem Allowed.ready_kept (hallowed : delivery.Allowed system stackOf)
    (hstacks : Pairwise fun task other => Disjoint (stackOf task) (stackOf other))
    (hkept : Kept stackOf system.machine.memory system.saved) :
    Kept stackOf (delivery.ready system).memory (delivery.interrupted system) := by
  obtain ⟨ready, hready, _, _, hholds, hsame⟩ :=
    irq0Saved_spec delivery.timer delivery.stack delivery.handler system.machine
  rw [Delivery.ready, hready]
  refine ⟨?_, ?_⟩
  · intro task frame snapshot hsaved
    rcases interrupted_cases hsaved with ⟨_, rfl, rfl⟩ | ⟨hne, hother⟩
    · exact hholds
    · apply (hkept.holds hother).outside hsame
      apply hkept.misses hstacks hne hother
      exact (below_subset (by decide) (by decide)).trans hallowed.room
  · intro task frame snapshot hsaved
    rcases interrupted_cases hsaved with ⟨rfl, rfl, _⟩ | ⟨_, hother⟩
    · have hbelow : delivery.frame - 8#64 =
          (delivery.stack &&& ~~~15#64) - BitVec.ofNat 64 (frameSize + 8) := by
        rw [frame, BitVec.ofNat_add]
        bv_omega
      rw [hbelow]
      exact (below_subset (by decide) (by decide)).trans hallowed.room
    · exact hkept.onStack hother

/-- The call of the timer handler pushes below the new frame. -/
theorem Allowed.handled_kept (hallowed : delivery.Allowed system stackOf)
    (hstacks : Pairwise fun task other => Disjoint (stackOf task) (stackOf other))
    (hkept : Kept stackOf system.machine.memory system.saved) :
    Kept stackOf (delivery.handled system).memory (delivery.interrupted system) := by
  have hready := hallowed.ready_kept hstacks hkept
  obtain ⟨_, hsame⟩ := irq0Handled_spec delivery.stack delivery.handler delivery.timerReturn
    system.machine hallowed.timer
  apply hready.change _ hsame
  intro task frame snapshot hsaved
  rcases interrupted_cases hsaved with ⟨_, rfl, _⟩ | ⟨hne, _⟩
  · rw [Set.disjoint_left]
    intro address hframe hbelow
    rw [Delivery.frame, frameSize, mem_span] at hframe
    rw [mem_span] at hbelow
    generalize delivery.stack &&& ~~~15#64 = top at *
    bv_omega
  · apply hready.misses hstacks hne hsaved
    exact (below_subset (by decide) (by decide)).trans hallowed.room

/-- The selected frame is that of the next task if the next task was
interrupted, and on its stack in any case. -/
theorem Allowed.selected_rsp (hallowed : delivery.Allowed system stackOf)
    (hkept : Kept stackOf (delivery.handled system).memory (delivery.interrupted system)) :
    span ((delivery.selected system).regs .rsp - 8#64) 8 ⊆ stackOf delivery.next ∧
      ∀ {frame snapshot}, delivery.interrupted system delivery.next = some (frame, snapshot) →
        (delivery.selected system).regs .rsp = frame := by
  have hinterrupted {frame : U64} {snapshot : Machine}
      (hsaved : delivery.interrupted system delivery.next = some (frame, snapshot))
      (hrsp : (delivery.selected system).regs .rsp = frame) :
      span ((delivery.selected system).regs .rsp - 8#64) 8 ⊆ stackOf delivery.next ∧
        ∀ {frame snapshot}, delivery.interrupted system delivery.next = some (frame, snapshot) →
          (delivery.selected system).regs .rsp = frame := by
    refine ⟨?_, ?_⟩
    · rw [hrsp]
      exact (span_mono (by decide)).trans (hkept.onStack hsaved)
    · intro other otherSnapshot hother
      cases hsaved.symm.trans hother
      exact hrsp
  obtain ⟨hrsp, _⟩ := irq0Handled_spec delivery.stack delivery.handler delivery.timerReturn
    system.machine hallowed.timer
  have hmoved (hrax : (delivery.handled system).regs .rax ≠ 0#64) :
      (delivery.selected system).regs .rsp = (delivery.handled system).regs .rax := by
    rw [selected, selectContext, if_neg hrax, setReg_same]
  cases hallowed.choice with
  | same hrax hnext =>
      have hsaved : delivery.interrupted system delivery.next =
          some (delivery.frame, system.machine) := by
        rw [hnext, interrupted, Function.update_self]
      apply hinterrupted hsaved
      by_cases hzero : (delivery.handled system).regs .rax = 0#64
      · rw [selected, selectContext, if_pos hzero]
        exact hrsp
      · exact (hmoved hzero).trans (hrax.resolve_left hzero)
  | other hrax hnext hsaved =>
      have hstill := hsaved
      rw [← Function.update_of_ne hnext (some (delivery.frame, system.machine)) system.saved]
        at hstill
      exact hinterrupted hstill (hmoved hrax)
  | new hrax hnext hsaved hstack =>
      refine ⟨?_, ?_⟩
      · rw [hmoved hrax]
        exact hstack
      · intro frame snapshot hother
        rw [interrupted, Function.update_of_ne hnext, hsaved] at hother
        cases hother

omit [DecidableEq Task] in
theorem selected_memory (delivery : Delivery Task) (system : System Task) :
    (delivery.selected system).memory = (delivery.handled system).memory := by
  rw [selected, selectContext]
  split <;> rfl

/-- One IRQ0 keeps the frames of all tasks but the one it resumes. -/
theorem Allowed.resumed_kept (hallowed : delivery.Allowed system stackOf)
    (hstacks : Pairwise fun task other => Disjoint (stackOf task) (stackOf other))
    (hkept : Kept stackOf system.machine.memory system.saved) :
    Kept stackOf (delivery.resumed system).machine.memory (delivery.resumed system).saved := by
  have hhandled := hallowed.handled_kept hstacks hkept
  obtain ⟨hstack, _⟩ := hallowed.selected_rsp hhandled
  have hsame := irq0Return_memory delivery.debugReturn hallowed.debug
  rw [selected_memory] at hsame
  apply (hhandled.forget delivery.next).change
  · intro address haddress houtside
    exact hsame address (savedBytes_forget _ _ haddress) houtside
  · intro task frame snapshot hsaved
    obtain ⟨hne, hother⟩ := of_update_none hsaved
    exact hhandled.misses hstacks hne hother hstack

/-- From saved frames that are kept, IRQ0 resumes the next task as it was. -/
theorem Allowed.resumes (hallowed : delivery.Allowed system stackOf)
    (hstacks : Pairwise fun task other => Disjoint (stackOf task) (stackOf other))
    (hkept : Kept stackOf system.machine.memory system.saved) {frame : U64} {snapshot : Machine}
    (hsaved : delivery.interrupted system delivery.next = some (frame, snapshot)) :
    Resumes snapshot (delivery.resumed system).machine := by
  have hhandled := hallowed.handled_kept hstacks hkept
  obtain ⟨_, hrsp⟩ := hallowed.selected_rsp hhandled
  apply irq0Return_spec delivery.debugReturn _ _ hallowed.debug
  · rw [Machine.Stack, hrsp hsaved, selected_memory]
    exact hhandled.holds hsaved
  · rw [hrsp hsaved]
    exact fun address haddress => mem_savedBytes hsaved haddress

end Delivery

section Runs

variable [DecidableEq Task] {stackOf : Task → Set U64} {first system next : System Task}

theorem System.Step.kept (hstep : System.Step stackOf system next)
    (hstacks : Pairwise fun task other => Disjoint (stackOf task) (stackOf other))
    (hkept : Kept stackOf system.machine.memory system.saved) :
    Kept stackOf next.machine.memory next.saved := by
  cases hstep with
  | execute machine current hcurrent hspares =>
      apply hkept.change ∅
      · intro address haddress _
        exact hspares address (fun hmem => hmem haddress)
      · intro task frame snapshot _
        exact Set.disjoint_empty _
  | irq0 delivery hallowed => exact hallowed.resumed_kept hstacks hkept

/-- Along every run the frame of every interrupted task holds the state the
task was interrupted in. -/
theorem run_kept (hrun : Relation.ReflTransGen (System.Step stackOf) first system)
    (hstacks : Pairwise fun task other => Disjoint (stackOf task) (stackOf other))
    (hfirst : ∀ task, first.saved task = none) :
    Kept stackOf system.machine.memory system.saved := by
  induction hrun with
  | refl =>
      refine ⟨?_, ?_⟩
      · intro task frame snapshot hsaved
        cases (hfirst task).symm.trans hsaved
      · intro task frame snapshot hsaved
        cases (hfirst task).symm.trans hsaved
  | tail _ hstep ih => exact hstep.kept hstacks ih

end Runs

/-- In every run, whenever IRQ0 resumes a task that it had interrupted, the
task has the fifteen registers, RIP, CS, RFLAGS, RSP and SS it had when it was
last interrupted. -/
theorem irq0_resumes_last_interrupted [DecidableEq Task] (stackOf : Task → Set U64)
    (hstacks : Pairwise fun task other => Disjoint (stackOf task) (stackOf other))
    (first system : System Task) (hfirst : ∀ task, first.saved task = none)
    (hrun : Relation.ReflTransGen (System.Step stackOf) first system) (delivery : Delivery Task)
    (hallowed : delivery.Allowed system stackOf) (frame : U64) (snapshot : Machine)
    (hsaved : delivery.interrupted system delivery.next = some (frame, snapshot)) :
    Resumes snapshot (delivery.resumed system).machine :=
  hallowed.resumes hstacks (run_kept hrun hstacks hfirst) hsaved

/-- A handler that only returns, with a value. -/
def returning (value : U64) (machine : Machine) : Machine :=
  (plainReturn machine).setReg .rax value

theorem returning_behaves (frames : Set U64) (value : U64) (machine : Machine) :
    Behaves frames (returning value) machine := by
  refine ⟨⟨setReg_other (by decide) _, ?_, fun _ _ => rfl⟩, SameOutside.refl _ _⟩
  intro reg hreg
  have hrax : reg ≠ .rax := by rintro rfl; revert hreg; decide
  exact (setReg_other hrax _).trans ((plainReturn_returned machine).saved reg hreg)

theorem irq0Handled_returning (stack handler returnAddress value : U64) (self : Machine) :
    (irq0Handled (returning value) stack handler returnAddress self).regs .rax = value := by
  rw [irq0Handled, unboundIrqCommon, run_append]
  generalize ((self.deliver stack handler kernelCodeSelector none).run (returning value)
    unboundIrq0).run (returning value) saveContext = ready
  rfl

/-- Two tasks with a page of stack each. -/
def pageStacks : Bool → Set U64
  | false => span 0x8000#64 0x1000
  | true => span 0x1F000#64 0x1000

theorem pageStacks_disjoint :
    Pairwise fun task other => Disjoint (pageStacks task) (pageStacks other) :=
  pairwise_disjoint_pair (span_disjoint 0#64 0x8000 0x1F000 (by decide) (by decide))

/-- The first task runs. -/
def oneRunning : System Bool where
  machine := interruptedState 0x101000#64 0x08#16 0x202#64 0x9000#64 0x10#16
  current := false
  saved := fun _ => none

/-- The first task is interrupted for the second one, which is new. -/
def startSecond : Delivery Bool :=
  ⟨returning 0x1F800#64, plainReturn, 0x9000#64, 0x100000#64, 0x100100#64, 0x100200#64, true⟩

/-- The second task is interrupted for the first one. -/
def backToFirst : Delivery Bool :=
  ⟨returning 0x8F58#64, plainReturn, 0x20000#64, 0x100000#64, 0x100100#64, 0x100200#64, false⟩

theorem plainReturn_behaves (frames : Set U64) (machine : Machine) :
    Behaves frames plainReturn machine := by
  have hreturned := plainReturn_returned machine
  exact ⟨⟨hreturned.rsp, hreturned.saved, fun _ _ => rfl⟩, SameOutside.refl _ _⟩

theorem startSecond_allowed : startSecond.Allowed oneRunning pageStacks where
  room := span_subset (show _ = _ + BitVec.ofNat 64 0xF40 by decide) (by decide)
  timer := returning_behaves _ _ _
  debug := plainReturn_behaves _ _
  choice := by
    rw [Delivery.handled, startSecond, irq0Handled_returning]
    exact .new (by decide) (by decide) rfl
      (span_subset (show _ = _ + BitVec.ofNat 64 0x7F8 by decide) (by decide))

theorem backToFirst_allowed :
    backToFirst.Allowed (startSecond.resumed oneRunning) pageStacks where
  room := span_subset (show _ = _ + BitVec.ofNat 64 0xF40 by decide) (by decide)
  timer := returning_behaves _ _ _
  debug := plainReturn_behaves _ _
  choice := by
    rw [Delivery.handled, backToFirst, irq0Handled_returning]
    exact .other (by decide) (by decide) rfl

/-- The first task comes back as it was when the second one was started. -/
theorem irq0_resumes_first_task :
    Resumes oneRunning.machine
      (backToFirst.resumed (startSecond.resumed oneRunning)).machine :=
  irq0_resumes_last_interrupted pageStacks pageStacks_disjoint oneRunning
    (startSecond.resumed oneRunning) (fun _ => rfl)
    (.single (.irq0 startSecond startSecond_allowed)) backToFirst backToFirst_allowed 0x8F58#64
    oneRunning.machine rfl

end UnboundOS.Arch
