import Mathlib.Logic.Relation
import UnboundOS.Sched.Scheduler
import UnboundOS.X86.Machine

/-!
The cooperative context switch of `scheduler/context.rs` with the
`TaskContext` blocks it saves to and restores from. The system around it is any
set of contexts in disjoint blocks of memory, switched in any order; what a
run keeps true is that the block of every context that is not running holds the
state the context last called the switch in, or its initial one.
-/

namespace UnboundOS.Sched

open X86 X86.Machine X86.Memory

/-- `unbound_context_switch`; RDI and RSI point to the old and the new context. -/
def unboundContextSwitch : List Instr :=
  [.load .rax .rsp 0#64,
    .store .rdi 56#64 .rax,
    .lea .rax .rsp 8#64,
    .store .rdi 0#64 .rax,
    .store .rdi 8#64 .rbp,
    .store .rdi 16#64 .rbx,
    .store .rdi 24#64 .r12,
    .store .rdi 32#64 .r13,
    .store .rdi 40#64 .r14,
    .store .rdi 48#64 .r15,
    .load .rsp .rsi 0#64,
    .load .rbp .rsi 8#64,
    .load .rbx .rsi 16#64,
    .load .r12 .rsi 24#64,
    .load .r13 .rsi 32#64,
    .load .r14 .rsi 40#64,
    .load .r15 .rsi 48#64,
    .load .rax .rsi 56#64,
    .jmp .rax]

/-- A `TaskContext` in memory, by the offsets of its `repr(C)` layout. -/
def readContext (memory : Memory) (block : U64) : TaskContext where
  rsp := memory.read64 (block + 0#64)
  rbp := memory.read64 (block + 8#64)
  rbx := memory.read64 (block + 16#64)
  r12 := memory.read64 (block + 24#64)
  r13 := memory.read64 (block + 32#64)
  r14 := memory.read64 (block + 40#64)
  r15 := memory.read64 (block + 48#64)
  rip := memory.read64 (block + 56#64)

/-- The fields of a `TaskContext` at their offsets. -/
def contextFields (context : TaskContext) : List (U64 × U64) :=
  [(0#64, context.rsp), (8#64, context.rbp), (16#64, context.rbx), (24#64, context.r12),
    (32#64, context.r13), (40#64, context.r14), (48#64, context.r15), (56#64, context.rip)]

/-- The context `initialize_context` builds. -/
def initialContext (stackTop entry : U64) : TaskContext where
  rsp := stackTop - 8#64
  rbp := 0#64
  rbx := 0#64
  r12 := 0#64
  r13 := 0#64
  r14 := 0#64
  r15 := 0#64
  rip := entry

/-- `initialize_context`, for a task whose context lies at `block`. -/
def initializeContext (taskExit stackTop entry block : U64) (memory : Memory) : Checked Memory :=
  if 8 ≤ stackTop.toNat then
    some ((memory.write64 (stackTop - 8#64) taskExit).storeAll block
      (contextFields (initialContext stackTop entry)))
  else none

/-- `context::switch` from the call in the running code to the resumed code. -/
def switch (old new returnAddress : U64) (self : Machine) : Machine :=
  (((self.setReg .rdi old).setReg .rsi new).pushWord returnAddress).run id unboundContextSwitch

/-- What of the processor a context stands for. -/
def liveContext (self : Machine) : TaskContext where
  rsp := self.regs .rsp
  rbp := self.regs .rbp
  rbx := self.regs .rbx
  r12 := self.regs .r12
  r13 := self.regs .r13
  r14 := self.regs .r14
  r15 := self.regs .r15
  rip := self.rip

/-- The running code as it goes on after a call of the switch. -/
def callerContext (returnAddress : U64) (self : Machine) : TaskContext :=
  {liveContext self with rip := returnAddress}

def contextSize : Nat := 64

theorem readContext_congr {before after : Memory} {block : U64}
    (hsame : ∀ address ∈ span block contextSize, after address = before address) :
    readContext after block = readContext before block := by
  have hword (offset : Nat) (hoffset : offset + 8 ≤ contextSize) :
      after.read64 (block + BitVec.ofNat 64 offset) =
        before.read64 (block + BitVec.ofNat 64 offset) := by
    apply read64_congr
    intro index hindex
    rw [BitVec.add_assoc, ← BitVec.ofNat_add]
    exact hsame _ (offset_mem_span (by omega))
  rw [readContext, readContext, hword 0 (by decide), hword 8 (by decide), hword 16 (by decide),
    hword 24 (by decide), hword 32 (by decide), hword 40 (by decide), hword 48 (by decide),
    hword 56 (by decide)]

/-- Fields stored at their offsets, in any order, are the context. -/
theorem contextFields_apart (context : TaskContext) :
    ((contextFields context).map Prod.fst).Pairwise Apart := by
  change [0#64, 8#64, 16#64, 24#64, 32#64, 40#64, 48#64, 56#64].Pairwise Apart
  decide

theorem readContext_storeAll (memory : Memory) (block : U64) {entries : List (U64 × U64)}
    (hapart : (entries.map Prod.fst).Pairwise Apart) {context : TaskContext}
    (hentries : contextFields context ⊆ entries) :
    readContext (memory.storeAll block entries) block = context := by
  have hword : ∀ entry ∈ contextFields context,
      (memory.storeAll block entries).read64 (block + entry.1) = entry.2 :=
    fun entry hentry => read64_storeAll (List.pairwise_map.mp hapart) (hentries hentry)
  simp only [contextFields, List.forall_mem_cons] at hword
  obtain ⟨hrsp, hrbp, hrbx, hr12, hr13, hr14, hr15, hrip, _⟩ := hword
  rw [readContext, hrsp, hrbp, hrbx, hr12, hr13, hr14, hr15, hrip]

/-- The first half of the switch stores the running code into the old block. -/
theorem run_save (entry : Machine) :
    ∃ saved : Machine, entry.run id (unboundContextSwitch.take 10) = saved ∧
      saved.memory = entry.memory.storeAll (entry.regs .rdi)
        [(56#64, entry.memory.read64 (entry.regs .rsp + 0#64)), (0#64, entry.regs .rsp + 8#64),
          (8#64, entry.regs .rbp), (16#64, entry.regs .rbx), (24#64, entry.regs .r12),
          (32#64, entry.regs .r13), (40#64, entry.regs .r14), (48#64, entry.regs .r15)] ∧
      saved.regs .rsi = entry.regs .rsi :=
  ⟨_, rfl, rfl, rfl⟩

/-- The second half loads the new block. -/
theorem run_restore (saved : Machine) :
    ∃ resumed : Machine, saved.run id (unboundContextSwitch.drop 10) = resumed ∧
      resumed.memory = saved.memory ∧
      liveContext resumed = readContext saved.memory (saved.regs .rsi) :=
  ⟨_, rfl, rfl, rfl⟩

/-- One switch: after the call's own push, memory changes in the old block only.
The old block then holds the caller, and the processor the new block. -/
theorem switch_spec (old new returnAddress : U64) (self : Machine) :
    SameOutside (span old contextSize) (self.pushWord returnAddress).memory
        (switch old new returnAddress self).memory ∧
      readContext (switch old new returnAddress self).memory old =
        callerContext returnAddress self ∧
      liveContext (switch old new returnAddress self) =
        readContext (switch old new returnAddress self).memory new := by
  obtain ⟨entry, hentry⟩ : ∃ entry : Machine,
      ((self.setReg .rdi old).setReg .rsi new).pushWord returnAddress = entry := ⟨_, rfl⟩
  have hrdi : entry.regs .rdi = old := by rw [← hentry]; rfl
  have hrsi : entry.regs .rsi = new := by rw [← hentry]; rfl
  have hpushed : entry.memory = (self.pushWord returnAddress).memory := by rw [← hentry]; rfl
  have htop : entry.memory.read64 (entry.regs .rsp + 0#64) = returnAddress := by
    rw [← hentry, BitVec.add_zero]
    exact read64_write64 _ _ _
  have hrsp : entry.regs .rsp + 8#64 = self.regs .rsp := by
    rw [← hentry, pushWord_rsp]
    exact BitVec.sub_add_cancel _ _
  have hkept : callerContext returnAddress self =
      ⟨self.regs .rsp, entry.regs .rbp, entry.regs .rbx, entry.regs .r12, entry.regs .r13,
        entry.regs .r14, entry.regs .r15, returnAddress⟩ := by rw [← hentry]; rfl
  obtain ⟨saved, hsaved, hmemory, hsavedRsi⟩ := run_save entry
  obtain ⟨resumed, hresumed, hresumedMemory, hlive⟩ := run_restore saved
  have hswitch : switch old new returnAddress self = resumed := by
    rw [switch, hentry, ← List.take_append_drop 10 unboundContextSwitch, run_append, hsaved,
      hresumed]
  rw [hrdi, htop, hrsp] at hmemory
  rw [hswitch, hresumedMemory, hmemory, hpushed, hkept]
  refine ⟨?_, ?_, ?_⟩
  · exact storeAll_sameOutside _ (by simp [contextSize])
  · apply readContext_storeAll
    · change [56#64, 0#64, 8#64, 16#64, 24#64, 32#64, 40#64, 48#64].Pairwise Apart
      decide
    · -- RIP is the last field of the block and the first one stored.
      intro field hfield
      exact (List.perm_append_singleton (56#64, returnAddress) _).mem_iff.mp hfield
  · rw [hlive, hsavedRsi, hrsi, hmemory, hpushed]

/-- Contexts under cooperative switching. `saved` is bookkeeping beside the
machine: for every context that is not running, the state it is to be resumed
in. -/
structure Contexts (Context : Type) where
  machine : Machine
  current : Context
  saved : Context → Option TaskContext

namespace Contexts

variable {Context : Type} [DecidableEq Context] {blockOf : Context → U64}

/-- A write that misses the blocks of all saved contexts. -/
def Misses (blockOf : Context → U64) (self : Contexts Context) (region : Set U64) : Prop :=
  ∀ context state, self.saved context = some state →
    Disjoint (span (blockOf context) contextSize) region

/-- The contexts once the running code has called the switch. -/
def called (self : Contexts Context) (returnAddress : U64) : Context → Option TaskContext :=
  Function.update self.saved self.current (some (callerContext returnAddress self.machine))

/-- A switch from the running context to `new`. -/
def switchTo (blockOf : Context → U64) (self : Contexts Context) (new : Context)
    (returnAddress : U64) : Contexts Context where
  machine := switch (blockOf self.current) (blockOf new) returnAddress self.machine
  current := new
  saved := Function.update (self.called returnAddress) new none

theorem switchTo_machine (blockOf : Context → U64) (self : Contexts Context) (new : Context)
    (returnAddress : U64) : (self.switchTo blockOf new returnAddress).machine =
      switch (blockOf self.current) (blockOf new) returnAddress self.machine := rfl

/-- Between two switches the running code does anything but write into the
blocks of saved contexts; contexts are initialised at any time; and a switch
goes from the running context to one that is saved. The stack the code runs on
is not in the blocks of saved contexts. -/
inductive Step (blockOf : Context → U64) : Contexts Context → Contexts Context → Prop where
  | execute {self : Contexts Context} (machine : Machine) {region : Set U64}
      (hregion : self.Misses blockOf region)
      (hsame : SameOutside region self.machine.memory machine.memory) :
      Step blockOf self ⟨machine, self.current, self.saved⟩
  | initializeContext {self : Contexts Context} (context : Context) (taskExit stackTop entry : U64)
      {memory : Memory}
      (hcode : Sched.initializeContext taskExit stackTop entry (blockOf context)
        self.machine.memory = some memory)
      (hslot : self.Misses blockOf (span (stackTop - 8#64) 8)) :
      Step blockOf self ⟨{self.machine with memory := memory}, self.current,
        Function.update self.saved context (some (initialContext stackTop entry))⟩
  | switch {self : Contexts Context} (new : Context) (returnAddress : U64) {state : TaskContext}
      (hnew : self.called returnAddress new = some state)
      (hslot : self.Misses blockOf (span (self.machine.regs .rsp - 8#64) 8)) :
      Step blockOf self (self.switchTo blockOf new returnAddress)

/-- The block of every saved context holds the state it is to be resumed in. -/
def Stored (blockOf : Context → U64) (memory : Memory) (saved : Context → Option TaskContext) :
    Prop :=
  ∀ context state, saved context = some state → readContext memory (blockOf context) = state

variable {self next first : Contexts Context} {before after : Memory}
  {saved : Context → Option TaskContext}

omit [DecidableEq Context] in
/-- A context outside the changed region is still stored. -/
theorem Stored.outside {region : Set U64} (hstored : Stored blockOf before saved)
    (hsame : SameOutside region before after) {context : Context} {state : TaskContext}
    (hsaved : saved context = some state)
    (hmiss : Disjoint (span (blockOf context) contextSize) region) :
    readContext after (blockOf context) = state := by
  rw [← hstored context state hsaved]
  apply readContext_congr
  intro address haddress
  exact hsame address (Set.disjoint_left.mp hmiss haddress)

/-- Storing a state into one block, after a change that misses all others. -/
theorem Stored.update {region : Set U64} {middle : Memory}
    (hblocks : Pairwise fun context other =>
      Disjoint (span (blockOf context) contextSize) (span (blockOf other) contextSize))
    (hstored : Stored blockOf before saved)
    (hmiss : ∀ context state, saved context = some state →
      Disjoint (span (blockOf context) contextSize) region)
    (hsame : SameOutside region before middle) {context : Context} {state : TaskContext}
    (hblock : SameOutside (span (blockOf context) contextSize) middle after)
    (hstate : readContext after (blockOf context) = state) :
    Stored blockOf after (Function.update saved context (some state)) := by
  intro other value hvalue
  rcases of_update_some hvalue with ⟨rfl, rfl⟩ | ⟨hother, hvalue⟩
  · exact hstate
  · have hmiddle := hstored.outside hsame hvalue (hmiss other value hvalue)
    rw [← hmiddle]
    apply readContext_congr
    intro address haddress
    exact hblock address (Set.disjoint_left.mp (hblocks hother) haddress)

/-- After a switch the old context is stored beside all others. -/
theorem Stored.switch
    (hblocks : Pairwise fun context other =>
      Disjoint (span (blockOf context) contextSize) (span (blockOf other) contextSize))
    (hstored : Stored blockOf self.machine.memory self.saved) (new : Context) (returnAddress : U64)
    (hslot : self.Misses blockOf (span (self.machine.regs .rsp - 8#64) 8)) :
    Stored blockOf (switch (blockOf self.current) (blockOf new) returnAddress self.machine).memory
      (self.called returnAddress) := by
  obtain ⟨hblock, hcaller, _⟩ :=
    switch_spec (blockOf self.current) (blockOf new) returnAddress self.machine
  exact hstored.update hblocks hslot (pushWord_memory _ _) hblock hcaller

theorem Step.stored (hstep : Step blockOf self next)
    (hblocks : Pairwise fun context other =>
      Disjoint (span (blockOf context) contextSize) (span (blockOf other) contextSize))
    (hstored : Stored blockOf self.machine.memory self.saved) :
    Stored blockOf next.machine.memory next.saved := by
  cases hstep with
  | execute machine hregion hsame =>
      intro context state hsaved
      exact hstored.outside hsame hsaved (hregion context state hsaved)
  | initializeContext context taskExit stackTop entry hcode hslot =>
      rw [Sched.initializeContext] at hcode
      split at hcode
      · cases hcode
        apply hstored.update hblocks hslot (write64_sameOutside _ _ taskExit)
        · exact storeAll_sameOutside _ (by simp [contextFields, contextSize])
        · exact readContext_storeAll _ _ (contextFields_apart _) (List.Subset.refl _)
      · cases hcode
  | switch new returnAddress _ hslot =>
      intro context state hsaved
      exact hstored.switch hblocks new returnAddress hslot context state (of_update_none hsaved).2

theorem run_stored (hrun : Relation.ReflTransGen (Step blockOf) first self)
    (hblocks : Pairwise fun context other =>
      Disjoint (span (blockOf context) contextSize) (span (blockOf other) contextSize))
    (hfirst : ∀ context, first.saved context = none) :
    Stored blockOf self.machine.memory self.saved := by
  induction hrun with
  | refl =>
      intro context state hsaved
      cases (hfirst context).symm.trans hsaved
  | tail _ hstep ih => exact hstep.stored hblocks ih

end Contexts

/-- In every run, a switch resumes its new context with the registers, RSP and
RIP that the context called the switch with, or its initial ones; and the switch
writes into no block but that of the context it leaves. -/
theorem switch_resumes_saved_context {Context : Type} [DecidableEq Context]
    (blockOf : Context → U64)
    (hblocks : Pairwise fun context other =>
      Disjoint (span (blockOf context) contextSize) (span (blockOf other) contextSize))
    (first self : Contexts Context) (hfirst : ∀ context, first.saved context = none)
    (hrun : Relation.ReflTransGen (Contexts.Step blockOf) first self) (new : Context)
    (returnAddress : U64) (state : TaskContext)
    (hnew : self.called returnAddress new = some state)
    (hslot : self.Misses blockOf (span (self.machine.regs .rsp - 8#64) 8)) :
    liveContext (self.switchTo blockOf new returnAddress).machine = state ∧
      ∀ other ≠ self.current, ∀ address ∈ span (blockOf other) contextSize,
        (self.switchTo blockOf new returnAddress).machine.memory address =
          (self.machine.pushWord returnAddress).memory address := by
  have hstored := Contexts.run_stored hrun hblocks hfirst
  have hcalled := hstored.switch hblocks new returnAddress hslot
  obtain ⟨hblock, _, hlive⟩ :=
    switch_spec (blockOf self.current) (blockOf new) returnAddress self.machine
  rw [hcalled new state hnew] at hlive
  rw [Contexts.switchTo_machine]
  refine ⟨hlive, ?_⟩
  intro other hother address haddress
  exact hblock address (Set.disjoint_left.mp (hblocks hother) haddress)

/-- The kernel runs on a stack below `rsp`, all else is zero. -/
def runningAt (rsp : U64) (memory : Memory) : Machine where
  regs
    | .rsp => rsp
    | _ => 0#64
  memory := memory
  rip := 0x100000#64
  rflags := 0x202#64
  cs := 0x08#16
  ss := 0x10#16
  calls := []

theorem runningAt_memory (rsp : U64) (memory : Memory) :
    SameOutside ∅ memory (runningAt rsp memory).memory :=
  SameOutside.refl _ _

/-- The kernel's context and that of one task. -/
def twoBlocks : Bool → U64
  | false => 0x1000#64
  | true => 0x2000#64

theorem twoBlocks_span (context : Bool) :
    span (twoBlocks context) contextSize ⊆ {address | address.toNat < 0x3000} := by
  intro address haddress
  rw [mem_span, contextSize] at haddress
  change address.toNat < 0x3000
  cases context
  · change (address - 0x1000#64).toNat < 64 at haddress
    bv_omega
  · change (address - 0x2000#64).toNat < 64 at haddress
    bv_omega

theorem twoBlocks_disjoint : Pairwise fun context other =>
    Disjoint (span (twoBlocks context) contextSize) (span (twoBlocks other) contextSize) :=
  pairwise_disjoint_pair (span_disjoint 0#64 0x1000 0x2000 (by decide) (by decide))

/-- A stack slot above both blocks. -/
theorem twoBlocks_misses (self : Contexts Bool) {slot : U64}
    (hslot : 0x3000 ≤ slot.toNat ∧ slot.toNat < 0x10000) :
    self.Misses twoBlocks (span slot 8) := by
  intro context state _
  rw [Set.disjoint_left]
  intro address hblock haddress
  have hlow : address.toNat < 0x3000 := twoBlocks_span context hblock
  rw [mem_span] at haddress
  bv_omega

def kernelRuns : Contexts Bool :=
  ⟨runningAt 0x9000#64 (fun _ => 0#8), false, fun _ => none⟩

/-- The task has been given its initial context. -/
def taskReady : Contexts Bool :=
  ⟨runningAt 0x9000#64 ((write64 (fun _ => 0#8) (0xA000#64 - 8#64) 0x101000#64).storeAll
    (twoBlocks true) (contextFields (initialContext 0xA000#64 0x102000#64))), false,
    Function.update (fun _ => none) true (some (initialContext 0xA000#64 0x102000#64))⟩

/-- The kernel has switched to the task, which runs on its own stack. -/
def taskRuns : Contexts Bool :=
  ⟨runningAt 0x9F00#64 (taskReady.switchTo twoBlocks true 0x100100#64).machine.memory, true,
    (taskReady.switchTo twoBlocks true 0x100100#64).saved⟩

theorem taskRuns_reached :
    Relation.ReflTransGen (Contexts.Step twoBlocks) kernelRuns taskRuns := by
  have hready : Contexts.Step twoBlocks kernelRuns taskReady :=
    .initializeContext true 0x101000#64 0xA000#64 0x102000#64 (if_pos (by decide))
      (twoBlocks_misses kernelRuns (by decide))
  have hswitched : Contexts.Step twoBlocks taskReady
      (taskReady.switchTo twoBlocks true 0x100100#64) :=
    .switch true 0x100100#64 rfl (twoBlocks_misses taskReady (by decide))
  have hruns : Contexts.Step twoBlocks (taskReady.switchTo twoBlocks true 0x100100#64) taskRuns :=
    .execute _ (fun _ _ _ => Set.disjoint_empty _) (runningAt_memory _ _)
  exact ((Relation.ReflTransGen.single hready).tail hswitched).tail hruns

/-- The task switches back, and the kernel is where it called the switch. -/
theorem switch_resumes_kernel :
    liveContext (taskRuns.switchTo twoBlocks false 0x102100#64).machine =
      callerContext 0x100100#64 taskReady.machine :=
  (switch_resumes_saved_context twoBlocks twoBlocks_disjoint kernelRuns taskRuns (fun _ => rfl)
    taskRuns_reached false 0x102100#64 _ rfl (twoBlocks_misses taskRuns (by decide))).1

end UnboundOS.Sched
