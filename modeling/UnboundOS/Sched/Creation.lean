import UnboundOS.Sched.PreemptiveStart
import UnboundOS.Sched.Coherence

/-!
How tasks come into the table. A stack pointer is computed from the address at
which its task lies, and `create_task` moves the task from a variable of its
creator into a slot; the fields are copied, the addresses are new. The three
creators of `scheduler/mod.rs` initialize a task before the move, never, and
after it. The result says for which of them the context that a switch loads
points into the stack of the task itself.
-/

namespace UnboundOS.Sched

open X86 X86.Memory

/-- Where a task can be stored. -/
inductive Place where
  | slot (index : Fin maxSchedulerTasks)
  | creator
deriving DecidableEq

/-- The addresses the compiler and the linker gave these places. -/
structure Placement where
  address : Place → U64
  placed : ∀ place, Placed (address place)
  disjoint : Pairwise fun left right =>
    Disjoint (span (address left) taskSize) (span (address right) taskSize)

/-- The functions whose addresses go into contexts. -/
structure Symbols where
  taskBootstrap : U64
  startInterruptContext : U64
  start_ne_zero : startInterruptContext ≠ 0#64

namespace Task

/-- `initialize_context` of the task stored at `address`, without the return
address it writes to the stack. -/
def initializeContext (self : Task) (address entry : U64) : Checked Task := do
  let stackTop ← kernelStackTop address
  if 8 ≤ stackTop.toNat then some (self.setContext (initialContext stackTop entry)) else none

/-- `initialize_interrupt_context` of the task stored at `address`, without the
frame it writes to the stack. -/
def initializeInterruptContextAt (self : Task) (address : U64) : Checked Task := do
  let stackTop ← kernelStackTop address
  if (initialStackReserve + interruptContextSize).toNat ≤ stackTop.toNat then
    some (self.initializeInterruptContext stackTop)
  else none

def preparePreemptiveStart (self : Task) (startContext : U64) : Checked Task :=
  if self.interruptRsp = 0#64 then none
  else some (self.setContext (preemptiveContext startContext self.interruptRsp))

/-- The context of a task stored at `address` can be loaded: there is code to
go to, and the stack is the task's own. -/
def OwnStack (self : Task) (address : U64) : Prop :=
  self.context.rip ≠ 0#64 ∧
    self.context.rsp ∈ span (address + kernelStackOffset) kernelStackSize.toNat

end Task

/-- What a creator leaves: the ids of the tasks it has stored and not removed
again, and the scheduler in which they may be switched to. -/
structure Creation where
  stored : List TaskId
  scheduler : Scheduler

namespace Scheduler

variable (placement : Placement) (symbols : Symbols)

def createInitialTask (taskId : TaskId) (self : Scheduler) : Checked Creation := do
  let task ← (Task.new taskId 1#8).initializeContext (placement.address .creator)
    symbols.taskBootstrap
  let (_, created, next) ← self.createTask task
  some ⟨created.toList, next⟩

/-- `run_context_switch_test` up to its `switch_kernel_to_task`, or to the
return if a creation fails. Both ids are allocated before. -/
def runContextSwitchTest (taskId : TaskId) (self : Scheduler) : Checked Creation := do
  let (_, createdA, withA) ← self.createTask (Task.new taskId 1#8)
  match createdA with
  | none => some ⟨[], withA⟩
  | some taskA => do
      let (_, createdB, withB) ← withA.createTask (Task.new (taskId + 1#64) 1#8)
      some ⟨taskA :: createdB.toList, withB⟩

/-- `if let Some(task) = task_mut(id) { initialize_interrupt_context; prepare_preemptive_start }`;
`none` is the `else` branch. -/
def prepareStored (taskId : TaskId) (self : Scheduler) : Checked (Option Scheduler) :=
  match self.slotOf taskId with
  | none => some none
  | some slot =>
      match self.tasks slot with
      | none => some none
      | some task => do
          let framed ← task.initializeInterruptContextAt (placement.address (.slot slot))
          let prepared ← framed.preparePreemptiveStart symbols.startInterruptContext
          some (some { self with tasks := Function.update self.tasks slot (some prepared) })

/-- `run_preemptive_test` up to its `switch_kernel_to_task`, or to the return if
something fails. -/
def runPreemptiveTest (taskId : TaskId) (self : Scheduler) : Checked Creation := do
  let (_, createdA, withA) ← self.createTask (Task.new taskId 1#8)
  match createdA with
  | none => some ⟨[], withA⟩
  | some taskA =>
      match ← withA.prepareStored placement symbols taskA with
      | none => do
          let (_, removed) ← withA.removeTask taskA
          some ⟨[], removed⟩
      | some readyA => do
          let (_, createdB, withB) ← readyA.createTask (Task.new (taskId + 1#64) 1#8)
          match createdB with
          | none => do
              let (_, removed) ← withB.removeTask taskA
              some ⟨[], removed⟩
          | some taskB =>
              match ← withB.prepareStored placement symbols taskB with
              | none => do
                  let (_, removedB) ← withB.removeTask taskB
                  let (_, removedA) ← removedB.removeTask taskA
                  some ⟨[], removedA⟩
              | some readyB =>
                  let (_, current) := readyB.setCurrent taskA
                  some ⟨[taskA, taskB], current.modifyTask taskA Task.startSlice⟩

end Scheduler

inductive CreationPath where
  | createInitialTask
  | runContextSwitchTest
  | runPreemptiveTest
deriving DecidableEq

/-- A creator, with the next id that `allocate_task_id` hands out. -/
def CreationPath.run (placement : Placement) (symbols : Symbols) (taskId : TaskId)
    (scheduler : Scheduler) : CreationPath → Checked Creation
  | .createInitialTask => scheduler.createInitialTask placement symbols taskId
  | .runContextSwitchTest => scheduler.runContextSwitchTest taskId
  | .runPreemptiveTest => scheduler.runPreemptiveTest placement symbols taskId

/-- `switch_kernel_to_task` or `switch_task_to_task` to this id finds a task
that can be loaded. -/
def LoadsOwnStack (placement : Placement) (scheduler : Scheduler) (taskId : TaskId) : Prop :=
  ∃ slot task, scheduler.slotOf taskId = some slot ∧ scheduler.tasks slot = some task ∧
    task.OwnStack (placement.address (.slot slot))

def Creation.Loadable (placement : Placement) (creation : Creation) : Prop :=
  ∀ taskId ∈ creation.stored, LoadsOwnStack placement creation.scheduler taskId

section Addresses

variable {address : U64}

theorem stack_subset (address : U64) :
    span (address + kernelStackOffset) kernelStackSize.toNat ⊆ span address taskSize :=
  span_subset rfl (by decide)

theorem Task.initializeContext_eq (hplaced : Placed address) (self : Task) (entry : U64) :
    self.initializeContext address entry =
      some (self.setContext
        (initialContext (address + kernelStackOffset + kernelStackSize) entry)) := by
  obtain ⟨htop, hnat⟩ := hplaced.kernelStackTop
  rw [initializeContext, htop, Option.bind_eq_bind, Option.bind_some, if_pos]
  rw [hnat, taskSize]
  omega

/-- The stack pointer of `initialize_context` lies in the task it was computed
for. -/
theorem initialContext_rsp_mem (address entry : U64) :
    (initialContext (address + kernelStackOffset + kernelStackSize) entry).rsp ∈
      span address taskSize := by
  have hrsp : (initialContext (address + kernelStackOffset + kernelStackSize) entry).rsp =
      address + BitVec.ofNat 64 16488 := by
    change address + 112#64 + 16384#64 - 8#64 = _
    bv_omega
  rw [hrsp]
  exact offset_mem_span (by decide)

/-- Both preemptive functions on a task that stays where it is. -/
theorem Task.prepare_eq (hplaced : Placed address) (self : Task) (startContext : U64) :
    ∃ framed prepared, self.initializeInterruptContextAt address = some framed ∧
      framed.preparePreemptiveStart startContext = some prepared ∧ prepared.id = self.id ∧
      prepared.context = preemptiveContext startContext (address + BitVec.ofNat 64 14296) := by
  obtain ⟨htop, hnat⟩ := hplaced.kernelStackTop
  have hroom : (initialStackReserve + interruptContextSize).toNat ≤
      (address + kernelStackOffset + kernelStackSize).toNat := by
    rw [hnat, taskSize]
    change 2200 ≤ _
    omega
  obtain ⟨framed, hframed⟩ : ∃ framed, framed =
      self.initializeInterruptContext (address + kernelStackOffset + kernelStackSize) := ⟨_, rfl⟩
  have hid : framed.id = self.id := by rw [hframed, initializeInterruptContext]
  have hrsp : framed.interruptRsp = address + BitVec.ofNat 64 14296 := by
    rw [hframed]
    exact contextRsp_eq address
  refine ⟨framed, framed.setContext (preemptiveContext startContext framed.interruptRsp), ?_, ?_,
    hid, ?_⟩
  · rw [initializeInterruptContextAt, htop, Option.bind_eq_bind, Option.bind_some, if_pos hroom,
      hframed]
  · rw [preparePreemptiveStart, if_neg]
    rw [hrsp]
    exact hplaced.contextRsp_ne_zero
  · rw [hrsp, setContext]

theorem Task.ownStack_of_prepared {self : Task} (symbols : Symbols)
    (hcontext : self.context =
      preemptiveContext symbols.startInterruptContext (address + BitVec.ofNat 64 14296)) :
    self.OwnStack address := by
  have hoffset : address + BitVec.ofNat 64 14296 =
      address + kernelStackOffset + BitVec.ofNat 64 14184 := by
    change _ = address + BitVec.ofNat 64 112 + BitVec.ofNat 64 14184
    rw [BitVec.add_assoc, ← BitVec.ofNat_add]
  rw [OwnStack, hcontext]
  refine ⟨symbols.start_ne_zero, ?_⟩
  change address + BitVec.ofNat 64 14296 ∈ _
  rw [hoffset]
  exact offset_mem_span (by decide)

/-- The fields above are what the functions leave in memory. -/
theorem contexts_in_memory (hplaced : Placed address) (self : Task)
    (taskExit startContext entry : U64) (memory : Memory) :
    (∃ stackTop after changed, kernelStackTop address = some stackTop ∧
      initializeContext taskExit stackTop entry (address + contextOffset) memory = some after ∧
      self.initializeContext address entry = some changed ∧
      readContext after (address + contextOffset) = changed.context) ∧
    ∃ written after framed prepared,
      initializeInterruptContext address entry memory = some written ∧
      preparePreemptiveStart startContext address written = some after ∧
      self.initializeInterruptContextAt address = some framed ∧
      framed.preparePreemptiveStart startContext = some prepared ∧
      readContext after (address + contextOffset) = prepared.context := by
  constructor
  · obtain ⟨htop, hnat⟩ := hplaced.kernelStackTop
    have hroom : 8 ≤ (address + kernelStackOffset + kernelStackSize).toNat := by
      rw [hnat, taskSize]
      omega
    exact ⟨_, _, _, htop, if_pos hroom, self.initializeContext_eq hplaced entry,
      readContext_storeAll _ _ (contextFields_apart _) (List.Subset.refl _)⟩
  · obtain ⟨written, after, hwritten, hafter, hmemory⟩ :=
      prepare_spec startContext hplaced entry memory
    obtain ⟨framed, prepared, hframed, hprepared, _, hcontext⟩ :=
      self.prepare_eq hplaced startContext
    exact ⟨written, after, framed, prepared, hwritten, hafter, hframed, hprepared,
      hmemory.context.trans hcontext.symm⟩

end Addresses

section Loads

variable {placement : Placement} {scheduler : Scheduler} {taskId : TaskId}

theorem Scheduler.slotOf_eq_some_iff (hdistinct : Distinct scheduler.ids)
    {slot : Fin maxSchedulerTasks} :
    scheduler.slotOf taskId = some slot ↔ scheduler.ids slot = some taskId := by
  rcases scheduler.slotOf_cases taskId with ⟨habsent, hnone⟩ | ⟨found, _, hfound, _, hid⟩
  · rw [hnone]
    refine iff_of_false (Option.some_ne_none slot).symm fun hslot => ?_
    exact habsent (mem_held.mpr ⟨slot, hslot⟩)
  · rw [hfound, Option.some.injEq]
    constructor
    · rintro rfl
      exact hid
    · exact hdistinct found slot taskId hid

/-- With distinct ids the slot found is the one in which the task is stored. -/
theorem loadsOwnStack_iff (hdistinct : Distinct scheduler.ids) :
    LoadsOwnStack placement scheduler taskId ↔
      ∃ slot task, scheduler.tasks slot = some task ∧ task.id = taskId ∧
        task.OwnStack (placement.address (.slot slot)) := by
  have hids (slot : Fin maxSchedulerTasks) {task : Task}
      (htask : scheduler.tasks slot = some task) :
      scheduler.slotOf taskId = some slot ↔ task.id = taskId := by
    rw [Scheduler.slotOf_eq_some_iff hdistinct, Scheduler.ids, htask, Option.map_some,
      Option.some.injEq]
  constructor
  · rintro ⟨slot, task, hslot, htask, hown⟩
    exact ⟨slot, task, htask, (hids slot htask).mp hslot, hown⟩
  · rintro ⟨slot, task, htask, hid, hown⟩
    exact ⟨slot, task, (hids slot htask).mpr hid, htask, hown⟩

/-- A task without a loadable context is not made loadable by its id. -/
theorem not_loadsOwnStack (hdistinct : Distinct scheduler.ids) {slot : Fin maxSchedulerTasks}
    {task : Task} (htask : scheduler.tasks slot = some task)
    (hown : ¬ task.OwnStack (placement.address (.slot slot))) :
    ¬ LoadsOwnStack placement scheduler task.id := by
  rw [loadsOwnStack_iff hdistinct]
  rintro ⟨other, found, hfound, hid, hownFound⟩
  have hsame : other = slot := by
    apply hdistinct other slot task.id
    · rw [Scheduler.ids, hfound, Option.map_some, hid]
    · rw [Scheduler.ids, htask, Option.map_some]
  rw [hsame] at hfound hownFound
  rw [htask] at hfound
  cases hfound
  exact hown hownFound

/-- A creation fills a free slot. -/
theorem createTask_keeps {next : Scheduler} {task : Task} {exit : CreateExit} {created : TaskId}
    (hcreate : scheduler.createTask task = some (exit, some created, next))
    {slot : Fin maxSchedulerTasks} {stored : Task} (hstored : scheduler.tasks slot = some stored) :
    next.tasks slot = some stored := by
  obtain ⟨_, _, free, hfree, htasks⟩ := Scheduler.createTask_tasks hcreate
  rw [htasks, Function.update_of_ne]
  · exact hstored
  · rintro rfl
    rw [hfree] at hstored
    cases hstored

/-- What can be loaded stays so while the slot keeps its task's context. -/
theorem LoadsOwnStack.transfer {next : Scheduler} (hself : scheduler.Coherent)
    (hnext : next.Coherent)
    (hkeeps : ∀ slot stored, scheduler.tasks slot = some stored → stored.id = taskId →
      ∃ kept, next.tasks slot = some kept ∧ kept.id = taskId ∧ kept.context = stored.context)
    (hloads : LoadsOwnStack placement scheduler taskId) :
    LoadsOwnStack placement next taskId := by
  obtain ⟨slot, stored, hstored, hid, hown⟩ := (loadsOwnStack_iff hself.distinct).mp hloads
  obtain ⟨kept, hkept, hidKept, hcontext⟩ := hkeeps slot stored hstored hid
  refine (loadsOwnStack_iff hnext.distinct).mpr ⟨slot, kept, hkept, hidKept, ?_⟩
  rw [Task.OwnStack, hcontext]
  exact hown

theorem Scheduler.Coherent.mem_of_slot (hself : scheduler.Coherent)
    {slot : Fin maxSchedulerTasks} {task : Task} (htask : scheduler.tasks slot = some task) :
    task.id ∈ scheduler.runQueue.ids := by
  rw [← hself.same_ids]
  apply mem_held.mpr
  exact ⟨slot, by rw [Scheduler.ids, htask, Option.map_some]⟩

/-- Preparing a stored task works and leaves the others alone. -/
theorem prepareStored_spec (placement : Placement) (symbols : Symbols)
    (hself : scheduler.Coherent)
    (hmem : taskId ∈ scheduler.runQueue.ids) :
    ∃ next, scheduler.prepareStored placement symbols taskId = some (some next) ∧
      next.Coherent ∧ LoadsOwnStack placement next taskId ∧
      ∀ other ≠ taskId, LoadsOwnStack placement scheduler other →
        LoadsOwnStack placement next other := by
  rcases scheduler.slotOf_cases taskId with ⟨habsent, _⟩ | ⟨slot, task, hslot, htask, hid⟩
  · rw [hself.same_ids] at habsent
    exact absurd hmem habsent
  · have hidTask : task.id = taskId := by
      rw [Scheduler.ids, htask, Option.map_some] at hid
      exact Option.some.inj hid
    obtain ⟨framed, prepared, hframed, hprepared, hidPrepared, hcontext⟩ :=
      task.prepare_eq (placement.placed (.slot slot)) symbols.startInterruptContext
    have hnext : ({ scheduler with
        tasks := Function.update scheduler.tasks slot (some prepared) } : Scheduler).Coherent := by
      refine Scheduler.Coherent.congr hself rfl ?_ rfl hself.current_mem
      have hids := Function.comp_update (Option.map Task.id) scheduler.tasks slot (some prepared)
      refine hids.trans ?_
      rw [Option.map_some, hidPrepared, hidTask, ← hid]
      exact Function.update_eq_self slot scheduler.ids
    refine ⟨_, ?_, hnext, ?_, fun other hother hloads => ?_⟩
    · simp only [Scheduler.prepareStored, hslot, htask, hframed, hprepared, Option.bind_eq_bind,
        Option.bind_some]
    · rw [loadsOwnStack_iff hnext.distinct]
      exact ⟨slot, prepared, Function.update_self _ _ _, hidPrepared.trans hidTask,
        Task.ownStack_of_prepared symbols hcontext⟩
    · apply LoadsOwnStack.transfer hself hnext ?_ hloads
      intro place found hfound hidFound
      refine ⟨found, ?_, hidFound, rfl⟩
      change Function.update scheduler.tasks slot (some prepared) place = some found
      rw [Function.update_of_ne]
      · exact hfound
      · rintro rfl
        rw [htask] at hfound
        cases hfound
        exact hother (hidFound.symm.trans hidTask)

end Loads

/-- A task made by `create_initial_task` keeps the stack pointer of the
variable it was initialized in. -/
theorem dangling_stack (placement : Placement) (task : Task) (entry : U64)
    (slot : Fin maxSchedulerTasks) :
    ¬ (task.setContext (initialContext
      (placement.address .creator + kernelStackOffset + kernelStackSize) entry)).OwnStack
      (placement.address (.slot slot)) := by
  rintro ⟨_, hinside⟩
  have hdisjoint := placement.disjoint (show Place.slot slot ≠ .creator by simp)
  exact Set.disjoint_left.mp hdisjoint (stack_subset _ hinside)
    (initialContext_rsp_mem (placement.address .creator) entry)

section Paths

variable (placement : Placement) (symbols : Symbols) {scheduler : Scheduler}

theorem loadable_nil (scheduler : Scheduler) : (Creation.mk [] scheduler).Loadable placement :=
  fun _ hmem => absurd hmem List.not_mem_nil

theorem loadable_pair {first second : TaskId}
    (hfirst : LoadsOwnStack placement scheduler first)
    (hsecond : LoadsOwnStack placement scheduler second) :
    (Creation.mk [first, second] scheduler).Loadable placement := by
  intro taskId hmem
  rcases List.mem_pair.mp hmem with rfl | rfl
  · exact hfirst
  · exact hsecond

/-- With room in the table the first creation fails only for a known id. -/
theorem create_with_room (hself : scheduler.Coherent)
    (hroom : scheduler.taskCount < maxSchedulerTasks) (task : Task) :
    (task.id ∈ scheduler.runQueue.ids ∧
      ∃ exit, scheduler.createTask task = some (exit, none, scheduler)) ∨
    (task.id ∉ scheduler.runQueue.ids ∧ ∃ next slot,
      scheduler.createTask task = some (.created, some task.id, next) ∧ next.Coherent ∧
      next.tasks slot = some task) := by
  rcases Scheduler.createTask_cases hself task with ⟨hreason, exit, _, hcreate⟩ |
    ⟨_, hnew, next, hcreate, hnext⟩
  · exact Or.inl ⟨hreason.resolve_left (by omega), exit, hcreate⟩
  · obtain ⟨_, _, slot, _, htasks⟩ := Scheduler.createTask_tasks hcreate
    refine Or.inr ⟨hnew, next, slot, hcreate, hnext, ?_⟩
    rw [htasks, Function.update_self]

theorem createInitialTask_loadable_iff (hself : scheduler.Coherent)
    (hroom : scheduler.taskCount < maxSchedulerTasks) (taskId : TaskId) :
    ∃ creation, scheduler.createInitialTask placement symbols taskId = some creation ∧
      (creation.Loadable placement ↔ taskId ∈ scheduler.runQueue.ids) := by
  have hcontext := (Task.new taskId 1#8).initializeContext_eq (placement.placed .creator)
    symbols.taskBootstrap
  obtain ⟨task, htask⟩ : ∃ task, task = (Task.new taskId 1#8).setContext (initialContext
      (placement.address .creator + kernelStackOffset + kernelStackSize) symbols.taskBootstrap) :=
    ⟨_, rfl⟩
  have hid : task.id = taskId := by rw [htask]; rfl
  rw [← htask] at hcontext
  rcases create_with_room hself hroom task with
    ⟨hknown, exit, hcreate⟩ | ⟨hnew, next, slot, hcreate, hnext, hstored⟩
  · refine ⟨⟨[], scheduler⟩, ?_, ?_⟩
    · simp only [Scheduler.createInitialTask, hcontext, hcreate, Option.bind_eq_bind,
        Option.bind_some, Option.toList_none]
    · exact iff_of_true (loadable_nil placement scheduler) (hid ▸ hknown)
  · refine ⟨⟨[task.id], next⟩, ?_, ?_⟩
    · simp only [Scheduler.createInitialTask, hcontext, hcreate, Option.bind_eq_bind,
        Option.bind_some, Option.toList_some]
    · refine iff_of_false (fun hloadable => ?_) (hid ▸ hnew)
      apply not_loadsOwnStack hnext.distinct hstored
      · rw [htask]
        exact dangling_stack placement _ _ slot
      · exact hloadable task.id (List.mem_singleton_self _)

theorem runContextSwitchTest_loadable_iff (hself : scheduler.Coherent)
    (hroom : scheduler.taskCount < maxSchedulerTasks) (taskId : TaskId) :
    ∃ creation, scheduler.runContextSwitchTest taskId = some creation ∧
      (creation.Loadable placement ↔ taskId ∈ scheduler.runQueue.ids) := by
  -- Task A alone decides: nobody ever gives it a context.
  have hempty (other : Scheduler) (hother : other.Coherent) {slot : Fin maxSchedulerTasks}
      (hslot : other.tasks slot = some (Task.new taskId 1#8)) (rest : List TaskId) :
      ¬ (Creation.mk (taskId :: rest) other).Loadable placement := by
    intro hloadable
    apply not_loadsOwnStack hother.distinct hslot
    · exact fun hown => hown.1 rfl
    · exact hloadable taskId List.mem_cons_self
  rcases create_with_room hself hroom (Task.new taskId 1#8) with
    ⟨hknown, exit, hcreate⟩ | ⟨hnew, withA, slot, hcreate, hwithA, hstored⟩
  · refine ⟨⟨[], scheduler⟩, ?_, iff_of_true (loadable_nil placement scheduler) hknown⟩
    simp only [Scheduler.runContextSwitchTest, hcreate, Option.bind_eq_bind, Option.bind_some]
  · rcases Scheduler.createTask_cases hwithA (Task.new (taskId + 1#64) 1#8) with
      ⟨_, exit, _, hcreateB⟩ | ⟨_, _, withB, hcreateB, hwithB⟩
    · refine ⟨⟨[taskId], withA⟩, ?_, iff_of_false (hempty withA hwithA hstored []) hnew⟩
      simp only [Scheduler.runContextSwitchTest, hcreate, hcreateB, Option.bind_eq_bind,
        Option.bind_some, Option.toList_none]
      rfl
    · refine ⟨⟨[taskId, taskId + 1#64], withB⟩, ?_,
        iff_of_false (hempty withB hwithB (createTask_keeps hcreateB hstored) _) hnew⟩
      simp only [Scheduler.runContextSwitchTest, hcreate, hcreateB, Option.bind_eq_bind,
        Option.bind_some, Option.toList_some]
      rfl

/-- Removals of the cleanup branches return. -/
theorem removeTask_returns (hself : scheduler.Coherent) (taskId : TaskId) :
    ∃ removed next, scheduler.removeTask taskId = some (removed, next) := by
  rcases Scheduler.removeTask_cases hself taskId with ⟨_, hremove⟩ | ⟨_, next, hremove, _⟩
  · exact ⟨_, _, hremove⟩
  · exact ⟨_, _, hremove⟩

/-- The last lines before the switch change no context. -/
theorem LoadsOwnStack.start {placement : Placement} {taskId : TaskId} (hself : scheduler.Coherent)
    (current : TaskId) (hloads : LoadsOwnStack placement scheduler taskId) :
    LoadsOwnStack placement
      ((scheduler.setCurrent current).2.modifyTask current Task.startSlice) taskId := by
  have hcurrent := hself.setCurrent current
  have htasks : (scheduler.setCurrent current).2.tasks = scheduler.tasks := by
    unfold Scheduler.setCurrent
    split <;> rfl
  have hstarted := hcurrent.modifyTask current Task.startSlice fun _ => rfl
  apply LoadsOwnStack.transfer hself hstarted ?_ hloads
  intro slot stored hstored hid
  rw [Scheduler.modifyTask_tasks _ _ hcurrent.distinct, htasks, hstored, Option.map_some]
  refine ⟨_, rfl, ?_, ?_⟩
  · split
    · exact hid
    · exact hid
  · split <;> rfl

theorem runPreemptiveTest_loadable (hself : scheduler.Coherent)
    (hroom : scheduler.taskCount < maxSchedulerTasks) (taskId : TaskId) :
    ∃ creation, scheduler.runPreemptiveTest placement symbols taskId = some creation ∧
      creation.Loadable placement := by
  rcases create_with_room hself hroom (Task.new taskId 1#8) with
    ⟨_, exit, hcreate⟩ | ⟨_, withA, slot, hcreate, hwithA, hstored⟩
  · refine ⟨⟨[], scheduler⟩, ?_, loadable_nil placement scheduler⟩
    simp only [Scheduler.runPreemptiveTest, hcreate, Option.bind_eq_bind, Option.bind_some]
  · obtain ⟨readyA, hprepareA, hreadyA, hloadsA, _⟩ :=
      prepareStored_spec placement symbols hwithA (hwithA.mem_of_slot hstored)
    rcases Scheduler.createTask_cases hreadyA (Task.new (taskId + 1#64) 1#8) with
      ⟨_, exit, _, hcreateB⟩ | ⟨_, _, withB, hcreateB, hwithB⟩
    · obtain ⟨_, removed, hremove⟩ := removeTask_returns hreadyA (Task.new taskId 1#8).id
      refine ⟨⟨[], removed⟩, ?_, loadable_nil placement removed⟩
      simp only [Scheduler.runPreemptiveTest, hcreate, hprepareA, hcreateB, hremove,
        Option.bind_eq_bind, Option.bind_some]
    · obtain ⟨_, _, slotB, _, htasksB⟩ := Scheduler.createTask_tasks hcreateB
      have hstoredB : withB.tasks slotB = some (Task.new (taskId + 1#64) 1#8) := by
        rw [htasksB, Function.update_self]
      obtain ⟨readyB, hprepareB, hreadyB, hloadsB, hothers⟩ :=
        prepareStored_spec placement symbols hwithB (hwithB.mem_of_slot hstoredB)
      have hkept : LoadsOwnStack placement withB taskId :=
        hloadsA.transfer hreadyA hwithB fun _ stored hslot hid =>
          ⟨stored, createTask_keeps hcreateB hslot, hid, rfl⟩
      have hidB : (Task.new (taskId + 1#64) 1#8).id = taskId + 1#64 := rfl
      have hne : taskId ≠ taskId + 1#64 := by bv_omega
      rw [hidB] at hloadsB hothers
      have hfinalA := (hothers taskId hne hkept).start hreadyB taskId
      have hfinalB := hloadsB.start hreadyB taskId
      refine ⟨⟨[taskId, taskId + 1#64],
        (readyB.setCurrent taskId).2.modifyTask taskId Task.startSlice⟩, ?_, ?_⟩
      · simp only [Scheduler.runPreemptiveTest, hcreate, hprepareA, hcreateB, hprepareB,
          Option.bind_eq_bind, Option.bind_some]
        rfl
      · exact loadable_pair placement hfinalA hfinalB

end Paths

/-- Every task a creator has stored can be loaded on its own stack exactly if
the creator initializes it in its slot; the other two are saved only by an id
that is taken, with which nothing is stored. -/
theorem stored_tasks_loadable_iff (placement : Placement) (symbols : Symbols)
    (path : CreationPath) (taskId : TaskId) (scheduler : Scheduler)
    (hscheduler : scheduler.Coherent) (hroom : scheduler.taskCount < maxSchedulerTasks) :
    ∃ creation, path.run placement symbols taskId scheduler = some creation ∧
      (creation.Loadable placement ↔
        path = .runPreemptiveTest ∨ taskId ∈ scheduler.runQueue.ids) := by
  cases path with
  | createInitialTask =>
      obtain ⟨creation, hrun, hiff⟩ :=
        createInitialTask_loadable_iff placement symbols hscheduler hroom taskId
      exact ⟨creation, hrun, by simp [hiff]⟩
  | runContextSwitchTest =>
      obtain ⟨creation, hrun, hiff⟩ :=
        runContextSwitchTest_loadable_iff placement hscheduler hroom taskId
      exact ⟨creation, hrun, by simp [hiff]⟩
  | runPreemptiveTest =>
      obtain ⟨creation, hrun, hloadable⟩ :=
        runPreemptiveTest_loadable placement symbols hscheduler hroom taskId
      exact ⟨creation, hrun, iff_of_true hloadable (Or.inl rfl)⟩

/-- The nine places one behind the other. -/
def Place.order : Place → Nat
  | .creator => 0
  | .slot index => index + 1

theorem Place.order_le (place : Place) : place.order ≤ 8 := by
  cases place with
  | creator => decide
  | slot index => exact index.isLt

theorem Place.order_injective {left right : Place} (hsame : left.order = right.order) :
    left = right := by
  cases left <;> cases right <;> simp [order, Fin.val_inj] at hsame ⊢
  exact hsame

def Place.stepped (place : Place) : U64 :=
  0x100000#64 + BitVec.ofNat 64 (0x8000 * place.order)

theorem Place.stepped_placed (place : Place) : Placed place.stepped := by
  have hle := place.order_le
  have haddress : place.stepped.toNat = 0x100000 + 0x8000 * place.order := by
    rw [stepped, BitVec.toNat_add, BitVec.toNat_ofNat, BitVec.toNat_ofNat]
    omega
  constructor <;> rw [haddress]
  · omega
  · rw [taskSize]
    omega

theorem Place.stepped_disjoint : Pairwise fun left right : Place =>
    Disjoint (span left.stepped taskSize) (span right.stepped taskSize) := by
  intro left right hne
  have hleft := left.order_le
  have hright := right.order_le
  rcases Nat.lt_or_gt_of_ne (mt Place.order_injective hne) with hless | hless
  · exact span_disjoint _ _ _ (by rw [taskSize]; omega) (by rw [taskSize]; omega)
  · exact (span_disjoint _ _ _ (by rw [taskSize]; omega) (by rw [taskSize]; omega)).symm

/-- A variable at `0x100000` and slots from `0x108000` on. -/
def steppedPlacement : Placement where
  address := Place.stepped
  placed := Place.stepped_placed
  disjoint := Place.stepped_disjoint

def linkedSymbols : Symbols := ⟨0x101000#64, 0x102000#64, by decide⟩

/-- The preemptive test on the empty scheduler. -/
theorem stored_tasks_loadable_empty_table :
    ∃ creation, CreationPath.runPreemptiveTest.run steppedPlacement linkedSymbols 1#64
        Scheduler.new = some creation ∧ creation.Loadable steppedPlacement := by
  obtain ⟨creation, hrun, hiff⟩ := stored_tasks_loadable_iff steppedPlacement linkedSymbols
    .runPreemptiveTest 1#64 Scheduler.new Scheduler.new_coherent (by decide)
  exact ⟨creation, hrun, hiff.mpr (Or.inl rfl)⟩

/-- The other two creators on the empty scheduler. -/
theorem initial_task_dangles :
    (∃ creation, CreationPath.createInitialTask.run steppedPlacement linkedSymbols 1#64
        Scheduler.new = some creation ∧ ¬ creation.Loadable steppedPlacement) ∧
      ∃ creation, CreationPath.runContextSwitchTest.run steppedPlacement linkedSymbols 1#64
        Scheduler.new = some creation ∧ ¬ creation.Loadable steppedPlacement := by
  have hids : Scheduler.new.runQueue.ids = ∅ := held_none
  constructor
  · obtain ⟨creation, hrun, hiff⟩ := createInitialTask_loadable_iff steppedPlacement linkedSymbols
      Scheduler.new_coherent (by decide) 1#64
    rw [hids, iff_false_right (Finset.notMem_empty _)] at hiff
    exact ⟨creation, hrun, hiff⟩
  · obtain ⟨creation, hrun, hiff⟩ := runContextSwitchTest_loadable_iff steppedPlacement
      Scheduler.new_coherent (by decide) 1#64
    rw [hids, iff_false_right (Finset.notMem_empty _)] at hiff
    exact ⟨creation, hrun, hiff⟩

end UnboundOS.Sched
