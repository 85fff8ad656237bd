import UnboundOS.Base.Run
import UnboundOS.Sched.RunQueue
import UnboundOS.X86.Memory

/-!
The scheduler of `scheduler/mod.rs`, with the task data of `scheduler/task.rs`
that it reads and writes. A reference from `task_mut` is a function on the task
in its slot. Functions with several returns carry the name of the one they
took, so that the fallback branches can be spoken about; the serial output of
the preemptive switch is left out, its counter is not.
-/

namespace UnboundOS.Sched

inductive TaskState where
  | ready
  | running
  | blocked
  | terminated
deriving DecidableEq

structure TaskContext where
  rsp : U64
  rbp : U64
  rbx : U64
  r12 : U64
  r13 : U64
  r14 : U64
  r15 : U64
  rip : U64
deriving DecidableEq

def TaskContext.empty : TaskContext := ⟨0#64, 0#64, 0#64, 0#64, 0#64, 0#64, 0#64, 0#64⟩

structure Task where
  id : TaskId
  state : TaskState
  priority : U8
  timeSliceTicks : U64
  totalTicks : U64
  context : TaskContext
  interruptRsp : U64
deriving DecidableEq

namespace Task

def new (id : TaskId) (priority : U8) : Task where
  id := id
  state := .ready
  priority := priority
  timeSliceTicks := 0#64
  totalTicks := 0#64
  context := TaskContext.empty
  interruptRsp := 0#64

/-- `task.interrupt_rsp = …; task.state = TaskState::Running`. -/
def interruptedAt (self : Task) (rsp : U64) : Task :=
  { self with interruptRsp := rsp, state := .running }

/-- Both tick counters, with `wrapping_add`. -/
def countTick (self : Task) : Task :=
  { self with
    totalTicks := self.totalTicks + 1#64
    timeSliceTicks := self.timeSliceTicks + 1#64 }

/-- `task.state = TaskState::Running; task.time_slice_ticks = 0`. -/
def startSlice (self : Task) : Task :=
  { self with state := .running, timeSliceTicks := 0#64 }

def setState (self : Task) (state : TaskState) : Task :=
  { self with state := state }

/-- `is_runnable`, which `schedule` and `timer_interrupt` do not call. -/
def isRunnable (self : Task) : Bool :=
  match self.state with
  | .ready => true
  | .running => true
  | _ => false

def setContext (self : Task) (context : TaskContext) : Task :=
  { self with context := context }

def interruptContextSize : U64 := 19#64 * 8#64

def initialStackReserve : U64 := 2048#64

/-- The pointer `initialize_interrupt_context` keeps in the task; the frame it
writes there is in memory. -/
def initializeInterruptContext (self : Task) (stackTop : U64) : Task :=
  { self with interruptRsp := stackTop - initialStackReserve - interruptContextSize }

end Task

def maxSchedulerTasks : Nat := 8

def defaultTimeSliceTicks : U64 := 5#64

structure Scheduler where
  runQueue : RunQueue
  currentTask : Option TaskId
  taskCount : Nat
  schedulerTicks : U64
  tasks : Fin maxSchedulerTasks → Option Task

/-- Where `create_task` returned. -/
inductive CreateExit where
  | tableFull
  | queueRefused
  | created
  | rolledBack
deriving DecidableEq

namespace Scheduler

def new : Scheduler where
  runQueue := RunQueue.new
  currentTask := none
  taskCount := 0
  schedulerTicks := 0#64
  tasks := fun _ => none

def createTask (self : Scheduler) (task : Task) :
    Checked (CreateExit × Option TaskId × Scheduler) :=
  if maxSchedulerTasks ≤ self.taskCount then some (.tableFull, none, self)
  else
    let (pushed, queue) := self.runQueue.push task.id
    if !pushed then some (.queueRefused, none, { self with runQueue := queue })
    else
      match firstFit (fun slot => (self.tasks slot).isNone) with
      | some slot =>
          some (.created, some task.id,
            { self with
              runQueue := queue
              tasks := Function.update self.tasks slot (some task)
              taskCount := self.taskCount + 1 })
      | none => do
          let (_, restored) ← queue.remove task.id
          some (.rolledBack, none, { self with runQueue := restored })

/-- The first slot whose task has the id. -/
def slotOf (self : Scheduler) (taskId : TaskId) : Option (Fin maxSchedulerTasks) :=
  firstFit (fun slot => (self.tasks slot).any (fun task => task.id == taskId))

def task (self : Scheduler) (taskId : TaskId) : Option Task :=
  (self.slotOf taskId).bind self.tasks

/-- `if let Some(task) = self.task_mut(task_id) { … }`. -/
def modifyTask (self : Scheduler) (taskId : TaskId) (change : Task → Task) : Scheduler :=
  match self.slotOf taskId with
  | some slot =>
      { self with tasks := Function.update self.tasks slot ((self.tasks slot).map change) }
  | none => self

def setCurrent (self : Scheduler) (taskId : TaskId) : Bool × Scheduler :=
  if !self.runQueue.contains taskId then (false, self)
  else (true, { self with currentTask := some taskId })

def tick (self : Scheduler) : Scheduler :=
  let counted := { self with schedulerTicks := self.schedulerTicks + 1#64 }
  match counted.currentTask with
  | some taskId => counted.modifyTask taskId Task.countTick
  | none => counted

/-- `timer_interrupt` once the frame is saved and the tick counted. -/
def ticked (self : Scheduler) (taskId : TaskId) (rsp : U64) : Scheduler :=
  (self.modifyTask taskId (·.interruptedAt rsp)).tick

/-- The slice test of `timer_interrupt`. -/
def sliceExpired (self : Scheduler) (taskId : TaskId) : Bool :=
  match self.task taskId with
  | some task => defaultTimeSliceTicks ≤ task.timeSliceTicks
  | none => false

def schedule (self : Scheduler) : Scheduler :=
  if self.runQueue.isEmpty then { self with currentTask := none }
  else
    let queue := self.runQueue.rotate
    { self with runQueue := queue, currentTask := queue.first }

def removeTask (self : Scheduler) (taskId : TaskId) : Checked (Bool × Scheduler) := do
  let (removed, queue) ← self.runQueue.remove taskId
  if !removed then some (false, { self with runQueue := queue })
  else
    some (true, {
      runQueue := queue
      currentTask := if self.currentTask = some taskId then queue.first else self.currentTask
      taskCount := if 0 < self.taskCount then self.taskCount - 1 else self.taskCount
      schedulerTicks := self.schedulerTicks
      tasks :=
        match self.slotOf taskId with
        | some slot => Function.update self.tasks slot none
        | none => self.tasks })

end Scheduler

def readInterruptFrameWord (memory : X86.Memory) (rsp offset : U64) : U64 :=
  memory.read64 (rsp + offset)

def isCanonicalAddress (addr : U64) : Bool :=
  addr >>> 48 = 0x0000#64 || addr >>> 48 = 0xFFFF#64

def validateInterruptFrame (memory : X86.Memory) (rsp : U64) : Bool :=
  if rsp = 0#64 then false
  else
    let vector := readInterruptFrameWord memory rsp (15#64 * 8#64)
    let rip := readInterruptFrameWord memory rsp (16#64 * 8#64)
    let cs := readInterruptFrameWord memory rsp (17#64 * 8#64)
    let rflags := readInterruptFrameWord memory rsp (18#64 * 8#64)
    if vector ≠ 0x20#64 then false
    else if cs ≠ 0x08#64 then false
    else if rflags &&& 0x2#64 = 0#64 then false
    else if !isCanonicalAddress rip then false
    else if rip < 0x100000#64 || 0x200000#64 ≤ rip then false
    else true

/-- Where `timer_interrupt` returned. -/
inductive TimerExit where
  | noCurrent
  | currentMissing
  | sliceLeft
  | noNext
  | sameTask
  | nextMissing
  | invalidFrame
  | switched
deriving DecidableEq

/-- The statics `SCHEDULER` and `PREEMPT_SWITCH_DEBUG_COUNT`. -/
structure Statics where
  scheduler : Scheduler
  preemptSwitchDebugCount : U64

namespace Statics

def initial : Statics := ⟨Scheduler.new, 0#64⟩

/-- The end of `timer_interrupt`, once another task has been selected: validate
its frame and either go back to the current task or switch. -/
def preempt (self : Statics) (memory : X86.Memory) (currentId nextId : TaskId) (nextRsp : U64) :
    Checked (TimerExit × U64 × Statics) := do
  let _ ← checkedAdd self.preemptSwitchDebugCount 1#64
  let count := self.preemptSwitchDebugCount + 1#64
  if !validateInterruptFrame memory nextRsp then
    let back := { self.scheduler with currentTask := some currentId }
    let resumed := back.modifyTask currentId Task.startSlice
    some (.invalidFrame, 0#64, ⟨resumed.modifyTask nextId (·.setState .ready), count⟩)
  else
    let stopped := self.scheduler.modifyTask currentId (·.setState .ready)
    some (.switched, nextRsp, ⟨stopped.modifyTask nextId Task.startSlice, count⟩)

/-- `timer_interrupt` from the selection of the next task on. -/
def selectNext (self : Statics) (memory : X86.Memory) (currentId : TaskId) :
    Checked (TimerExit × U64 × Statics) :=
  let scheduled := self.scheduler.schedule
  match scheduled.currentTask with
  | none =>
      some (.noNext, 0#64,
        { self with scheduler := scheduled.modifyTask currentId Task.startSlice })
  | some nextId =>
      if nextId = currentId then
        some (.sameTask, 0#64,
          { self with scheduler := scheduled.modifyTask currentId Task.startSlice })
      else
        match scheduled.task nextId with
        | none =>
            let back := { scheduled with currentTask := some currentId }
            some (.nextMissing, 0#64,
              { self with scheduler := back.modifyTask currentId Task.startSlice })
        | some next =>
            { self with scheduler := scheduled }.preempt memory currentId nextId next.interruptRsp

def timerInterrupt (self : Statics) (memory : X86.Memory) (currentInterruptRsp : U64) :
    Checked (TimerExit × U64 × Statics) :=
  match self.scheduler.currentTask with
  | none => some (.noCurrent, 0#64, self)
  | some currentId =>
      match self.scheduler.task currentId with
      | none => some (.currentMissing, 0#64, self)
      | some _ =>
          let ticked := self.scheduler.ticked currentId currentInterruptRsp
          if !ticked.sliceExpired currentId then
            some (.sliceLeft, 0#64, { self with scheduler := ticked })
          else { self with scheduler := ticked }.selectNext memory currentId

/-- The scheduler side of `switch_kernel_to_task`. -/
def switchKernelToTask (self : Statics) (taskId : TaskId) : Statics :=
  match self.scheduler.task taskId with
  | none => self
  | some _ => { self with scheduler := { self.scheduler with currentTask := some taskId } }

/-- The scheduler side of `switch_task_to_task`; `saved` is what the context
switch stores for the old task. -/
def switchTaskToTask (self : Statics) (oldTaskId newTaskId : TaskId) (saved : TaskContext) :
    Statics :=
  if oldTaskId = newTaskId then self
  else
    match self.scheduler.task oldTaskId, self.scheduler.task newTaskId with
    | some _, some _ =>
        let moved := { self.scheduler with currentTask := some newTaskId }
        { self with scheduler := moved.modifyTask oldTaskId (·.setContext saved) }
    | _, _ => self

/-- The scheduler side of `switch_task_to_kernel`. Without the task the source
spins forever and the scheduler stays as it is. -/
def switchTaskToKernel (self : Statics) (taskId : TaskId) (saved : TaskContext) : Statics :=
  match self.scheduler.task taskId with
  | none => self
  | some _ =>
      let parked := { self.scheduler with currentTask := none }
      { self with scheduler := parked.modifyTask taskId (·.setContext saved) }

end Statics

end UnboundOS.Sched
