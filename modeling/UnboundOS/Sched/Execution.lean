import UnboundOS.Sched.TaskTable

/-!
The scheduler and the processor. Beside the scheduler's own state an execution
records which task is on the processor and where the frame of every task lies:
the stack pointer of the last interrupt that stopped it, or its prepared frame.
Both are bookkeeping of the machine, not of the code. Every reachable execution
has the current task on the processor, and a switch always returns the frame of
the task it made current.
-/

namespace UnboundOS.Sched

/-- A new task, with an interrupt context on its stack if it is to be preempted
into. The source prepares the context right after `create_task`, because the
stack lies inside the task; nothing runs in between. -/
def freshTask (id : TaskId) (priority : U8) (stackTop : Option U64) : Task :=
  match stackTop with
  | some top => (Task.new id priority).initializeInterruptContext top
  | none => Task.new id priority

/-- The start of a task in `run_preemptive_test`: `set_current`, then state and
slice of the task; `switch_kernel_to_task` sets the same current task again. -/
def Scheduler.start (self : Scheduler) (taskId : TaskId) : Scheduler :=
  (self.setCurrent taskId).2.modifyTask taskId Task.startSlice

structure Execution where
  statics : Statics
  /-- The task on the processor. -/
  executing : Option TaskId
  /-- Where the frame of a task lies, zero if it has none. -/
  frames : TaskId → U64

namespace Execution

def initial : Execution := ⟨Statics.initial, none, fun _ => 0#64⟩

/-- Another scheduler and other records, with the debug counter as it was. -/
def moved (self : Execution) (scheduler : Scheduler) (executing : Option TaskId)
    (frames : TaskId → U64) : Execution :=
  ⟨{ self.statics with scheduler := scheduler }, executing, frames⟩

/-- One step of scheduler and processor together. A resumed frame belongs to a
task whose frame lies there; if that is so of several, the new current task is
taken to be meant. -/
inductive Step : Execution → Execution → Prop where
  | createRefused {self : Execution} {exit : CreateExit} {next : Scheduler} (id : TaskId)
      (priority : U8) (stackTop : Option U64)
      (hcreate : self.statics.scheduler.createTask (freshTask id priority stackTop) =
        some (exit, none, next)) :
      Step self (self.moved next self.executing self.frames)
  | created {self : Execution} {exit : CreateExit} {taskId : TaskId} {next : Scheduler}
      (id : TaskId) (priority : U8) (stackTop : Option U64)
      (hcreate : self.statics.scheduler.createTask (freshTask id priority stackTop) =
        some (exit, some taskId, next)) :
      Step self (self.moved next self.executing
        (Function.update self.frames id (freshTask id priority stackTop).interruptRsp))
  | start {self : Execution} {task : Task} (taskId : TaskId) (hidle : self.executing = none)
      (htask : self.statics.scheduler.task taskId = some task) :
      Step self (self.moved (self.statics.scheduler.start taskId) (some taskId) self.frames)
  | removeTask {self : Execution} {removed : Bool} {next : Scheduler} (taskId : TaskId)
      (hother : self.statics.scheduler.currentTask ≠ some taskId)
      (hremove : self.statics.scheduler.removeTask taskId = some (removed, next)) :
      Step self (self.moved next self.executing self.frames)
  | continued {self : Execution} {running : TaskId} {exit : TimerExit} {next : Statics}
      (memory : X86.Memory) (rsp : U64) (hrunning : self.executing = some running)
      (hrsp : rsp ≠ 0#64)
      (hreturn : self.statics.timerInterrupt memory rsp = some (exit, 0#64, next)) :
      Step self ⟨next, some running, Function.update self.frames running rsp⟩
  | resumed {self : Execution} {running owner : TaskId} {exit : TimerExit} {result : U64}
      {next : Statics} (memory : X86.Memory) (rsp : U64) (hrunning : self.executing = some running)
      (hrsp : rsp ≠ 0#64)
      (hreturn : self.statics.timerInterrupt memory rsp = some (exit, result, next))
      (hresult : result ≠ 0#64)
      (howner : Function.update self.frames running rsp owner = result)
      (hmeant : ∀ current, next.scheduler.currentTask = some current →
        Function.update self.frames running rsp current = result → owner = current) :
      Step self ⟨next, some owner, Function.update self.frames running rsp⟩

inductive Reachable : Execution → Prop where
  | initial : Reachable initial
  | step {self next : Execution} (hself : Reachable self) (hstep : Step self next) : Reachable next

end Execution

namespace Scheduler

/-- Every task's saved pointer is where its frame lies, and no task but the one
on the processor is in state `Running`. -/
def Records (self : Scheduler) (executing : Option TaskId) (frames : TaskId → U64) : Prop :=
  ∀ slot task, self.tasks slot = some task →
    task.interruptRsp = frames task.id ∧ (task.state = .running → executing = some task.id)

/-- The same record, of a map of tasks. -/
def Recorded (lookup : TaskId → Option Task) (executing : Option TaskId) (frames : TaskId → U64) :
    Prop :=
  ∀ taskId task, lookup taskId = some task →
    task.interruptRsp = frames taskId ∧ (task.state = .running → executing = some taskId)

theorem records_iff {self : Scheduler} (hdistinct : Distinct self.ids) {executing : Option TaskId}
    {frames : TaskId → U64} :
    self.Records executing frames ↔ Recorded self.task executing frames := by
  constructor
  · intro hself taskId task htask
    obtain ⟨slot, hslot, rfl⟩ := task_eq_some htask
    exact hself slot task hslot
  · intro hself slot task hslot
    exact hself task.id task ((task_eq_some_iff hdistinct).mpr ⟨slot, hslot, rfl⟩)

section Recorded

variable {lookup : TaskId → Option Task} {executing : Option TaskId} {frames : TaskId → U64}
  {taskId : TaskId} {task : Task}

/-- Writing one task, with the others recorded as they are to be. -/
theorem recorded_update {written : Task} (hrsp : written.interruptRsp = frames taskId)
    (hstate : written.state = .running → executing = some taskId)
    (hothers : ∀ other found, other ≠ taskId → lookup other = some found →
      found.interruptRsp = frames other ∧ (found.state = .running → executing = some other)) :
    Recorded (Function.update lookup taskId (some written)) executing frames := by
  intro other found hfound
  by_cases hother : other = taskId
  · rw [hother, Function.update_self] at hfound
    cases hfound
    rw [hother]
    exact ⟨hrsp, hstate⟩
  · rw [Function.update_of_ne hother] at hfound
    exact hothers other found hother hfound

theorem Recorded.interrupted (hlookup : Recorded lookup (some taskId) frames) (task : Task)
    (rsp : U64) :
    Recorded (Function.update lookup taskId (some (task.interruptedAt rsp).countTick))
      (some taskId) (Function.update frames taskId rsp) := by
  refine recorded_update ?_ (fun _ => rfl) fun other found hother hfound => ?_
  · rw [Function.update_self]
    rfl
  · rw [Function.update_of_ne hother]
    exact hlookup other found hfound

theorem Recorded.startSlice (hlookup : Recorded lookup (some taskId) frames)
    (htask : lookup taskId = some task) :
    Recorded (Function.update lookup taskId (some task.startSlice)) (some taskId) frames :=
  recorded_update (hlookup taskId task htask).1 (fun _ => rfl)
    fun other found _ hfound => hlookup other found hfound

theorem Recorded.setReady (hlookup : Recorded lookup executing frames)
    (htask : lookup taskId = some task) :
    Recorded (Function.update lookup taskId (some (task.setState .ready))) executing frames :=
  recorded_update (hlookup taskId task htask).1 (fun hstate => by cases hstate)
    fun other found _ hfound => hlookup other found hfound

theorem Recorded.stop (hlookup : Recorded lookup (some taskId) frames)
    (htask : lookup taskId = some task) :
    Recorded (Function.update lookup taskId (some (task.setState .ready))) none frames := by
  refine recorded_update (hlookup taskId task htask).1 (fun hstate => by cases hstate)
    fun other found hother hfound => ?_
  obtain ⟨hrsp, hrunning⟩ := hlookup other found hfound
  exact ⟨hrsp, fun hstate => absurd (Option.some.inj (hrunning hstate)).symm hother⟩

/-- Starting a task when no other is in state `Running`. -/
theorem Recorded.start (hlookup : Recorded lookup none frames)
    (htask : lookup taskId = some task) :
    Recorded (Function.update lookup taskId (some task.startSlice)) (some taskId) frames := by
  refine recorded_update (hlookup taskId task htask).1 (fun _ => rfl)
    fun other found _ hfound => ?_
  obtain ⟨hrsp, hrunning⟩ := hlookup other found hfound
  exact ⟨hrsp, fun hstate => by cases hrunning hstate⟩

end Recorded

end Scheduler

theorem validateInterruptFrame_ne_zero {memory : X86.Memory} {rsp : U64}
    (hvalid : validateInterruptFrame memory rsp = true) : rsp ≠ 0#64 := by
  rintro rfl
  cases hvalid

namespace Statics

/-- What a timer interrupt of the task `running` returns: zero, and that task
goes on, or a validated frame, which is that of the task made current. -/
def Resumes (memory : X86.Memory) (running : TaskId) (frames : TaskId → U64)
    (result : Checked (TimerExit × U64 × Statics)) : Prop :=
  ∀ exit rsp next, result = some (exit, rsp, next) →
    (rsp = 0#64 ∧ next.scheduler.currentTask = some running ∧
      next.scheduler.Records (some running) frames) ∨
    (rsp ≠ 0#64 ∧ validateInterruptFrame memory rsp = true ∧
      ∃ nextId, next.scheduler.currentTask = some nextId ∧ rsp = frames nextId ∧
        next.scheduler.Records (some nextId) frames)

section Resumes

variable {self : Statics} {memory : X86.Memory} {running : TaskId} {frames : TaskId → U64}

/-- The end of an interrupt whose task has used up its slice. -/
theorem selected_resumes {scheduler next : Scheduler} {task : Task} {result : U64}
    (hselected : scheduler.Selected memory running task result next)
    (htask : scheduler.task running = some task)
    (hrecorded : Scheduler.Recorded scheduler.task (some running) frames) :
    (result = 0#64 ∧ next.currentTask = some running ∧
      Scheduler.Recorded next.task (some running) frames) ∨
    (result ≠ 0#64 ∧ validateInterruptFrame memory result = true ∧
      ∃ nextId, next.currentTask = some nextId ∧ result = frames nextId ∧
        Scheduler.Recorded next.task (some nextId) frames) := by
  cases hselected with
  | same _ hcurrent htasks =>
      rw [htasks]
      exact Or.inl ⟨rfl, hcurrent, hrecorded.startSlice htask⟩
  | refused _ hother hnext _ hcurrent htasks =>
      rw [htasks]
      refine Or.inl ⟨rfl, hcurrent, (hrecorded.startSlice htask).setReady ?_⟩
      rw [Function.update_of_ne hother, hnext]
  | switched _ hother hnext hvalid hcurrent htasks =>
      rw [htasks]
      refine Or.inr ⟨validateInterruptFrame_ne_zero hvalid, hvalid, _, hcurrent,
        (hrecorded _ _ hnext).1, (hrecorded.stop htask).start ?_⟩
      rw [Function.update_of_ne hother, hnext]

theorem timerInterrupt_coherent {self next : Statics} (hself : self.scheduler.Coherent)
    {memory : X86.Memory} {rsp result : U64} {exit : TimerExit}
    (hreturn : self.timerInterrupt memory rsp = some (exit, result, next)) :
    next.scheduler.Coherent := by
  rcases timerInterrupt_advances hself memory rsp with ⟨_, hpanic⟩ | ⟨_, _, _, hafter, _, hnext, _⟩
  · rw [hpanic] at hreturn
    cases hreturn
  · rw [hafter] at hreturn
    cases hreturn
    exact hnext

/-- The interrupt is recorded for the task it stopped, whichever way it ends. -/
theorem timerInterrupt_resumes (memory : X86.Memory) (hself : self.scheduler.Coherent)
    (hcurrent : self.scheduler.currentTask = some running)
    (hrecords : self.scheduler.Records (some running) frames) (rsp : U64) :
    Resumes memory running (Function.update frames running rsp)
      (self.timerInterrupt memory rsp) := by
  intro exit result next hreturn
  obtain ⟨task, htask⟩ := hself.task_of_mem (hself.current_mem running hcurrent)
  have hrecorded := (Scheduler.records_iff hself.distinct).mp hrecords
  have hsaved := hrecorded.interrupted task rsp
  simp only [Scheduler.records_iff (timerInterrupt_coherent hself hreturn).distinct]
  cases timerInterrupt_interrupted self hself hcurrent htask hreturn with
  | sliceLeft _ hstay htasks =>
      rw [htasks]
      exact Or.inl ⟨rfl, hstay, hsaved⟩
  | sliceOver _ _ htasks hselected =>
      have htask := congrFun htasks running
      rw [Function.update_self] at htask
      rw [← htasks] at hsaved
      exact selected_resumes hselected htask hsaved

end Resumes

end Statics

@[simp] theorem freshTask_id (id : TaskId) (priority : U8) (stackTop : Option U64) :
    (freshTask id priority stackTop).id = id := by
  cases stackTop <;> rfl

@[simp] theorem freshTask_state (id : TaskId) (priority : U8) (stackTop : Option U64) :
    (freshTask id priority stackTop).state = .ready := by
  cases stackTop <;> rfl

namespace Execution

/-- Scheduler and processor agree. -/
structure Tracked (execution : Execution) : Prop where
  coherent : execution.statics.scheduler.Coherent
  current : execution.statics.scheduler.currentTask = execution.executing
  records : execution.statics.scheduler.Records execution.executing execution.frames

theorem tracked_moved {self : Execution} {scheduler : Scheduler} {executing : Option TaskId}
    {frames : TaskId → U64} (hcoherent : scheduler.Coherent)
    (hcurrent : scheduler.currentTask = executing) (hrecords : scheduler.Records executing frames) :
    (self.moved scheduler executing frames).Tracked :=
  ⟨hcoherent, hcurrent, hrecords⟩

theorem initial_tracked : initial.Tracked :=
  ⟨Scheduler.new_coherent, rfl, fun _ _ htask => by cases htask⟩

section Steps

variable {self next : Execution}

theorem tracked_createRefused {exit : CreateExit} {scheduler : Scheduler} {task : Task}
    (hself : self.Tracked)
    (hcreate : self.statics.scheduler.createTask task = some (exit, none, scheduler)) :
    (self.moved scheduler self.executing self.frames).Tracked := by
  rcases Scheduler.createTask_cases hself.coherent task with ⟨_, _, _, hrefused⟩ |
    ⟨_, _, _, haccepted, _⟩
  · rw [hrefused] at hcreate
    cases hcreate
    exact hself
  · rw [haccepted] at hcreate
    cases hcreate

theorem tracked_created {exit : CreateExit} {taskId : TaskId} {scheduler : Scheduler}
    (hself : self.Tracked) (id : TaskId) (priority : U8) (stackTop : Option U64)
    (hcreate : self.statics.scheduler.createTask (freshTask id priority stackTop) =
      some (exit, some taskId, scheduler)) :
    (self.moved scheduler self.executing
      (Function.update self.frames id (freshTask id priority stackTop).interruptRsp)).Tracked := by
  obtain ⟨hcurrent, _, slot, hfree, htasks⟩ := Scheduler.createTask_tasks hcreate
  have hcoherent : scheduler.Coherent := by
    rcases Scheduler.createTask_cases hself.coherent (freshTask id priority stackTop) with
      ⟨_, _, _, hrefused⟩ | ⟨_, _, _, haccepted, hnext⟩
    · rw [hrefused] at hcreate
      cases hcreate
    · rw [haccepted] at hcreate
      cases hcreate
      exact hnext
  have hnewId : scheduler.ids slot = some id := by
    rw [Scheduler.ids, htasks, Function.update_self, Option.map_some, freshTask_id]
  refine tracked_moved hcoherent (hcurrent.trans hself.current) fun other task htask => ?_
  by_cases hother : other = slot
  · rw [htasks, hother, Function.update_self] at htask
    cases htask
    refine ⟨?_, fun hstate => ?_⟩
    · rw [freshTask_id, Function.update_self]
    · rw [freshTask_state] at hstate
      cases hstate
  · have hid : task.id ≠ id := by
      rintro rfl
      refine hother (hcoherent.distinct other slot task.id ?_ hnewId)
      rw [Scheduler.ids, htask, Option.map_some]
    rw [htasks, Function.update_of_ne hother] at htask
    rw [Function.update_of_ne hid]
    exact hself.records other task htask

theorem tracked_start (hself : self.Tracked) {task : Task} {taskId : TaskId}
    (hidle : self.executing = none)
    (htask : self.statics.scheduler.task taskId = some task) :
    (self.moved (self.statics.scheduler.start taskId) (some taskId) self.frames).Tracked := by
  have hmem := hself.coherent.mem_of_task htask
  have hstart : self.statics.scheduler.start taskId =
      ({ self.statics.scheduler with currentTask := some taskId } : Scheduler).modifyTask taskId
        Task.startSlice := by
    unfold Scheduler.start Scheduler.setCurrent
    rw [RunQueue.contains_iff.mpr hmem]
    rfl
  have hcoherent := hself.coherent.setCurrentTask hmem
  have hcurrent := Scheduler.modifyTask_currentTask
    { self.statics.scheduler with currentTask := some taskId } taskId Task.startSlice
  have hnext := hcoherent.modifyTask taskId Task.startSlice fun _ => rfl
  have htasks := Scheduler.task_modifyTask
    { self.statics.scheduler with currentTask := some taskId } hcoherent.distinct taskId
    Task.startSlice fun _ => rfl
  have hlookup : ({ self.statics.scheduler with currentTask := some taskId } : Scheduler).task =
      self.statics.scheduler.task := Scheduler.task_congr rfl
  have hrecorded := (Scheduler.records_iff hself.coherent.distinct).mp hself.records
  rw [hidle] at hrecorded
  rw [hlookup, htask, Option.map_some] at htasks
  rw [← hstart] at hcurrent hnext htasks
  refine tracked_moved hnext hcurrent ((Scheduler.records_iff hnext.distinct).mpr ?_)
  rw [htasks]
  exact hrecorded.start htask

theorem tracked_removeTask (hself : self.Tracked) {removed : Bool} {scheduler : Scheduler}
    {taskId : TaskId} (hother : self.statics.scheduler.currentTask ≠ some taskId)
    (hremove : self.statics.scheduler.removeTask taskId = some (removed, scheduler)) :
    (self.moved scheduler self.executing self.frames).Tracked := by
  obtain ⟨hcurrent, htasks⟩ := Scheduler.removeTask_tasks hremove
  have hcoherent : scheduler.Coherent := by
    rcases Scheduler.removeTask_cases hself.coherent taskId with
      ⟨_, habsent⟩ | ⟨_, _, htaken, hnext⟩
    · rw [habsent] at hremove
      cases hremove
      exact hself.coherent
    · rw [htaken] at hremove
      cases hremove
      exact hnext
  refine tracked_moved hcoherent ((hcurrent hother).trans hself.current) fun slot task htask => ?_
  exact hself.records slot task (htasks slot task htask)

theorem Step.tracked (hself : self.Tracked) (hstep : Step self next) : next.Tracked := by
  cases hstep with
  | createRefused id priority stackTop hcreate => exact tracked_createRefused hself hcreate
  | created id priority stackTop hcreate => exact tracked_created hself id priority stackTop hcreate
  | start taskId hidle htask => exact tracked_start hself hidle htask
  | removeTask taskId hother hremove => exact tracked_removeTask hself hother hremove
  | continued memory rsp hrunning _ hreturn =>
      have hcoherent := Statics.timerInterrupt_coherent hself.coherent hreturn
      have hresumes := Statics.timerInterrupt_resumes memory hself.coherent
        (hself.current.trans hrunning) (hrunning ▸ hself.records) rsp
      rcases hresumes _ _ _ hreturn with ⟨_, hcurrent, hrecords⟩ | ⟨hnonzero, _⟩
      · exact ⟨hcoherent, hcurrent, hrecords⟩
      · exact absurd rfl hnonzero
  | resumed memory rsp hrunning _ hreturn hresult _ hmeant =>
      have hcoherent := Statics.timerInterrupt_coherent hself.coherent hreturn
      have hresumes := Statics.timerInterrupt_resumes memory hself.coherent
        (hself.current.trans hrunning) (hrunning ▸ hself.records) rsp
      rcases hresumes _ _ _ hreturn with ⟨hzero, _⟩ | ⟨_, _, nextId, hcurrent, hframe, hrecords⟩
      · exact absurd hzero hresult
      · have howner := hmeant nextId hcurrent hframe.symm
        rw [howner]
        exact ⟨hcoherent, hcurrent, hrecords⟩

end Steps

theorem Reachable.tracked {execution : Execution} (hreachable : Reachable execution) :
    execution.Tracked := by
  induction hreachable with
  | initial => exact initial_tracked
  | step _ hstep ih => exact hstep.tracked ih

/-- In every reachable execution the current task is the one on the processor
and no other is in state `Running`; a timer interrupt that does not return zero
returns a valid frame, namely where the new current task was last interrupted
or prepared. -/
theorem current_task_executes {execution : Execution} (hreachable : Reachable execution) :
    execution.statics.scheduler.currentTask = execution.executing ∧
    (∀ slot task, execution.statics.scheduler.tasks slot = some task → task.state = .running →
      execution.executing = some task.id) ∧
    ∀ running memory rsp exit result next, execution.executing = some running → rsp ≠ 0#64 →
      execution.statics.timerInterrupt memory rsp = some (exit, result, next) → result ≠ 0#64 →
      validateInterruptFrame memory result = true ∧
        ∃ nextId, next.scheduler.currentTask = some nextId ∧
          result = Function.update execution.frames running rsp nextId := by
  have htracked := hreachable.tracked
  refine ⟨htracked.current, fun slot task htask => (htracked.records slot task htask).2, ?_⟩
  intro running memory rsp exit result next hrunning _ hreturn hresult
  have hresumes := Statics.timerInterrupt_resumes memory htracked.coherent
    (htracked.current.trans hrunning) (hrunning ▸ htracked.records) rsp
  rcases hresumes exit result next hreturn with
    ⟨hzero, _⟩ | ⟨_, hvalid, nextId, hcurrent, hframe, _⟩
  · exact absurd hzero hresult
  · exact ⟨hvalid, nextId, hcurrent, hframe⟩

/-! ### Runs that can be computed -/

inductive Action where
  | create (id : TaskId) (priority : U8) (stackTop : Option U64)
  | start (taskId : TaskId)
  | removeTask (taskId : TaskId)
  | timerInterrupt (memory : X86.Memory) (rsp : U64)

/-- The step an action stands for, if it is allowed and does not panic. -/
def perform (self : Execution) : Action → Option Execution
  | .create id priority stackTop => do
      let task := freshTask id priority stackTop
      let (_, created, next) ← self.statics.scheduler.createTask task
      some (self.moved next self.executing
        (if created.isSome then Function.update self.frames id task.interruptRsp else self.frames))
  | .start taskId =>
      if self.executing = none ∧ (self.statics.scheduler.task taskId).isSome then
        some (self.moved (self.statics.scheduler.start taskId) (some taskId) self.frames)
      else none
  | .removeTask taskId =>
      if self.statics.scheduler.currentTask = some taskId then none
      else do
        let (_, next) ← self.statics.scheduler.removeTask taskId
        some (self.moved next self.executing self.frames)
  | .timerInterrupt memory rsp =>
      if rsp = 0#64 then none
      else do
        let running ← self.executing
        let (_, result, next) ← self.statics.timerInterrupt memory rsp
        let executing := if result = 0#64 then some running else next.scheduler.currentTask
        some ⟨next, executing, Function.update self.frames running rsp⟩

theorem perform_step {self next : Execution} (hself : self.Tracked) {action : Action}
    (hnext : self.perform action = some next) : Step self next := by
  cases action with
  | create id priority stackTop =>
      obtain ⟨⟨exit, created, scheduler⟩, hcreate, hmoved⟩ := Option.bind_eq_some_iff.mp hnext
      cases hmoved
      cases created with
      | none => exact .createRefused id priority stackTop hcreate
      | some taskId => exact .created id priority stackTop hcreate
  | start taskId =>
      obtain ⟨⟨hidle, hexists⟩, hmoved⟩ := Option.ite_none_right_eq_some.mp hnext
      obtain rfl := Option.some.inj hmoved
      obtain ⟨task, htask⟩ := Option.isSome_iff_exists.mp hexists
      exact .start taskId hidle htask
  | removeTask taskId =>
      obtain ⟨hother, hrest⟩ := Option.ite_none_left_eq_some.mp hnext
      obtain ⟨⟨removed, scheduler⟩, hremove, hmoved⟩ := Option.bind_eq_some_iff.mp hrest
      cases hmoved
      exact .removeTask taskId hother hremove
  | timerInterrupt memory rsp =>
      obtain ⟨hrsp, hrest⟩ := Option.ite_none_left_eq_some.mp hnext
      obtain ⟨running, hrunning, hinterrupt⟩ := Option.bind_eq_some_iff.mp hrest
      obtain ⟨⟨exit, result, statics⟩, hreturn, hmoved⟩ := Option.bind_eq_some_iff.mp hinterrupt
      cases hmoved
      have hresumes := Statics.timerInterrupt_resumes memory hself.coherent
        (hself.current.trans hrunning) (hrunning ▸ hself.records) rsp
      rcases hresumes _ _ _ hreturn with ⟨rfl, _⟩ | ⟨hresult, _, nextId, hcurrent, hframe, _⟩
      · exact .continued memory rsp hrunning hrsp hreturn
      · rw [if_neg hresult, hcurrent]
        refine .resumed memory rsp hrunning hrsp hreturn hresult hframe.symm ?_
        exact fun current hsame _ => Option.some.inj (hcurrent.symm.trans hsame)

def run (self : Execution) (actions : List Action) : Option Execution :=
  actions.foldlM perform self

theorem Reachable.run {self final : Execution} (hself : Reachable self) {actions : List Action}
    (hrun : self.run actions = some final) : Reachable final := by
  induction actions generalizing self with
  | nil =>
      cases hrun
      exact hself
  | cons action rest ih =>
      rw [Execution.run, List.foldlM_cons] at hrun
      obtain ⟨next, hnext, hrest⟩ := Option.bind_eq_some_iff.mp hrun
      exact ih (hself.step (perform_step hself.tracked hnext)) hrest

/-- Memory with the prepared frame of the second task, and a frame of the first
one lower on its stack. -/
def pairMemory : X86.Memory :=
  X86.Memory.writeWords (X86.Memory.writeWords (fun _ => 0#8) 0x26E0#64
    [0x20#64, 0x100000#64, 0x08#64, 0x2#64]) 0x47E0#64 [0x20#64, 0x100000#64, 0x08#64, 0x2#64]

/-- Two prepared tasks: a slice of the first, and one of the second up to its
last tick. -/
def pairActions : List Action :=
  [.create 1#64 1#8 (some 0x3000#64), .create 2#64 1#8 (some 0x5000#64), .start 1#64] ++
    List.replicate 5 (.timerInterrupt pairMemory 0x2668#64) ++
    List.replicate 4 (.timerInterrupt pairMemory 0x4668#64)

/-- The two tasks take turns: the tenth interrupt resumes the first one where the
fifth stopped it. -/
theorem current_task_executes_switch_back :
    ∃ execution exit next, initial.run pairActions = some execution ∧
      execution.statics.scheduler.currentTask = some 2#64 ∧
      execution.statics.timerInterrupt pairMemory 0x4668#64 = some (exit, 0x2668#64, next) ∧
      validateInterruptFrame pairMemory 0x2668#64 = true ∧
      next.scheduler.currentTask = some 1#64 ∧ execution.frames 1#64 = 0x2668#64 := by
  have hstops : (initial.run pairActions).map (fun execution =>
      (execution.executing, execution.frames 1#64)) = some (some 2#64, 0x2668#64) := by
    decide +kernel
  have hswitch : (initial.run pairActions).bind (fun execution =>
      (execution.statics.timerInterrupt pairMemory 0x4668#64).map fun (_, result, next) =>
        (result, next.scheduler.currentTask)) = some (0x2668#64, some 1#64) := by
    decide +kernel
  obtain ⟨execution, hrun, hreturn⟩ := Option.bind_eq_some_iff.mp hswitch
  obtain ⟨⟨exit, result, next⟩, hinterrupt, hresult⟩ := Option.map_eq_some_iff.mp hreturn
  obtain ⟨rfl, hnext⟩ := Prod.mk.inj hresult
  rw [hrun] at hstops
  obtain ⟨hexecuting, hframe⟩ := Prod.mk.inj (Option.some.inj hstops)
  obtain ⟨hcurrent, _, hreturns⟩ := current_task_executes (Reachable.initial.run hrun)
  obtain ⟨hvalid, _⟩ := hreturns 2#64 pairMemory 0x4668#64 exit 0x2668#64 next hexecuting
    (by decide) hinterrupt (by decide)
  exact ⟨execution, exit, next, hrun, hcurrent.trans hexecuting, hinterrupt, hvalid, hnext, hframe⟩

end Execution

end UnboundOS.Sched
