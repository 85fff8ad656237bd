import UnboundOS.Arch.CallAlignment
import UnboundOS.Arch.DescriptorTables
import UnboundOS.Arch.ExceptionFrame
import UnboundOS.Arch.ExceptionReturn
import UnboundOS.Arch.Idt
import UnboundOS.Arch.Irq
import UnboundOS.Arch.Privilege
import UnboundOS.Arch.Syscall
import UnboundOS.Arch.UserState
import UnboundOS.Base.Bitmap
import UnboundOS.Base.Checked
import UnboundOS.Base.Fallible
import UnboundOS.Base.Generation
import UnboundOS.Base.Interleaving
import UnboundOS.Base.Outbox
import UnboundOS.Base.Pool
import UnboundOS.Base.RadixForest
import UnboundOS.Base.Registry
import UnboundOS.Base.Ring
import UnboundOS.Base.Rotation
import UnboundOS.Base.Run
import UnboundOS.Base.Scan
import UnboundOS.Base.Shares
import UnboundOS.Base.SlotSet
import UnboundOS.Devices.Pic
import UnboundOS.Devices.Timer
import UnboundOS.Devices.Serial
import UnboundOS.Handles
import UnboundOS.Ipc.Delivery
import UnboundOS.Ipc.Manager
import UnboundOS.Ipc.Queue
import UnboundOS.Ipc.SharedManager
import UnboundOS.Loader.BootInfo
import UnboundOS.Loader.Elf
import UnboundOS.Loader.Image
import UnboundOS.Loader.LongMode
import UnboundOS.Loader.SectorLoad
import UnboundOS.Loader.Segments
import UnboundOS.Loader.Stage2
import UnboundOS.Loader.Survival
import UnboundOS.Memory.AddressSpace
import UnboundOS.Memory.BootSpace
import UnboundOS.Memory.FrameAllocator
import UnboundOS.Memory.FrameInit
import UnboundOS.Memory.FrameRuns
import UnboundOS.Memory.HardwareWalk
import UnboundOS.Memory.Heap
import UnboundOS.Memory.HeapOutcome
import UnboundOS.Memory.HeapPages
import UnboundOS.Memory.IdentityRange
import UnboundOS.Memory.MapEffect
import UnboundOS.Memory.MapOutcome
import UnboundOS.Memory.PageTable
import UnboundOS.Memory.PageTree
import UnboundOS.Memory.TableFrames
import UnboundOS.Memory.UserEntry
import UnboundOS.Memory.UserSpace
import UnboundOS.Objects.Lifetimes
import UnboundOS.Objects.ObjectTable
import UnboundOS.Objects.SharedTable
import UnboundOS.Sched.Coherence
import UnboundOS.Sched.Context
import UnboundOS.Sched.CpuTime
import UnboundOS.Sched.Creation
import UnboundOS.Sched.CurrentRemoval
import UnboundOS.Sched.Execution
import UnboundOS.Sched.Fairness
import UnboundOS.Sched.PreemptiveStart
import UnboundOS.Sched.RunQueue
import UnboundOS.Sched.Runnable
import UnboundOS.Sched.Runs
import UnboundOS.Sched.Scheduler
import UnboundOS.Sched.TaskTable
import UnboundOS.Sync.Guarded
import UnboundOS.Sync.Slots
import UnboundOS.Sync.SpinLock
import UnboundOS.X86.Machine
import UnboundOS.X86.Memory
import UnboundOS.X86.Modes
import UnboundOS.X86.Segments
