import IowarpCore.Types.Numbers
import IowarpCore.Api.ContextInterface
import IowarpCore.Wal.Codec
import IowarpCore.Wal.Record
import IowarpCore.Wal.Accept
import IowarpCore.Wal.Crash
import IowarpCore.Memory.BumpHeap
import IowarpCore.Memory.AtomicHeap
import IowarpCore.Memory.ShmAllocator
import IowarpCore.Memory.Backend
import IowarpCore.Memory.Lifecycle
import IowarpCore.Memory.NullAllocator
import IowarpCore.Ipc.PreRingQueue
import IowarpCore.Scheduler.RoundRobin
import IowarpCore.Scheduler.DefaultSched
import IowarpCore.Scheduler.Polling
import IowarpCore.Tools.Compose
import IowarpCore.Tools.Monitor
