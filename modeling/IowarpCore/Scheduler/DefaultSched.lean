import IowarpCore.Types.Numbers
import IowarpCore.Scheduler.RoundRobin

/-!
# The default scheduler

`DefaultScheduler::ClientMapTask` sends a client's task to one of `num_lanes` scheduling lanes
through `MapByPidTid`, which combines a hash of the process id with a hash of `&tid`: the address
of the local variable holding the thread id, not the thread id. libstdc++ hashes an integer and a
pointer to their own value, so the lane is a function of the process id and of where
`MapByPidTid`'s frame lies on the caller's stack. The lane is always in range.

On the runtime side `DivideWorkers` makes the first `max(1, num_threads - 1)` workers scheduler
workers and the next one the network worker, and sets the number of scheduling queues to the
number of scheduler workers, so every lane a client picks names a scheduler worker
(`client_map_task_names_scheduler_worker`). `AssignToWorkerType` deals futures to the scheduler
workers round robin, as `RoundRobin.dealtTo` says (`assign_all_round_robin`), and `RuntimeMapTask`
sends periodic admin `Send`/`Recv` tasks to the network worker and leaves every other task where
it runs (`runtime_map_task_routes`). Workers are named by their index in the work orchestrator,
which is what a `Worker *` identifies.
-/

namespace IowarpCore.Scheduler.DefaultSched

open IowarpCore.Types.Numbers IowarpCore.Scheduler.RoundRobin

set_option autoImplicit false

/-- `std::hash<pid_t>` of libstdc++: the `int` converted to `size_t`. -/
def hashPid (pid : BitVec 32) : SizeT := pid.signExtend 64

/-- `std::hash<void *>` of libstdc++: the address itself. -/
def hashPointer (address : SizeT) : SizeT := address

/-- `MapByPidTid(num_lanes)` run by process `pid`, its local `tid` stored at `tidAddress`. -/
def mapByPidTid (numLanes pid : BitVec 32) (tidAddress : SizeT) : BitVec 32 :=
  let combinedHash := hashPid pid ^^^ (hashPointer tidAddress <<< 1)
  (combinedHash % numLanes.setWidth 64).setWidth 32

/-- `ClientMapTask`, with `GetNumSchedQueues()` equal to `numLanes`. -/
def clientMapTask (numLanes pid : BitVec 32) (tidAddress : SizeT) : BitVec 32 :=
  if numLanes = 0 then 0 else mapByPidTid numLanes pid tidAddress

theorem map_by_pid_tid_lt (numLanes pid : BitVec 32) (tidAddress : SizeT) (lanes : 0 < numLanes) :
    mapByPidTid numLanes pid tidAddress < numLanes := by
  have laneBound := numLanes.isLt
  rw [BitVec.lt_def] at lanes ⊢
  simp only [mapByPidTid, BitVec.toNat_setWidth, BitVec.toNat_umod]
  rw [Nat.mod_eq_of_lt (by omega : numLanes.toNat < 2 ^ 64)]
  have := Nat.mod_lt (hashPid pid ^^^ hashPointer tidAddress <<< 1).toNat lanes
  omega

/-- Every lane `ClientMapTask` returns is one of the `numLanes` lanes. -/
theorem client_map_task_lt (numLanes pid : BitVec 32) (tidAddress : SizeT) (lanes : 0 < numLanes) :
    clientMapTask numLanes pid tidAddress < numLanes := by
  rw [clientMapTask, if_neg (by rintro rfl; exact absurd lanes (by decide))]
  exact map_by_pid_tid_lt numLanes pid tidAddress lanes

/-- One thread of process 1000, with three lanes, calling from two stack depths sixteen bytes
apart, is sent to lane 2 and then to lane 0. -/
theorem client_map_task_moves_with_frame :
    clientMapTask 3 1000 0x7ffc1000 = 2 ∧ clientMapTask 3 1000 0x7ffc1010 = 0 := by
  decide

/-! ## Worker groups -/

/-- `ThreadType`: the kinds `DivideWorkers` and `AssignToWorkerType` name, and the process
reaper, which `AssignToWorkerType` does not route to. -/
inductive ThreadType where
  | kSchedWorker
  | kSlow
  | kNetWorker
  | kProcessReaper
  deriving DecidableEq, Repr

/-- A `Worker`: `GetId()`, its thread type, and the futures on its lane, `none` when `GetLane()`
is null. A future is named by its task. -/
structure Worker where
  id : BitVec 32
  threadType : ThreadType
  lane : Option (List Nat)
  deriving DecidableEq, Repr

/-- `worker` with `tasks` emplaced on its lane, if it has one. -/
def Worker.appendLane (tasks : List Nat) (worker : Worker) : Worker :=
  { worker with lane := worker.lane.map (· ++ tasks) }

/-- The fields of `DefaultScheduler`, each `Worker *` as the worker's index. -/
structure DefaultScheduler where
  schedulerWorkers : List Nat
  slowWorkers : List Nat
  netWorker : Option Nat
  schedulerIdx : SizeT
  slowIdx : SizeT
  deriving DecidableEq, Repr

/-- What the scheduler reads and writes: the work orchestrator's workers (`GetWorker(i)` is null
where an entry is `none` or past the end), the scheduler, and `IpcManager`'s number of
scheduling queues. -/
structure Runtime where
  workers : List (Option Worker)
  scheduler : DefaultScheduler
  numSchedQueues : BitVec 32
  deriving DecidableEq, Repr

namespace Runtime

def getWorker (r : Runtime) (index : Nat) : Option Worker := r.workers[index]?.join

/-- Apply `f` to worker `index`, if there is one. -/
def updateWorker (r : Runtime) (index : Nat) (f : Worker → Worker) : Runtime :=
  { r with workers := r.workers.modify (Option.map f) index }

def setThreadType (r : Runtime) (index : Nat) (threadType : ThreadType) : Runtime :=
  r.updateWorker index fun worker => { worker with threadType }

/-- `TaskLane::Emplace` on worker `index`'s lane; a worker whose lane is null drops the future. -/
def emplace (r : Runtime) (index task : Nat) : Runtime :=
  r.updateWorker index (Worker.appendLane [task])

/-- One pass of the scheduler-worker loop of `DivideWorkers`, at `worker_idx = index`. -/
def addSchedWorker (r : Runtime) (index : Nat) : Runtime :=
  match r.getWorker index with
  | some _ =>
      let r := r.setThreadType index .kSchedWorker
      { r with scheduler.schedulerWorkers := r.scheduler.schedulerWorkers ++ [index] }
  | none => r

end Runtime

/-- `for (u32 i = 0; i < num_sched_workers && worker_idx < total_workers; ++i)`, with `left`
passes to go: the runtime, and `worker_idx` after the loop. -/
def schedLoop (total : Nat) : Nat → Nat → Runtime → Runtime × Nat
  | 0, workerIdx, r => (r, workerIdx)
  | left + 1, workerIdx, r =>
      if workerIdx < total then schedLoop total left (workerIdx + 1) (r.addSchedWorker workerIdx)
      else (r, workerIdx)

/-- `num_sched_workers`: `max(1, num_threads - 1)`. -/
def numSchedWorkers (threadCount : BitVec 32) : BitVec 32 :=
  if threadCount > 1 then threadCount - 1 else 1

/-- The start of `DivideWorkers`: `scheduler_workers_`, `slow_workers_` and `net_worker_`
cleared. -/
def Runtime.clearGroups (r : Runtime) : Runtime :=
  { r with
    scheduler.schedulerWorkers := [], scheduler.slowWorkers := [], scheduler.netWorker := none }

/-- The network-worker step of `DivideWorkers`, once the loop has stopped at `workerIdx`: with one
thread worker 0 is also the network worker, otherwise worker `workerIdx` becomes it. -/
def Runtime.placeNetWorker (threadCount : BitVec 32) (workerIdx : Nat) (r : Runtime) : Runtime :=
  if threadCount = 1 then
    { r with scheduler.netWorker := (r.getWorker 0).map fun _ => 0 }
  else
    match r.getWorker workerIdx with
    | some _ => { r.setThreadType workerIdx .kNetWorker with scheduler.netWorker := some workerIdx }
    | none => r

/-- `DivideWorkers`, with `GetNumThreads()` equal to `threadCount` and `GetTotalWorkerCount()` the
number of worker entries. -/
def divideWorkers (threadCount : BitVec 32) (r : Runtime) : Runtime :=
  let loop := schedLoop r.workers.length (numSchedWorkers threadCount).toNat 0 r.clearGroups
  let placed := loop.1.placeNetWorker threadCount loop.2
  { placed with numSchedQueues := BitVec.ofNat 32 placed.scheduler.schedulerWorkers.length }

/-! ## Assigning futures to workers -/

/-- The round robin of `AssignToWorkerType` over `targets` with counter `idx`: nothing when there
are no targets, else `targets[idx % size]` and the counter after `fetch_add(1)`. -/
def pickWorker (targets : List Nat) (idx : SizeT) : Option (Nat × SizeT) :=
  if targets.isEmpty then none
  else targets[idx.toNat % targets.length]?.map fun worker => (worker, idx + 1)

/-- `AssignToWorkerType` for a future naming `task`, `none` for a null future. -/
def assignToWorkerType (threadType : ThreadType) (future : Option Nat) (r : Runtime) : Runtime :=
  match future, threadType with
  | some task, .kSchedWorker =>
      match pickWorker r.scheduler.schedulerWorkers r.scheduler.schedulerIdx with
      | some (worker, idx) => ({ r with scheduler.schedulerIdx := idx }).emplace worker task
      | none => r
  | some task, .kSlow =>
      match pickWorker r.scheduler.slowWorkers r.scheduler.slowIdx with
      | some (worker, idx) => ({ r with scheduler.slowIdx := idx }).emplace worker task
      | none => r
  | _, _ => r

/-- `AssignToWorkerType(kSchedWorker, ·)` for each task in turn. -/
def assignAll (tasks : List Nat) (r : Runtime) : Runtime :=
  tasks.foldl (fun r task => assignToWorkerType .kSchedWorker (some task) r) r

/-- The fields of a `Task` that `RuntimeMapTask` reads; `pool_id_` is only compared with
`kAdminPoolId`, so both are numbers here. -/
structure Task where
  periodic : Bool
  poolId : Nat
  method : BitVec 32
  deriving DecidableEq, Repr

/-- A periodic task of the admin pool running method 14 (`kSend`) or 15 (`kRecv`). -/
def Task.isNetwork (kAdminPoolId : Nat) (task : Task) : Bool :=
  task.periodic && task.poolId == kAdminPoolId && (task.method == 14 || task.method == 15)

/-- `RuntimeMapTask` run by `worker` (`none` when null) on a future whose `get()` is `task`. -/
def runtimeMapTask (kAdminPoolId : Nat) (r : Runtime) (worker : Option Worker)
    (task : Option Task) : BitVec 32 :=
  match (task.map (Task.isNetwork kAdminPoolId)).getD false,
      r.scheduler.netWorker.bind r.getWorker, worker with
  | true, some net, _ => net.id
  | _, _, some current => current.id
  | _, _, none => 0

/-! ## What one step of each does -/

namespace Runtime

@[simp] theorem get_worker_mk_workers (r : Runtime) (scheduler : DefaultScheduler)
    (numSchedQueues : BitVec 32) (i : Nat) :
    (Runtime.mk r.workers scheduler numSchedQueues).getWorker i = r.getWorker i := rfl

@[simp] theorem update_worker_scheduler (r : Runtime) (index : Nat) (f : Worker → Worker) :
    (r.updateWorker index f).scheduler = r.scheduler := rfl

@[simp] theorem update_worker_num_sched_queues (r : Runtime) (index : Nat) (f : Worker → Worker) :
    (r.updateWorker index f).numSchedQueues = r.numSchedQueues := rfl

theorem get_worker_update_worker (r : Runtime) (index : Nat) (f : Worker → Worker) (i : Nat) :
    (r.updateWorker index f).getWorker i =
      (r.getWorker i).map fun worker => if index = i then f worker else worker := by
  simp only [getWorker, updateWorker, List.getElem?_modify]
  rcases r.workers[i]? with _ | _ | worker <;> by_cases same : index = i <;> simp [same]

theorem add_sched_worker_scheduler (r : Runtime) (index : Nat) :
    (r.addSchedWorker index).scheduler = { r.scheduler with
      schedulerWorkers := r.scheduler.schedulerWorkers ++
        if (r.getWorker index).isSome then [index] else [] } := by
  rcases present : r.getWorker index with _ | worker <;>
    simp [addSchedWorker, present, setThreadType]

@[simp] theorem add_sched_worker_num_sched_queues (r : Runtime) (index : Nat) :
    (r.addSchedWorker index).numSchedQueues = r.numSchedQueues := by
  unfold addSchedWorker
  split <;> rfl

theorem get_worker_add_sched_worker (r : Runtime) (index i : Nat) :
    (r.addSchedWorker index).getWorker i = (r.getWorker i).map fun worker =>
      if index = i then { worker with threadType := .kSchedWorker } else worker := by
  rcases present : r.getWorker index with _ | worker
  · by_cases same : index = i
    · simp [addSchedWorker, present, ← same]
    · simp [addSchedWorker, present, same]
  · simp only [addSchedWorker, present]
    exact get_worker_update_worker r index _ i

end Runtime

theorem sched_loop_snd (total left idx : Nat) (r : Runtime) :
    (schedLoop total left idx r).2 = idx + min left (total - idx) := by
  induction left generalizing idx r with
  | zero => simp [schedLoop]
  | succ left ih =>
      by_cases room : idx < total
      · rw [schedLoop, if_pos room, ih]
        omega
      · simp [schedLoop, room]
        omega

@[simp] theorem sched_loop_num_sched_queues (total left idx : Nat) (r : Runtime) :
    (schedLoop total left idx r).1.numSchedQueues = r.numSchedQueues := by
  induction left generalizing idx r with
  | zero => rfl
  | succ left ih =>
      by_cases room : idx < total
      · rw [schedLoop, if_pos room, ih, Runtime.add_sched_worker_num_sched_queues]
      · simp [schedLoop, room]

theorem sched_loop_scheduler (total left idx : Nat) (r : Runtime) :
    (schedLoop total left idx r).1.scheduler = { r.scheduler with
      schedulerWorkers := r.scheduler.schedulerWorkers ++
        (List.range' idx (min left (total - idx))).filter fun i => (r.getWorker i).isSome } := by
  induction left generalizing idx r with
  | zero => simp [schedLoop]
  | succ left ih =>
      by_cases room : idx < total
      · have count : min (left + 1) (total - idx) = min left (total - (idx + 1)) + 1 := by omega
        have same (i : Nat) : ((r.addSchedWorker idx).getWorker i).isSome = (r.getWorker i).isSome := by
          rw [Runtime.get_worker_add_sched_worker, Option.isSome_map']
        rw [schedLoop, if_pos room, ih, Runtime.add_sched_worker_scheduler, count, List.range'_succ,
          List.filter_cons, List.filter_congr fun i _ => same i]
        dsimp only
        rw [List.append_assoc]
        cases (r.getWorker idx).isSome <;> rfl
      · have none : min (left + 1) (total - idx) = 0 := by omega
        simp [schedLoop, room, none]

theorem sched_loop_get_worker (total left idx : Nat) (r : Runtime) (i : Nat) :
    (schedLoop total left idx r).1.getWorker i = (r.getWorker i).map fun worker =>
      if idx ≤ i ∧ i < idx + min left (total - idx) then
        { worker with threadType := .kSchedWorker } else worker := by
  induction left generalizing idx r with
  | zero =>
      have never (worker : Worker) : (if idx ≤ i ∧ i < idx + min 0 (total - idx) then
          { worker with threadType := .kSchedWorker } else worker) = worker := if_neg (by omega)
      simp only [schedLoop, never, Option.map_id']
  | succ left ih =>
      by_cases room : idx < total
      · have count : min (left + 1) (total - idx) = min left (total - (idx + 1)) + 1 := by omega
        rw [schedLoop, if_pos room, ih, Runtime.get_worker_add_sched_worker, Option.map_map, count]
        congr 1
        funext worker
        simp only [Function.comp]
        by_cases here : idx = i
        · rw [if_pos here, if_neg (by omega), if_pos (by omega)]
        · by_cases inside : idx + 1 ≤ i ∧ i < idx + 1 + min left (total - (idx + 1))
          · rw [if_neg here, if_pos inside, if_pos (by omega)]
          · rw [if_neg here, if_neg inside, if_neg (by omega)]
      · have never (worker : Worker) : (if idx ≤ i ∧ i < idx + min (left + 1) (total - idx) then
            { worker with threadType := .kSchedWorker } else worker) = worker := if_neg (by omega)
        simp only [schedLoop, room, if_false, never, Option.map_id']

/-! ## DivideWorkers -/

namespace Runtime

@[simp] theorem get_worker_clear_groups (r : Runtime) (i : Nat) :
    r.clearGroups.getWorker i = r.getWorker i := rfl

@[simp] theorem clear_groups_scheduler_workers (r : Runtime) :
    r.clearGroups.scheduler.schedulerWorkers = [] := rfl

@[simp] theorem place_net_worker_scheduler_workers (threadCount : BitVec 32) (workerIdx : Nat)
    (r : Runtime) :
    (r.placeNetWorker threadCount workerIdx).scheduler.schedulerWorkers =
      r.scheduler.schedulerWorkers := by
  unfold placeNetWorker
  split
  · rfl
  · split <;> rfl

@[simp] theorem place_net_worker_slow_workers (threadCount : BitVec 32) (workerIdx : Nat)
    (r : Runtime) :
    (r.placeNetWorker threadCount workerIdx).scheduler.slowWorkers = r.scheduler.slowWorkers := by
  unfold placeNetWorker
  split
  · rfl
  · split <;> rfl

theorem place_net_worker_net_worker (threadCount : BitVec 32) (workerIdx : Nat) (r : Runtime) :
    (r.placeNetWorker threadCount workerIdx).scheduler.netWorker =
      if threadCount = 1 then (r.getWorker 0).map fun _ => 0
      else if (r.getWorker workerIdx).isSome then some workerIdx else r.scheduler.netWorker := by
  unfold placeNetWorker
  split
  · rfl
  · rcases present : r.getWorker workerIdx with _ | worker <;> simp [present]

theorem get_worker_place_net_worker (threadCount : BitVec 32) (workerIdx : Nat) (r : Runtime)
    (i : Nat) :
    (r.placeNetWorker threadCount workerIdx).getWorker i =
      if threadCount = 1 then r.getWorker i
      else (r.getWorker i).map fun worker =>
        if workerIdx = i then { worker with threadType := .kNetWorker } else worker := by
  by_cases single : threadCount = 1
  · rw [placeNetWorker, if_pos single, if_pos single, get_worker_mk_workers]
  · rw [placeNetWorker, if_neg single, if_neg single]
    rcases present : r.getWorker workerIdx with _ | worker
    · by_cases same : workerIdx = i
      · simp [present, ← same]
      · simp [same]
    · simp [setThreadType, get_worker_update_worker]

end Runtime

section DivideWorkers

variable (threadCount : BitVec 32) (r : Runtime)

/-- `worker_idx` after the scheduler-worker loop: the number of workers it visits. -/
def visited : Nat := min (numSchedWorkers threadCount).toNat r.workers.length

theorem divide_workers_scheduler_workers :
    (divideWorkers threadCount r).scheduler.schedulerWorkers =
      (List.range (visited threadCount r)).filter fun i => (r.getWorker i).isSome := by
  simp [divideWorkers, sched_loop_scheduler, visited, List.range_eq_range']

theorem divide_workers_slow_workers : (divideWorkers threadCount r).scheduler.slowWorkers = [] := by
  simp [divideWorkers, sched_loop_scheduler, Runtime.clearGroups]

theorem divide_workers_num_sched_queues :
    (divideWorkers threadCount r).numSchedQueues =
      BitVec.ofNat 32 (divideWorkers threadCount r).scheduler.schedulerWorkers.length := rfl

theorem divide_workers_get_worker (i : Nat) :
    (divideWorkers threadCount r).getWorker i = (r.getWorker i).map fun worker =>
      if i < visited threadCount r then { worker with threadType := .kSchedWorker }
      else if threadCount = 1 then worker
      else if i = visited threadCount r then { worker with threadType := .kNetWorker }
      else worker := by
  have loop := sched_loop_get_worker r.workers.length (numSchedWorkers threadCount).toNat 0
    r.clearGroups i
  simp only [Nat.zero_le, true_and, Nat.zero_add, Nat.sub_zero, Runtime.get_worker_clear_groups]
    at loop
  simp only [divideWorkers, Runtime.get_worker_mk_workers, Runtime.get_worker_place_net_worker,
    sched_loop_snd, Nat.zero_add, Nat.sub_zero, loop]
  by_cases single : threadCount = 1
  · simp only [if_pos single]
    rfl
  · simp only [if_neg single, Option.map_map]
    congr 1
    funext worker
    simp only [Function.comp, show min (numSchedWorkers threadCount).toNat r.workers.length =
      visited threadCount r from rfl]
    split_ifs <;> first | rfl | omega

theorem divide_workers_net_worker :
    (divideWorkers threadCount r).scheduler.netWorker =
      if threadCount = 1 then (r.getWorker 0).map fun _ => 0
      else (r.getWorker (visited threadCount r)).map fun _ => visited threadCount r := by
  have present (i : Nat) : ((schedLoop r.workers.length (numSchedWorkers threadCount).toNat 0
      r.clearGroups).1.getWorker i).isSome = (r.getWorker i).isSome := by
    rw [sched_loop_get_worker, Option.isSome_map', Runtime.get_worker_clear_groups]
  simp only [divideWorkers, Runtime.place_net_worker_net_worker, sched_loop_snd, Nat.zero_add,
    Nat.sub_zero]
  by_cases single : threadCount = 1
  · rw [if_pos single, if_pos single, sched_loop_get_worker, Option.map_map,
      Runtime.get_worker_clear_groups]
    rfl
  · rw [if_neg single, if_neg single, present, sched_loop_scheduler]
    unfold visited
    rcases netPresent : r.getWorker (min (numSchedWorkers threadCount).toNat r.workers.length)
      with _ | worker <;> simp [netPresent, Runtime.clearGroups]

theorem divide_workers_scheduler_worker_type (i : Nat)
    (member : i ∈ (divideWorkers threadCount r).scheduler.schedulerWorkers) :
    ((divideWorkers threadCount r).getWorker i).map Worker.threadType = some .kSchedWorker := by
  rw [divide_workers_scheduler_workers, List.mem_filter, List.mem_range] at member
  obtain ⟨worker, present⟩ := Option.isSome_iff_exists.mp member.2
  simp [divide_workers_get_worker, present, member.1]

/-- After `DivideWorkers` the scheduler workers are distinct workers of type `kSchedWorker`, no
worker is slow, and the network worker is a worker: worker 0 with one thread, otherwise a
`kNetWorker` that is no scheduler worker. -/
theorem divide_workers_roles :
    (divideWorkers threadCount r).scheduler.schedulerWorkers.Nodup ∧
    (∀ i ∈ (divideWorkers threadCount r).scheduler.schedulerWorkers,
      ((divideWorkers threadCount r).getWorker i).map Worker.threadType = some .kSchedWorker) ∧
    (divideWorkers threadCount r).scheduler.slowWorkers = [] ∧
    ∀ net, (divideWorkers threadCount r).scheduler.netWorker = some net →
      ((divideWorkers threadCount r).getWorker net).isSome ∧
      if threadCount = 1 then net = 0
      else net ∉ (divideWorkers threadCount r).scheduler.schedulerWorkers ∧
        ((divideWorkers threadCount r).getWorker net).map Worker.threadType =
          some .kNetWorker := by
  refine ⟨?distinct, ?typed, divide_workers_slow_workers threadCount r, ?network⟩
  case distinct =>
    rw [divide_workers_scheduler_workers]
    exact (List.nodup_range _).filter _
  case typed => exact divide_workers_scheduler_worker_type threadCount r
  case network =>
    intro net chosen
    rw [divide_workers_net_worker] at chosen
    by_cases single : threadCount = 1
    · rw [if_pos single, Option.map_eq_some'] at chosen
      obtain ⟨worker, present, rfl⟩ := chosen
      simp [divide_workers_get_worker, present, single]
    · have single' : ¬threadCount = 1#32 := single
      rw [if_neg single, Option.map_eq_some'] at chosen
      obtain ⟨worker, present, rfl⟩ := chosen
      rw [if_neg single, divide_workers_scheduler_workers, List.mem_filter, List.mem_range]
      simp [divide_workers_get_worker, present, single']

/-- The number of scheduling queues `DivideWorkers` publishes is the number of scheduler workers,
so the lane `ClientMapTask` picks for any process and thread names a scheduler worker. -/
theorem client_map_task_names_scheduler_worker (pid : BitVec 32) (tidAddress : SizeT)
    (fewWorkers : r.workers.length < 2 ^ 32)
    (staffed : (divideWorkers threadCount r).scheduler.schedulerWorkers ≠ []) :
    ∃ worker, (divideWorkers threadCount r).scheduler.schedulerWorkers[(clientMapTask
        (divideWorkers threadCount r).numSchedQueues pid tidAddress).toNat]? = some worker ∧
      ((divideWorkers threadCount r).getWorker worker).map Worker.threadType =
        some .kSchedWorker := by
  have counted : (divideWorkers threadCount r).scheduler.schedulerWorkers.length < 2 ^ 32 := by
    rw [divide_workers_scheduler_workers]
    have filtered := List.length_filter_le (fun i => (r.getWorker i).isSome)
      (List.range (visited threadCount r))
    have visitedLe : visited threadCount r ≤ r.workers.length := Nat.min_le_right _ _
    rw [List.length_range] at filtered
    omega
  have queues : (divideWorkers threadCount r).numSchedQueues.toNat =
      (divideWorkers threadCount r).scheduler.schedulerWorkers.length := by
    rw [divide_workers_num_sched_queues, BitVec.toNat_ofNat, Nat.mod_eq_of_lt counted]
  have lanes : 0 < (divideWorkers threadCount r).numSchedQueues := by
    rw [BitVec.lt_def, queues]
    exact List.length_pos.mpr staffed
  have inRange := client_map_task_lt _ pid tidAddress lanes
  rw [BitVec.lt_def, queues] at inRange
  exact ⟨_, List.getElem?_eq_getElem inRange,
    divide_workers_scheduler_worker_type threadCount r _ (List.getElem_mem inRange)⟩

/-- `RuntimeMapTask` after `DivideWorkers`: a periodic admin `Send` or `Recv` goes to the network
worker `DivideWorkers` chose, worker 0 with one thread and otherwise the first worker past the
scheduler workers; every other task stays on the worker running it. -/
theorem runtime_map_task_routes (kAdminPoolId : Nat) (current : Option Worker) (task : Task) :
    (task.isNetwork kAdminPoolId = true → ∀ net,
      r.getWorker (if threadCount = 1 then 0 else visited threadCount r) = some net →
      runtimeMapTask kAdminPoolId (divideWorkers threadCount r) current (some task) = net.id) ∧
    (task.isNetwork kAdminPoolId = false →
      runtimeMapTask kAdminPoolId (divideWorkers threadCount r) current (some task) =
        (current.map Worker.id).getD 0) := by
  constructor
  · intro network net present
    have chosen : ((divideWorkers threadCount r).scheduler.netWorker.bind
        (divideWorkers threadCount r).getWorker).map Worker.id = some net.id := by
      rw [divide_workers_net_worker]
      by_cases single : threadCount = 1
      · rw [if_pos single] at present ⊢
        simp only [Option.map_some', present, Option.some_bind, divide_workers_get_worker]
        split_ifs <;> rfl
      · have single' : ¬threadCount = 1#32 := single
        rw [if_neg single] at present ⊢
        simp [present, divide_workers_get_worker, single']
    rw [Option.map_eq_some'] at chosen
    obtain ⟨worker, found, same⟩ := chosen
    simp [runtimeMapTask, network, found, same]
  · intro elsewhere
    cases current <;> simp [runtimeMapTask, elsewhere]

/-- Three workers with empty lanes. -/
def sampleRuntime : Runtime :=
  ⟨[some ⟨0, .kSchedWorker, some []⟩, some ⟨1, .kSchedWorker, some []⟩,
    some ⟨2, .kSchedWorker, some []⟩], ⟨[], [], none, 0, 0⟩, 0⟩

theorem client_map_task_names_scheduler_worker_of_three :
    sampleRuntime.workers.length < 2 ^ 32 ∧
      (divideWorkers 3 sampleRuntime).scheduler.schedulerWorkers ≠ [] ∧
      ∃ worker, (divideWorkers 3 sampleRuntime).scheduler.schedulerWorkers[(clientMapTask
          (divideWorkers 3 sampleRuntime).numSchedQueues 1000 0x7ffc1000).toNat]? = some worker ∧
        ((divideWorkers 3 sampleRuntime).getWorker worker).map Worker.threadType =
          some .kSchedWorker :=
  ⟨by decide, by decide,
    client_map_task_names_scheduler_worker 3 sampleRuntime 1000 0x7ffc1000 (by decide) (by decide)⟩

end DivideWorkers

/-! ## AssignToWorkerType -/

@[simp] theorem Worker.append_lane_nil : Worker.appendLane [] = fun worker => worker := by
  funext worker
  cases worker with
  | mk id threadType lane => cases lane <;> simp [Worker.appendLane]

theorem Worker.append_lane_append_lane (first second : List Nat) (worker : Worker) :
    (worker.appendLane first).appendLane second = worker.appendLane (first ++ second) := by
  cases worker with
  | mk id threadType lane => cases lane <;> simp [Worker.appendLane]

/-- One `AssignToWorkerType(kSchedWorker, task)` with scheduler workers present: the counter moves
on by one, and only the lane of `targets[idx % size]` grows, by the task. -/
theorem assign_sched_step (r : Runtime) (task : Nat)
    (staffed : r.scheduler.schedulerWorkers ≠ []) :
    (assignToWorkerType .kSchedWorker (some task) r).scheduler =
        { r.scheduler with schedulerIdx := r.scheduler.schedulerIdx + 1 } ∧
      ∀ i, (assignToWorkerType .kSchedWorker (some task) r).getWorker i = (r.getWorker i).map
        (Worker.appendLane (if r.scheduler.schedulerWorkers[r.scheduler.schedulerIdx.toNat %
          r.scheduler.schedulerWorkers.length]? = some i then [task] else [])) := by
  have below := Nat.mod_lt r.scheduler.schedulerIdx.toNat (List.length_pos.mpr staffed)
  have picked : pickWorker r.scheduler.schedulerWorkers r.scheduler.schedulerIdx =
      some (r.scheduler.schedulerWorkers[r.scheduler.schedulerIdx.toNat %
        r.scheduler.schedulerWorkers.length], r.scheduler.schedulerIdx + 1) := by
    simp [pickWorker, List.isEmpty_iff, staffed, List.getElem?_eq_getElem below]
  simp only [assignToWorkerType, picked, List.getElem?_eq_getElem below, Option.some_inj]
  refine ⟨rfl, fun i => ?_⟩
  rw [Runtime.emplace, Runtime.get_worker_update_worker, Runtime.get_worker_mk_workers]
  congr 1
  funext worker
  split_ifs <;> simp

/-- `AssignToWorkerType(kSchedWorker, ·)` over a sequence of tasks, while the counter does not
wrap: the counter moves on by the number of tasks and each worker's lane grows by exactly the
tasks the round robin deals to it. -/
theorem assign_all_spec (tasks : List Nat) (r : Runtime)
    (staffed : r.scheduler.schedulerWorkers ≠ [])
    (noWrap : r.scheduler.schedulerIdx.toNat + tasks.length < 2 ^ 64) :
    (assignAll tasks r).scheduler.schedulerWorkers = r.scheduler.schedulerWorkers ∧
      (assignAll tasks r).scheduler.schedulerIdx.toNat =
        r.scheduler.schedulerIdx.toNat + tasks.length ∧
      ∀ i, (assignAll tasks r).getWorker i = (r.getWorker i).map (Worker.appendLane
        (dealtTo r.scheduler.schedulerWorkers i r.scheduler.schedulerIdx.toNat tasks)) := by
  induction tasks generalizing r with
  | nil => simp [assignAll, dealtTo]
  | cons task rest ih =>
      obtain ⟨scheduler, step⟩ := assign_sched_step r task staffed
      have advanced : (assignToWorkerType .kSchedWorker (some task) r).scheduler.schedulerIdx.toNat =
          r.scheduler.schedulerIdx.toNat + 1 := by
        rw [scheduler, BitVec.toNat_add, show (1 : SizeT).toNat = 1 from rfl]
        simp only [List.length_cons] at noWrap
        exact Nat.mod_eq_of_lt (by omega)
      have same : (assignToWorkerType .kSchedWorker (some task) r).scheduler.schedulerWorkers =
          r.scheduler.schedulerWorkers := by rw [scheduler]
      obtain ⟨workers, counter, lanes⟩ := ih (assignToWorkerType .kSchedWorker (some task) r)
        (by rw [same]; exact staffed) (by simp only [List.length_cons] at noWrap; omega)
      refine ⟨by rw [assignAll, List.foldl_cons, ← assignAll, workers, same], ?_, fun i => ?_⟩
      · rw [assignAll, List.foldl_cons, ← assignAll, counter, advanced, List.length_cons]
        omega
      · rw [assignAll, List.foldl_cons, ← assignAll, lanes, step, same, advanced, Option.map_map]
        congr 1
        funext worker
        simp [Worker.append_lane_append_lane, dealtTo]

/-- Futures assigned one after another to distinct scheduler workers are dealt round robin: each
scheduler worker's lane grows by what `RoundRobin.dealtTo` deals it, no other lane changes, any two
scheduler workers receive counts that differ by at most one, and every future goes to exactly one
scheduler worker. -/
theorem assign_all_round_robin (tasks : List Nat) (r : Runtime)
    (staffed : r.scheduler.schedulerWorkers ≠ []) (distinct : r.scheduler.schedulerWorkers.Nodup)
    (noWrap : r.scheduler.schedulerIdx.toNat + tasks.length < 2 ^ 64) :
    (∀ i, (assignAll tasks r).getWorker i = (r.getWorker i).map (Worker.appendLane
      (dealtTo r.scheduler.schedulerWorkers i r.scheduler.schedulerIdx.toNat tasks))) ∧
    (∀ i, i ∉ r.scheduler.schedulerWorkers → (assignAll tasks r).getWorker i = r.getWorker i) ∧
    (∀ j (first : j < r.scheduler.schedulerWorkers.length) j'
      (second : j' < r.scheduler.schedulerWorkers.length),
      (dealtTo r.scheduler.schedulerWorkers r.scheduler.schedulerWorkers[j]
          r.scheduler.schedulerIdx.toNat tasks).length ≤
        (dealtTo r.scheduler.schedulerWorkers r.scheduler.schedulerWorkers[j']
          r.scheduler.schedulerIdx.toNat tasks).length + 1) ∧
    (r.scheduler.schedulerWorkers.map fun worker => (dealtTo r.scheduler.schedulerWorkers worker
      r.scheduler.schedulerIdx.toNat tasks).length).sum = tasks.length := by
  obtain ⟨-, -, lanes⟩ := assign_all_spec tasks r staffed noWrap
  refine ⟨lanes, fun i outside => ?_, fun j first j' second =>
    dealt_to_length_fair _ distinct j first _ tasks j' second,
    sum_dealt_to_length _ distinct (List.length_pos.mpr staffed) _ tasks⟩
  rw [lanes, dealt_to_eq_nil_of_not_mem _ _ _ _ outside, Worker.append_lane_nil, Option.map_id']

/-- With two scheduler workers, five futures go 0, 1, 0, 1, 0. -/
example : ((assignAll [10, 11, 12, 13, 14] (divideWorkers 3 sampleRuntime)).getWorker 0).bind
    Worker.lane = some [10, 12, 14] := by decide

theorem assign_all_round_robin_five :
    (divideWorkers 3 sampleRuntime).scheduler.schedulerWorkers ≠ [] ∧
    (divideWorkers 3 sampleRuntime).scheduler.schedulerWorkers.Nodup ∧
    (divideWorkers 3 sampleRuntime).scheduler.schedulerIdx.toNat + [10, 11, 12, 13, 14].length <
      2 ^ 64 ∧
    (∀ i, (assignAll [10, 11, 12, 13, 14] (divideWorkers 3 sampleRuntime)).getWorker i =
      ((divideWorkers 3 sampleRuntime).getWorker i).map (Worker.appendLane
        (dealtTo (divideWorkers 3 sampleRuntime).scheduler.schedulerWorkers i
          (divideWorkers 3 sampleRuntime).scheduler.schedulerIdx.toNat [10, 11, 12, 13, 14]))) ∧
    (∀ i, i ∉ (divideWorkers 3 sampleRuntime).scheduler.schedulerWorkers →
      (assignAll [10, 11, 12, 13, 14] (divideWorkers 3 sampleRuntime)).getWorker i =
        (divideWorkers 3 sampleRuntime).getWorker i) ∧
    (∀ j (first : j < (divideWorkers 3 sampleRuntime).scheduler.schedulerWorkers.length) j'
      (second : j' < (divideWorkers 3 sampleRuntime).scheduler.schedulerWorkers.length),
      (dealtTo (divideWorkers 3 sampleRuntime).scheduler.schedulerWorkers
          (divideWorkers 3 sampleRuntime).scheduler.schedulerWorkers[j]
          (divideWorkers 3 sampleRuntime).scheduler.schedulerIdx.toNat
          [10, 11, 12, 13, 14]).length ≤
        (dealtTo (divideWorkers 3 sampleRuntime).scheduler.schedulerWorkers
          (divideWorkers 3 sampleRuntime).scheduler.schedulerWorkers[j']
          (divideWorkers 3 sampleRuntime).scheduler.schedulerIdx.toNat
          [10, 11, 12, 13, 14]).length + 1) ∧
    ((divideWorkers 3 sampleRuntime).scheduler.schedulerWorkers.map fun worker =>
      (dealtTo (divideWorkers 3 sampleRuntime).scheduler.schedulerWorkers worker
        (divideWorkers 3 sampleRuntime).scheduler.schedulerIdx.toNat
        [10, 11, 12, 13, 14]).length).sum = [10, 11, 12, 13, 14].length :=
  ⟨by decide, by decide, by decide,
    assign_all_round_robin [10, 11, 12, 13, 14] (divideWorkers 3 sampleRuntime) (by decide)
      (by decide) (by decide)⟩

end IowarpCore.Scheduler.DefaultSched
