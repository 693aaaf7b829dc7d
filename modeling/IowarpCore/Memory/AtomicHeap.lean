import IowarpCore.Memory.BumpHeap

/-!
# The bump heap under concurrent callers

`Heap<true>::Allocate` is a loop of two atomic steps on `heap_`: a load, then a
`compare_exchange_weak` from the loaded offset to the end offset computed from it. A failed
exchange, spurious or not, goes back to the load. What lies between the two is local to the
thread, and a throw follows the load at once, so a thread moves through its `Phase`s by three
kinds of step, interleaved with the other threads' steps in any order.

Each call's result is decided at one step: a throw at the load whose offset it was computed from,
a return at the exchange that installs its end offset. At that step `heap_` holds the offset the
one-thread `Allocate` reads. So the calls, taken in the order they completed and run one at a time
from the initial heap, give the same results and the same final offset; and that order never puts
a call after one that was invoked only after it had completed.
-/

namespace IowarpCore.Memory.AtomicHeap

open IowarpCore.Types.Numbers
open IowarpCore.Memory.BumpHeap

set_option autoImplicit false

/-- Where one thread is in `Allocate(size, align)`; a call keeps the step at which it was
invoked. -/
inductive Phase
  | idle
  /-- At `off = heap_.load()`. -/
  | loading (size align : SizeT) (invokedAt : Nat)
  /-- At `heap_.compare_exchange_weak(off, end_off)`. -/
  | exchanging (size align off alignedOff endOff : SizeT) (invokedAt : Nat)

/-- The step at which the thread's current call was invoked. -/
def Phase.callStart : Phase → Option Nat
  | .idle => none
  | .loading _ _ invokedAt => some invokedAt
  | .exchanging _ _ _ _ _ invokedAt => some invokedAt

/-- A call that returned or threw. -/
structure Completed where
  size : SizeT
  align : SizeT
  result : Except HeapError SizeT
  invokedAt : Nat
  respondedAt : Nat

/-- The heap the threads share, and what has happened so far. -/
structure Shared where
  heap : SizeT
  maxSize : SizeT
  threads : Nat → Phase
  /-- The number of steps taken. -/
  clock : Nat
  /-- The calls that returned or threw, in the order they did. -/
  completed : List Completed

/-- A step of one thread. -/
inductive Action
  | invoke (thread : Nat) (size align : SizeT)
  | load (thread : Nat)
  /-- `compare_exchange_weak`, which may fail although `heap_` holds the expected offset. -/
  | exchange (thread : Nat) (spurious : Bool)

/-- The thread moves to `phase`, and one more step has been taken. -/
def Shared.setThread (s : Shared) (thread : Nat) (phase : Phase) : Shared :=
  { s with threads := Function.update s.threads thread phase, clock := s.clock + 1 }

/-- One step; `none` when the thread is not at that step. -/
def Shared.step (s : Shared) : Action → Option Shared
  | .invoke thread size align =>
      match s.threads thread with
      | .idle => some (s.setThread thread (.loading size align s.clock))
      | _ => none
  | .load thread =>
      match s.threads thread with
      | .loading size align invokedAt =>
          match attempt s.heap s.maxSize size align with
          | .error e =>
              some { s.setThread thread .idle with
                completed := s.completed ++ [⟨size, align, .error e, invokedAt, s.clock⟩] }
          | .ok (alignedOff, endOff) =>
              some (s.setThread thread (.exchanging size align s.heap alignedOff endOff invokedAt))
      | _ => none
  | .exchange thread spurious =>
      match s.threads thread with
      | .exchanging size align off alignedOff endOff invokedAt =>
          if s.heap = off ∧ spurious = false then
            some { s.setThread thread .idle with
              heap := endOff,
              completed := s.completed ++ [⟨size, align, .ok alignedOff, invokedAt, s.clock⟩] }
          else some (s.setThread thread (.loading size align invokedAt))
      | _ => none

/-- No call made yet on a heap in state `h`. -/
def Shared.init (h : Heap) : Shared := ⟨h.heap, h.maxSize, fun _ => .idle, 0, []⟩

/-- The state after the steps `actions`, if each one can be taken. -/
def Shared.run : Shared → List Action → Option Shared
  | s, [] => some s
  | s, action :: actions => (s.step action).bind fun next => next.run actions

/-- Running `Allocate` one call at a time: each call's result, and the heap at the end. -/
def replay (h : Heap) : List (SizeT × SizeT) → List (Except HeapError SizeT) × Heap
  | [] => ([], h)
  | (size, align) :: calls =>
      ((h.call size align).1 :: (replay (h.call size align).2 calls).1,
        (replay (h.call size align).2 calls).2)

theorem replay_append (h : Heap) (calls : List (SizeT × SizeT)) (size align : SizeT) :
    replay h (calls ++ [(size, align)]) =
      ((replay h calls).1 ++ [((replay h calls).2.call size align).1],
        ((replay h calls).2.call size align).2) := by
  induction calls generalizing h with
  | nil => rfl
  | cons call calls ih => simp [replay, ih]

theorem call_of_attempt_error {h : Heap} {size align : SizeT} {e : HeapError}
    (threw : attempt h.heap h.maxSize size align = .error e) :
    h.call size align = (.error e, h) := by
  simp [Heap.call, Heap.allocate, threw, Except.map]

theorem call_of_attempt_ok {h : Heap} {size align alignedOff endOff : SizeT}
    (computed : attempt h.heap h.maxSize size align = .ok (alignedOff, endOff)) :
    h.call size align = (.ok alignedOff, { h with heap := endOff }) := by
  simp [Heap.call, Heap.allocate, computed, Except.map]

@[simp] theorem Shared.set_thread_heap (s : Shared) (thread : Nat) (phase : Phase) :
    (s.setThread thread phase).heap = s.heap := rfl

@[simp] theorem Shared.set_thread_max_size (s : Shared) (thread : Nat) (phase : Phase) :
    (s.setThread thread phase).maxSize = s.maxSize := rfl

@[simp] theorem Shared.set_thread_completed (s : Shared) (thread : Nat) (phase : Phase) :
    (s.setThread thread phase).completed = s.completed := rfl

@[simp] theorem Shared.set_thread_clock (s : Shared) (thread : Nat) (phase : Phase) :
    (s.setThread thread phase).clock = s.clock + 1 := rfl

@[simp] theorem Shared.set_thread_threads (s : Shared) (thread : Nat) (phase : Phase) :
    (s.setThread thread phase).threads = Function.update s.threads thread phase := rfl

/-! ## Every reachable state is linearized -/

/-- What holds of every state reached from `Shared.init h`: the completed calls, run one at a time
from `h`, return what they returned and leave `heap_` as it is; a thread at its exchange holds the
values computed from the offset it loaded; and the completed calls are listed in the order of
their responses, each invoked before it responded. -/
structure Linearized (h : Heap) (s : Shared) : Prop where
  sameMax : s.maxSize = h.maxSize
  replays : replay h (s.completed.map fun c => (c.size, c.align)) =
    (s.completed.map Completed.result, ⟨s.heap, s.maxSize⟩)
  computed : ∀ thread size align off alignedOff endOff invokedAt,
    s.threads thread = .exchanging size align off alignedOff endOff invokedAt →
      attempt off s.maxSize size align = .ok (alignedOff, endOff)
  started : ∀ thread invokedAt, (s.threads thread).callStart = some invokedAt →
    invokedAt < s.clock
  ordered : s.completed.Pairwise fun a b => a.respondedAt < b.respondedAt
  timed : ∀ c ∈ s.completed, c.invokedAt < c.respondedAt ∧ c.respondedAt < s.clock

theorem linearized_init (h : Heap) : Linearized h (Shared.init h) :=
  ⟨rfl, rfl, fun _ _ _ _ _ _ _ phase => (nomatch phase), fun _ _ start => (nomatch start),
    List.Pairwise.nil, fun _ member => (nomatch member)⟩

/-- A step that only moves one thread on. -/
theorem Linearized.move {h : Heap} {s : Shared} (linearized : Linearized h s) (thread : Nat)
    (phase : Phase)
    (computed : ∀ size align off alignedOff endOff invokedAt,
      phase = .exchanging size align off alignedOff endOff invokedAt →
        attempt off s.maxSize size align = .ok (alignedOff, endOff))
    (started : ∀ invokedAt, phase.callStart = some invokedAt → invokedAt ≤ s.clock) :
    Linearized h (s.setThread thread phase) := by
  refine ⟨linearized.sameMax, linearized.replays, ?_, ?_, linearized.ordered, ?_⟩
  · intro other size align off alignedOff endOff invokedAt atPhase
    by_cases same : other = thread
    · subst same
      exact computed size align off alignedOff endOff invokedAt (by simpa using atPhase)
    · simp only [Shared.set_thread_threads, Function.update_noteq same] at atPhase
      exact linearized.computed other size align off alignedOff endOff invokedAt atPhase
  · intro other invokedAt start
    by_cases same : other = thread
    · subst same
      have := started invokedAt (by simpa using start)
      simp only [Shared.set_thread_clock]
      omega
    · simp only [Shared.set_thread_threads, Function.update_noteq same] at start
      have := linearized.started other invokedAt start
      simp only [Shared.set_thread_clock]
      omega
  · intro c member
    have := linearized.timed c member
    simp only [Shared.set_thread_clock]
    omega

/-- A step that completes a call, with the result `Allocate` gives from `heap_` as it is now. -/
theorem Linearized.complete {h : Heap} {s : Shared} (linearized : Linearized h s) (thread : Nat)
    {size align heap : SizeT} {result : Except HeapError SizeT} {invokedAt : Nat}
    (start : (s.threads thread).callStart = some invokedAt)
    (sequential : (Heap.mk s.heap s.maxSize).call size align = (result, ⟨heap, s.maxSize⟩)) :
    Linearized h { s.setThread thread .idle with
      heap := heap, completed := s.completed ++ [⟨size, align, result, invokedAt, s.clock⟩] } := by
  have invoked := linearized.started thread invokedAt start
  refine ⟨linearized.sameMax, ?_, ?_, ?_, ?_, ?_⟩
  · simp [replay_append, linearized.replays, sequential]
  · intro other size align off alignedOff endOff invokedAt atPhase
    by_cases same : other = thread
    · subst same
      simp at atPhase
    · simp only [Shared.set_thread_threads, Function.update_noteq same] at atPhase
      exact linearized.computed other size align off alignedOff endOff invokedAt atPhase
  · intro other invokedAt start
    by_cases same : other = thread
    · subst same
      simp [Phase.callStart] at start
    · simp only [Shared.set_thread_threads, Function.update_noteq same] at start
      have := linearized.started other invokedAt start
      simp only [Shared.set_thread_clock]
      omega
  · rw [List.pairwise_append]
    refine ⟨linearized.ordered, List.pairwise_singleton _ _, ?_⟩
    intro a member b new
    obtain rfl := List.mem_singleton.mp new
    exact (linearized.timed a member).2
  · intro c member
    rcases List.mem_append.mp member with old | new
    · have := linearized.timed c old
      simp only [Shared.set_thread_clock]
      omega
    · obtain rfl := List.mem_singleton.mp new
      simp only [Shared.set_thread_clock]
      omega

theorem step_linearized {h : Heap} {s s' : Shared} {action : Action}
    (linearized : Linearized h s) (stepped : s.step action = some s') : Linearized h s' := by
  cases action with
  | invoke thread size align =>
      simp only [Shared.step] at stepped
      split at stepped
      · cases stepped
        exact linearized.move thread _ (fun _ _ _ _ _ _ phase => (nomatch phase))
          (fun _ start => by simp [Phase.callStart] at start; omega)
      · cases stepped
  | load thread =>
      simp only [Shared.step] at stepped
      split at stepped
      next size align invokedAt loading =>
        have start : (s.threads thread).callStart = some invokedAt := by
          simp [loading, Phase.callStart]
        split at stepped
        next e threw =>
          cases stepped
          exact linearized.complete thread start (call_of_attempt_error threw)
        next alignedOff endOff computed =>
          cases stepped
          refine linearized.move thread _ (fun _ _ _ _ _ _ phase => ?_) (fun _ start' => ?_)
          · cases phase
            exact computed
          · have := linearized.started thread invokedAt start
            simp [Phase.callStart] at start'
            omega
      · cases stepped
  | exchange thread spurious =>
      simp only [Shared.step] at stepped
      split at stepped
      next size align off alignedOff endOff invokedAt exchanging =>
        have start : (s.threads thread).callStart = some invokedAt := by
          simp [exchanging, Phase.callStart]
        have computed := linearized.computed thread size align off alignedOff endOff invokedAt
          exchanging
        split at stepped
        next installed =>
          cases stepped
          rw [← installed.1] at computed
          exact linearized.complete thread start (call_of_attempt_ok computed)
        next =>
          cases stepped
          exact linearized.move thread _ (fun _ _ _ _ _ _ phase => (nomatch phase))
            (fun _ start' => by
              have := linearized.started thread invokedAt start
              simp [Phase.callStart] at start'
              omega)
      · cases stepped

theorem run_linearized {h : Heap} (actions : List Action) {s s' : Shared}
    (linearized : Linearized h s) (reached : s.run actions = some s') : Linearized h s' := by
  induction actions generalizing s with
  | nil => cases reached; exact linearized
  | cons action actions ih =>
      simp only [Shared.run, Option.bind_eq_some] at reached
      obtain ⟨next, stepped, rest⟩ := reached
      exact ih (step_linearized linearized stepped) rest

/-- Under every interleaving of loads and exchanges, spurious failures included, the completed
calls, in the order they completed and run one at a time from the initial heap, return the same
offsets, throw for the same calls and end with the same offset; and that order never puts a call
after one that was invoked only after it had completed. -/
theorem allocate_linearizable (h : Heap) (actions : List Action) (s : Shared)
    (reached : (Shared.init h).run actions = some s) :
    replay h (s.completed.map fun c => (c.size, c.align)) =
        (s.completed.map Completed.result, ⟨s.heap, h.maxSize⟩) ∧
      s.completed.Pairwise fun a b => ¬b.respondedAt < a.invokedAt := by
  have linearized := run_linearized actions (linearized_init h) reached
  refine ⟨linearized.sameMax ▸ linearized.replays, ?_⟩
  refine linearized.ordered.imp_of_mem fun {a b} member _ earlier => ?_
  have := (linearized.timed a member).1
  omega

/-- Two threads load the same offset; the second one's exchange wins, the first one's fails on the
stale offset, then fails spuriously, and succeeds on its third load. -/
def staleThenSpurious : List Action :=
  [.invoke 0 8 8, .invoke 1 16 8, .load 0, .load 1, .exchange 1 false, .exchange 0 false,
    .load 0, .exchange 0 true, .load 0, .exchange 0 false]

theorem allocate_linearizable_stale_then_spurious :
    ∃ s, (Shared.init ⟨0, 64⟩).run staleThenSpurious = some s ∧
      replay ⟨0, 64⟩ (s.completed.map fun c => (c.size, c.align)) =
          (s.completed.map Completed.result, ⟨s.heap, 64⟩) ∧
        s.completed.Pairwise fun a b => ¬b.respondedAt < a.invokedAt :=
  ⟨_, rfl, allocate_linearizable ⟨0, 64⟩ staleThenSpurious _ rfl⟩

end IowarpCore.Memory.AtomicHeap
