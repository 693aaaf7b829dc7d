import Mathlib.Data.List.Range
import Mathlib.Data.BitVec
import Mathlib.Tactic.Abel
import IowarpCore.Types.Numbers

/-!
# The preallocated ring queue

`hshm::ipc::pre::ring_queue<T, COUNT>` keeps its elements in `T data_[COUNT]` between two `size_t`
counters: `head_` counts the pops and `tail_` the pushes since construction or `clear()`, and an
element lives at its counter modulo `COUNT`. While `tail_` has not wrapped, the queue is the
bounded FIFO list `Fifo`: the elements at `head_`, ..., `tail_ - 1`. Operations are modelled with
what they return or throw, `std::overflow_error` and `std::underflow_error` with their texts.

Each call is proved once over `Represents`, which says nothing of the counters, from the few facts
of slot arithmetic it needs; `Holds` supplies them while the counters have not wrapped, and a
`COUNT` that divides `2^64` supplies them past the wrap, where the queue still refines the list.
With a `COUNT` such as 3 that does not divide `2^64`, pushes on either side of the wrap can land in
one slot.
-/

namespace IowarpCore.Ipc.PreRingQueue

open IowarpCore.Types.Numbers

set_option autoImplicit false

/-- What the queue throws. -/
inductive QueueError
  | overflowError (what : String)
  | underflowError (what : String)
  deriving DecidableEq, Repr

/-- The state of a `ring_queue<T, COUNT>`. -/
structure RingQueue (α : Type) (count : Nat) where
  head : SizeT
  tail : SizeT
  data : Fin count → α

/-- A call on the queue. -/
inductive Op (α : Type)
  | push (entry : α)
  | pop
  | front
  | back
  | size
  | empty
  | full
  | clear

/-- What a call returned, or what it threw. -/
inductive Reply (α : Type)
  | done
  | element (value : α)
  | count (value : SizeT)
  | flag (value : Bool)
  | error (e : QueueError)
  deriving DecidableEq

variable {α : Type} {count : Nat} [NeZero count]

namespace RingQueue

def slot (index : SizeT) : Fin count := Fin.ofNat' count index.toNat

def size (q : RingQueue α count) : SizeT := q.tail - q.head

def push (q : RingQueue α count) (entry : α) : Except QueueError (RingQueue α count) :=
  if count ≤ q.size.toNat then .error (.overflowError "ring_queue is full")
  else .ok { q with data := Function.update q.data (slot q.tail) entry, tail := q.tail + 1 }

def pop (q : RingQueue α count) : Except QueueError (α × RingQueue α count) :=
  if q.tail - q.head = 0 then .error (.underflowError "ring_queue is empty")
  else .ok (q.data (slot q.head), { q with head := q.head + 1 })

def empty (q : RingQueue α count) : Bool := q.size = 0

def full (q : RingQueue α count) : Bool := decide (count ≤ q.size.toNat)

def front (q : RingQueue α count) : Except QueueError α :=
  if q.empty then .error (.underflowError "ring_queue is empty") else .ok (q.data (slot q.head))

def back (q : RingQueue α count) : Except QueueError α :=
  if q.empty then .error (.underflowError "ring_queue is empty")
  else .ok (q.data (slot (q.tail - 1)))

def clear (q : RingQueue α count) : RingQueue α count := { q with head := 0, tail := 0 }

/-- A call, with the queue it leaves; a call that throws leaves the queue as it was. -/
def apply (q : RingQueue α count) : Op α → Reply α × RingQueue α count
  | .push entry =>
      match q.push entry with
      | .ok next => (.done, next)
      | .error e => (.error e, q)
  | .pop =>
      match q.pop with
      | .ok (value, next) => (.element value, next)
      | .error e => (.error e, q)
  | .front =>
      match q.front with
      | .ok value => (.element value, q)
      | .error e => (.error e, q)
  | .back =>
      match q.back with
      | .ok value => (.element value, q)
      | .error e => (.error e, q)
  | .size => (.count q.size, q)
  | .empty => (.flag q.empty, q)
  | .full => (.flag q.full, q)
  | .clear => (.done, q.clear)

/-- The elements, front first: those at the counters `head_` up to `tail_ - 1`. -/
def contents (q : RingQueue α count) : List α :=
  (List.range q.size.toNat).map fun i => q.data (Fin.ofNat' count (q.head.toNat + i))

/-- Successive calls from `q`: what each returned, and the queue after it. -/
def run (q : RingQueue α count) : List (Op α) → List (Reply α × RingQueue α count)
  | [] => []
  | op :: ops => q.apply op :: (q.apply op).2.run ops

end RingQueue

/-- What the queue is meant to be: a FIFO list of at most `count` elements, with the number of
pushes it accepted since it was created or cleared. -/
structure Fifo (α : Type) where
  items : List α
  accepted : Nat

/-- A call on the FIFO list, with the list it leaves. -/
def Fifo.apply (capacity : Nat) (f : Fifo α) : Op α → Reply α × Fifo α
  | .push entry =>
      if f.items.length = capacity then (.error (.overflowError "ring_queue is full"), f)
      else (.done, ⟨f.items ++ [entry], f.accepted + 1⟩)
  | .pop =>
      match f.items with
      | [] => (.error (.underflowError "ring_queue is empty"), f)
      | value :: rest => (.element value, ⟨rest, f.accepted⟩)
  | .front =>
      match f.items with
      | [] => (.error (.underflowError "ring_queue is empty"), f)
      | value :: _ => (.element value, f)
  | .back =>
      match f.items.getLast? with
      | none => (.error (.underflowError "ring_queue is empty"), f)
      | some value => (.element value, f)
  | .size => (.count (BitVec.ofNat 64 f.items.length), f)
  | .empty => (.flag f.items.isEmpty, f)
  | .full => (.flag (f.items.length = capacity), f)
  | .clear => (.done, ⟨[], 0⟩)

/-- Successive calls on the FIFO list. -/
def Fifo.run (capacity : Nat) (f : Fifo α) : List (Op α) → List (Reply α × Fifo α)
  | [] => []
  | op :: ops => f.apply capacity op :: (f.apply capacity op).2.run capacity ops

/-! ## The queue refines the FIFO list -/

/-- The queue holds the list, whatever its counters: at most `count` elements, and the elements at
the counters `head_` up to `tail_ - 1` are the list. -/
structure Represents (q : RingQueue α count) (f : Fifo α) : Prop where
  bounded : f.items.length ≤ count
  contents : q.contents = f.items

/-- The queue holds the list: its counters have not wrapped, `tail_` counts the accepted pushes,
and the elements at `head_` to `tail_ - 1` are the list. -/
structure Holds (q : RingQueue α count) (f : Fifo α) : Prop where
  ordered : q.head.toNat ≤ q.tail.toNat
  pushes : q.tail.toNat = f.accepted
  bounded : f.items.length ≤ count
  contents : q.contents = f.items

/-- Two counters less than `count` apart sit in different slots. -/
theorem of_nat_ne {a b : Nat} (before : a < b) (near : b - a < count) :
    Fin.ofNat' count a ≠ Fin.ofNat' count b := by
  intro same
  have apart := Nat.sub_mod_eq_zero_of_mod_eq (Fin.val_eq_of_eq same).symm
  rw [Nat.mod_eq_of_lt near] at apart
  omega

namespace RingQueue

omit [NeZero count] in
theorem size_toNat {q : RingQueue α count} (ordered : q.head.toNat ≤ q.tail.toNat) :
    q.size.toNat = q.tail.toNat - q.head.toNat := by
  have := q.head.isLt
  simp only [size, BitVec.toNat_sub]
  omega

@[simp] theorem contents_length (q : RingQueue α count) : q.contents.length = q.size.toNat := by
  simp [contents]

theorem contents_clear (q : RingQueue α count) : q.clear.contents = [] := by
  simp [contents, clear, size]

omit [NeZero count] in
theorem size_eq_zero_iff {q : RingQueue α count} : q.size = 0 ↔ q.size.toNat = 0 :=
  BitVec.toNat_eq

omit [NeZero count] in
theorem empty_iff {q : RingQueue α count} : q.empty = true ↔ q.size.toNat = 0 := by
  rw [empty, decide_eq_true_iff, size_eq_zero_iff]

theorem apply_front_snd (q : RingQueue α count) : (q.apply .front).2 = q := by
  simp only [apply]
  split <;> rfl

theorem apply_back_snd (q : RingQueue α count) : (q.apply .back).2 = q := by
  simp only [apply]
  split <;> rfl

end RingQueue

theorem Fifo.apply_front_snd (capacity : Nat) (f : Fifo α) : (f.apply capacity .front).2 = f := by
  simp only [Fifo.apply]
  split <;> rfl

theorem Fifo.apply_back_snd (capacity : Nat) (f : Fifo α) : (f.apply capacity .back).2 = f := by
  simp only [Fifo.apply]
  split <;> rfl

namespace Represents

/-! Each call answers as the list does, whatever the counters, given how the slots of `head_` and
`tail_` sit: that is all the counter arithmetic each step needs, and `Holds` and the wrapping
section below each supply it once. -/

variable {q : RingQueue α count} {f : Fifo α}

theorem length_eq (represents : Represents q f) : f.items.length = q.size.toNat := by
  rw [← represents.contents, RingQueue.contents_length]

theorem items_eq (represents : Represents q f) :
    f.items = (List.range q.size.toNat).map fun i => q.data (Fin.ofNat' count (q.head.toNat + i)) :=
  represents.contents.symm

/-- The front of a nonempty list is the slot of `head_`, and the rest follows it. -/
theorem cons (represents : Represents q f) {value : α} {rest : List α}
    (items : f.items = value :: rest) :
    q.size.toNat = rest.length + 1 ∧ value = q.data (RingQueue.slot q.head) ∧
      rest = (List.range rest.length).map
        fun i => q.data (Fin.ofNat' count (q.head.toNat + (i + 1))) := by
  have size : q.size.toNat = rest.length + 1 := by rw [← represents.length_eq, items]; rfl
  have spread := represents.items_eq
  rw [items, size, List.range_succ_eq_map, List.map_cons, List.map_map] at spread
  obtain ⟨first, following⟩ := List.cons.inj spread
  exact ⟨size, first, following⟩

theorem nil (represents : Represents q f) (items : f.items = []) : q.size = 0 :=
  RingQueue.size_eq_zero_iff.mpr (by rw [← represents.length_eq, items]; rfl)

/-- A call that does not change the queue or the list keeps the one holding the other. -/
theorem query (represents : Represents q f) {op : Op α} (same : (q.apply op).2 = q)
    (sameList : (f.apply count op).2 = f) : Represents (q.apply op).2 (f.apply count op).2 := by
  rw [same, sameList]
  exact represents

/-- `push(entry)`, when `slot(tail_)` is the slot after the last element and, with room left,
`tail_ + 1 - head_` is one more than the size. -/
theorem push (represents : Represents q f) (entry : α)
    (tailSlot : RingQueue.slot q.tail = Fin.ofNat' count (q.head.toNat + q.size.toNat))
    (grows : q.size.toNat < count → (q.tail + 1 - q.head).toNat = q.size.toNat + 1) :
    (q.apply (.push entry)).1 = (f.apply count (.push entry)).1 ∧
      Represents (q.apply (.push entry)).2 (f.apply count (.push entry)).2 := by
  have length := represents.length_eq
  have bounded := represents.bounded
  by_cases full : f.items.length = count
  · have rejected : count ≤ q.size.toNat := by omega
    have qStep : q.apply (.push entry) = (.error (.overflowError "ring_queue is full"), q) := by
      simp only [RingQueue.apply, RingQueue.push, if_pos rejected]
    have fStep : f.apply count (.push entry) = (.error (.overflowError "ring_queue is full"), f) := by
      simp only [Fifo.apply, if_pos full]
    rw [qStep, fStep]
    exact ⟨rfl, represents⟩
  · have accepted : ¬count ≤ q.size.toNat := by omega
    have grown : ({ q with
        data := Function.update q.data (RingQueue.slot q.tail) entry, tail := q.tail + 1 } :
          RingQueue α count).size.toNat = q.size.toNat + 1 := grows (by omega)
    have qStep : q.apply (.push entry) = (.done, { q with
        data := Function.update q.data (RingQueue.slot q.tail) entry, tail := q.tail + 1 }) := by
      simp only [RingQueue.apply, RingQueue.push, if_neg accepted]
    have fStep : f.apply count (.push entry) = (.done, ⟨f.items ++ [entry], f.accepted + 1⟩) := by
      simp only [Fifo.apply, if_neg full]
    rw [qStep, fStep]
    refine ⟨rfl, by simp only [List.length_append, List.length_singleton]; omega, ?_⟩
    simp only [RingQueue.contents, grown, List.range_succ, List.map_append,
      List.map_singleton, represents.items_eq]
    congr 1
    · refine List.map_congr_left fun i member => Function.update_noteq ?_ _ _
      rw [List.mem_range] at member
      rw [tailSlot]
      exact of_nat_ne (by omega) (by omega)
    · rw [← tailSlot]
      exact congrArg (· :: []) (Function.update_same _ _ _)

/-- `pop()`, when on a nonempty queue the slots from `head_ + 1` on are those after `head_` and
`tail_ - (head_ + 1)` is one less than the size. -/
theorem pop (represents : Represents q f)
    (headNext : q.size.toNat ≠ 0 → ∀ i, Fin.ofNat' count ((q.head + 1).toNat + i) =
      Fin.ofNat' count (q.head.toNat + (i + 1)))
    (shrinks : q.size.toNat ≠ 0 → (q.tail - (q.head + 1)).toNat = q.size.toNat - 1) :
    (q.apply .pop).1 = (f.apply count .pop).1 ∧
      Represents (q.apply .pop).2 (f.apply count .pop).2 := by
  cases items : f.items with
  | nil =>
      have empty : q.tail - q.head = 0 := represents.nil items
      have qStep : q.apply .pop = (.error (.underflowError "ring_queue is empty"), q) := by
        simp only [RingQueue.apply, RingQueue.pop, if_pos empty]
      have fStep : f.apply count .pop = (.error (.underflowError "ring_queue is empty"), f) := by
        simp only [Fifo.apply, items]
      rw [qStep, fStep]
      exact ⟨rfl, represents⟩
  | cons value rest =>
      obtain ⟨size, first, following⟩ := represents.cons items
      have nonempty : ¬q.tail - q.head = 0 := fun zero => by
        rw [RingQueue.size_eq_zero_iff.mp zero] at size
        omega
      have qStep : q.apply .pop =
          (.element (q.data (RingQueue.slot q.head)), { q with head := q.head + 1 }) := by
        simp only [RingQueue.apply, RingQueue.pop, if_neg nonempty]
      have fStep : f.apply count .pop = (.element value, ⟨rest, f.accepted⟩) := by
        simp only [Fifo.apply, items]
      have shrunk : ({ q with head := q.head + 1 } : RingQueue α count).size.toNat =
          rest.length := by
        show (q.tail - (q.head + 1)).toNat = rest.length
        rw [shrinks (by omega)]
        omega
      rw [qStep, fStep]
      refine ⟨by rw [first], ?_, ?_⟩
      · have := represents.bounded
        rw [items, List.length_cons] at this
        show rest.length ≤ count
        omega
      · simp only [RingQueue.contents, shrunk]
        rw [following, List.length_map, List.length_range]
        exact List.map_congr_left fun i _ => congrArg q.data (headNext (by omega) i)

theorem front (represents : Represents q f) : (q.apply .front).1 = (f.apply count .front).1 := by
  cases items : f.items with
  | nil =>
      have threw : q.front = .error (.underflowError "ring_queue is empty") := by
        rw [RingQueue.front, if_pos (RingQueue.empty_iff.mpr
          (RingQueue.size_eq_zero_iff.mp (represents.nil items)))]
      unfold RingQueue.apply Fifo.apply
      rw [threw, items]
  | cons value rest =>
      obtain ⟨size, first, -⟩ := represents.cons items
      have returned : q.front = .ok (q.data (RingQueue.slot q.head)) := by
        rw [RingQueue.front, if_neg fun zero => by
          rw [RingQueue.empty_iff.mp zero] at size; omega]
      unfold RingQueue.apply Fifo.apply
      rw [returned, items, first]

/-- `back()`, when on a nonempty queue `slot(tail_ - 1)` is the slot of the last element. -/
theorem back (represents : Represents q f)
    (lastSlot : q.size.toNat ≠ 0 →
      RingQueue.slot (q.tail - 1) = Fin.ofNat' count (q.head.toNat + (q.size.toNat - 1))) :
    (q.apply .back).1 = (f.apply count .back).1 := by
  have last : f.items.getLast? =
      if q.size.toNat = 0 then none
      else some (q.data (Fin.ofNat' count (q.head.toNat + (q.size.toNat - 1)))) := by
    rw [represents.items_eq, List.getLast?_map, List.getLast?_range]
    split <;> rfl
  unfold RingQueue.apply Fifo.apply
  rw [last]
  by_cases empty : q.size.toNat = 0
  · have threw : q.back = .error (.underflowError "ring_queue is empty") := by
      rw [RingQueue.back, if_pos (RingQueue.empty_iff.mpr empty)]
    rw [threw, if_pos empty]
  · have returned : q.back = .ok (q.data (RingQueue.slot (q.tail - 1))) := by
      rw [RingQueue.back, if_neg fun zero => empty (RingQueue.empty_iff.mp zero)]
    rw [returned, if_neg empty, lastSlot empty]

theorem size (represents : Represents q f) : (q.apply .size).1 = (f.apply count .size).1 := by
  show Reply.count q.size = Reply.count (BitVec.ofNat 64 f.items.length)
  rw [represents.length_eq, BitVec.ofNat_toNat, BitVec.setWidth_eq]

theorem empty (represents : Represents q f) : (q.apply .empty).1 = (f.apply count .empty).1 := by
  show Reply.flag q.empty = Reply.flag f.items.isEmpty
  congr 1
  rw [Bool.eq_iff_iff, RingQueue.empty_iff, List.isEmpty_iff, ← List.length_eq_zero,
    represents.length_eq]

theorem full (represents : Represents q f) : (q.apply .full).1 = (f.apply count .full).1 := by
  show Reply.flag (decide (count ≤ q.size.toNat)) = Reply.flag (decide (f.items.length = count))
  have := represents.bounded
  rw [represents.length_eq] at this ⊢
  congr 1
  exact decide_eq_decide.mpr (by omega)

end Represents

namespace Holds

variable {q : RingQueue α count} {f : Fifo α}

theorem represents (holds : Holds q f) : Represents q f := ⟨holds.bounded, holds.contents⟩

/-- A call that does not change the queue, answered alike. -/
theorem query (holds : Holds q f) {op : Op α} (same : (q.apply op).2 = q)
    (sameList : (f.apply count op).2 = f) (reply : (q.apply op).1 = (f.apply count op).1) :
    (q.apply op).1 = (f.apply count op).1 ∧ Holds (q.apply op).2 (f.apply count op).2 := by
  rw [same, sameList]
  exact ⟨reply, holds⟩

theorem push (holds : Holds q f) (entry : α)
    (noWrap : (f.apply count (.push entry)).2.accepted < 2 ^ 64) :
    (q.apply (.push entry)).1 = (f.apply count (.push entry)).1 ∧
      Holds (q.apply (.push entry)).2 (f.apply count (.push entry)).2 := by
  have size := RingQueue.size_toNat holds.ordered
  have length := holds.represents.length_eq
  have ordered := holds.ordered
  have bounded := holds.bounded
  by_cases full : f.items.length = count
  · have qStep : q.apply (.push entry) = (.error (.overflowError "ring_queue is full"), q) := by
      simp only [RingQueue.apply, RingQueue.push, if_pos (show count ≤ q.size.toNat by omega)]
    have fStep : f.apply count (.push entry) = (.error (.overflowError "ring_queue is full"), f) := by
      simp only [Fifo.apply, if_pos full]
    rw [qStep, fStep]
    exact ⟨rfl, holds⟩
  · have fStep : f.apply count (.push entry) = (.done, ⟨f.items ++ [entry], f.accepted + 1⟩) := by
      simp only [Fifo.apply, if_neg full]
    have tailNext : (q.tail + 1).toNat = q.tail.toNat + 1 := by
      rw [fStep] at noWrap
      rw [BitVec.toNat_add]
      exact Nat.mod_eq_of_lt (by rw [← holds.pushes] at noWrap; exact noWrap)
    have qStep : q.apply (.push entry) = (.done, { q with
        data := Function.update q.data (RingQueue.slot q.tail) entry, tail := q.tail + 1 }) := by
      simp only [RingQueue.apply, RingQueue.push, if_neg (show ¬count ≤ q.size.toNat by omega)]
    obtain ⟨-, represents⟩ := holds.represents.push entry
      (by unfold RingQueue.slot; congr 1; omega)
      fun _ => by
        have := q.head.isLt
        rw [BitVec.toNat_sub, tailNext]
        omega
    rw [qStep, fStep] at represents ⊢
    exact ⟨rfl, by simp only [tailNext]; omega, by simp only [tailNext, holds.pushes],
      represents.bounded, represents.contents⟩

theorem pop (holds : Holds q f) :
    (q.apply .pop).1 = (f.apply count .pop).1 ∧ Holds (q.apply .pop).2 (f.apply count .pop).2 := by
  have size := RingQueue.size_toNat holds.ordered
  have headNext (nonempty : q.size.toNat ≠ 0) : (q.head + 1).toNat = q.head.toNat + 1 := by
    have := q.tail.isLt
    rw [BitVec.toNat_add, show (1 : SizeT).toNat = 1 from rfl]
    exact Nat.mod_eq_of_lt (by omega)
  obtain ⟨reply, represents⟩ := holds.represents.pop
    (fun nonempty i => by rw [headNext nonempty, Nat.add_assoc, Nat.add_comm 1 i])
    fun nonempty => by
      have := q.tail.isLt
      rw [BitVec.toNat_sub, headNext nonempty]
      omega
  by_cases empty : q.tail - q.head = 0
  · have qStep : q.apply .pop = (.error (.underflowError "ring_queue is empty"), q) := by
      simp only [RingQueue.apply, RingQueue.pop, if_pos empty]
    have fStep : f.apply count .pop = (.error (.underflowError "ring_queue is empty"), f) := by
      have zero := holds.represents.length_eq
      rw [show q.size.toNat = 0 from RingQueue.size_eq_zero_iff.mp empty,
        List.length_eq_zero] at zero
      simp only [Fifo.apply, zero]
    rw [qStep, fStep]
    exact ⟨rfl, holds⟩
  · have nonempty : q.size.toNat ≠ 0 := fun zero => empty (RingQueue.size_eq_zero_iff.mpr zero)
    have qStep : q.apply .pop =
        (.element (q.data (RingQueue.slot q.head)), { q with head := q.head + 1 }) := by
      simp only [RingQueue.apply, RingQueue.pop, if_neg empty]
    have accepted : (f.apply count .pop).2.accepted = f.accepted := by
      simp only [Fifo.apply]
      split <;> rfl
    rw [qStep] at reply represents ⊢
    exact ⟨reply, by simp only [headNext nonempty]; omega, accepted ▸ holds.pushes,
      represents.bounded, represents.contents⟩

theorem front (holds : Holds q f) :
    (q.apply .front).1 = (f.apply count .front).1 ∧
      Holds (q.apply .front).2 (f.apply count .front).2 :=
  holds.query (RingQueue.apply_front_snd q) (Fifo.apply_front_snd count f) holds.represents.front

theorem back (holds : Holds q f) :
    (q.apply .back).1 = (f.apply count .back).1 ∧
      Holds (q.apply .back).2 (f.apply count .back).2 := by
  have size := RingQueue.size_toNat holds.ordered
  refine holds.query (RingQueue.apply_back_snd q) (Fifo.apply_back_snd count f)
    (holds.represents.back fun nonempty => ?_)
  have := q.tail.isLt
  unfold RingQueue.slot
  rw [BitVec.toNat_sub, show (1 : SizeT).toNat = 1 from rfl]
  congr 1
  omega

theorem size (holds : Holds q f) :
    (q.apply .size).1 = (f.apply count .size).1 ∧
      Holds (q.apply .size).2 (f.apply count .size).2 :=
  holds.query rfl rfl holds.represents.size

theorem empty (holds : Holds q f) :
    (q.apply .empty).1 = (f.apply count .empty).1 ∧
      Holds (q.apply .empty).2 (f.apply count .empty).2 :=
  holds.query rfl rfl holds.represents.empty

theorem full (holds : Holds q f) :
    (q.apply .full).1 = (f.apply count .full).1 ∧
      Holds (q.apply .full).2 (f.apply count .full).2 :=
  holds.query rfl rfl holds.represents.full

theorem clear :
    (q.apply .clear).1 = (f.apply count .clear).1 ∧
      Holds (q.apply .clear).2 (f.apply count .clear).2 :=
  ⟨rfl, ⟨le_rfl, rfl, Nat.zero_le _, q.contents_clear⟩⟩

/-- Every call keeps the queue holding the list, and answers as the list does, while the
accepted pushes stay below `2^64`. -/
theorem apply (holds : Holds q f) (op : Op α)
    (noWrap : (f.apply count op).2.accepted < 2 ^ 64) :
    (q.apply op).1 = (f.apply count op).1 ∧ Holds (q.apply op).2 (f.apply count op).2 := by
  cases op with
  | push entry => exact holds.push entry noWrap
  | pop => exact holds.pop
  | front => exact holds.front
  | back => exact holds.back
  | size => exact holds.size
  | empty => exact holds.empty
  | full => exact holds.full
  | clear => exact Holds.clear

end Holds

theorem run_holds {q : RingQueue α count} {f : Fifo α} (ops : List (Op α)) (holds : Holds q f)
    (fewPushes : ∀ step ∈ f.run count ops, step.2.accepted < 2 ^ 64) :
    (q.run ops).map Prod.fst = (f.run count ops).map Prod.fst ∧
      (q.run ops).map (·.2.contents) = (f.run count ops).map (·.2.items) := by
  induction ops generalizing q f with
  | nil => exact ⟨rfl, rfl⟩
  | cons op ops ih =>
      simp only [Fifo.run, List.mem_cons, forall_eq_or_imp] at fewPushes
      obtain ⟨reply, next⟩ := holds.apply op fewPushes.1
      obtain ⟨replies, contents⟩ := ih next fewPushes.2
      simp only [RingQueue.run, Fifo.run, List.map_cons, reply, replies, next.contents, contents,
        and_self]

/-- From a fresh `ring_queue<T, COUNT>`, whatever `data_` holds, with fewer than `2^64` pushes
accepted after construction or the last `clear()`, every sequence of calls answers as the bounded
FIFO list does, and the queue's elements, front first, are that list after every call. -/
theorem ring_queue_refines_fifo (data : Fin count → α) (ops : List (Op α))
    (fewPushes : ∀ step ∈ (Fifo.mk [] 0 : Fifo α).run count ops, step.2.accepted < 2 ^ 64) :
    (RingQueue.run ⟨0, 0, data⟩ ops).map Prod.fst =
        ((Fifo.mk [] 0 : Fifo α).run count ops).map Prod.fst ∧
      (RingQueue.run ⟨0, 0, data⟩ ops).map (·.2.contents) =
        ((Fifo.mk [] 0 : Fifo α).run count ops).map (·.2.items) :=
  run_holds ops ⟨le_rfl, rfl, Nat.zero_le _, RingQueue.contents_clear ⟨0, 0, data⟩⟩ fewPushes

/-- Three slots: fill, overflow, pop, wrap around, look at both ends, clear, underflow. -/
def wrapAround : List (Op Nat) :=
  [.push 1, .push 2, .push 3, .push 4, .pop, .push 5, .back, .front, .size, .full, .clear, .pop,
    .empty]

theorem ring_queue_refines_fifo_wrap_around :
    NeZero 3 ∧ (∀ step ∈ (Fifo.mk [] 0 : Fifo Nat).run 3 wrapAround, step.2.accepted < 2 ^ 64) ∧
      (RingQueue.run (⟨0, 0, fun _ => 0⟩ : RingQueue Nat 3) wrapAround).map Prod.fst =
          ((Fifo.mk [] 0 : Fifo Nat).run 3 wrapAround).map Prod.fst ∧
        (RingQueue.run (⟨0, 0, fun _ => 0⟩ : RingQueue Nat 3) wrapAround).map (·.2.contents) =
          ((Fifo.mk [] 0 : Fifo Nat).run 3 wrapAround).map (·.2.items) :=
  have fewPushes : ∀ step ∈ (Fifo.mk [] 0 : Fifo Nat).run 3 wrapAround,
      step.2.accepted < 2 ^ 64 := by decide
  ⟨inferInstance, fewPushes, ring_queue_refines_fifo (fun _ => 0) wrapAround fewPushes⟩

/-! ## Past the wrap of the counters

When `COUNT` divides `2^64`, a counter modulo `COUNT` does not see the wrap of the counter at
`2^64`: the slots of `head_`, `tail_` and of the elements between them stay in step whatever the
counters, and a `COUNT` below `2^64` keeps the size `tail_ - head_` below the wrap too. The queue
then refines the list along every run, with no bound on the pushes
(`ring_queue_refines_fifo_past_wrap`). With three slots it does not: two pushes across the wrap land
in the same slot (`three_slots_overwrite_past_wrap`). -/

section Wrapping

variable (dvd : count ∣ 2 ^ 64)

include dvd

/-- The slot of a sum of counters, wrapped at `2^64`, is the slot of their sum. -/
theorem slot_add (a b : SizeT) :
    (RingQueue.slot (a + b) : Fin count) = Fin.ofNat' count (a.toNat + b.toNat) := by
  unfold RingQueue.slot
  rw [BitVec.toNat_add]
  exact Fin.ext (by simp only [Fin.val_ofNat']; exact Nat.mod_mod_of_dvd _ dvd)

/-- `tail_` is `head_` plus the size: its slot follows the last element. -/
theorem tail_slot (q : RingQueue α count) :
    RingQueue.slot q.tail = Fin.ofNat' count (q.head.toNat + q.size.toNat) := by
  rw [← slot_add dvd, show q.head + q.size = q.tail by simp only [RingQueue.size]; abel]

/-- The slots from `head_ + 1` on are those after `head_`. -/
theorem head_next (q : RingQueue α count) (i : Nat) :
    Fin.ofNat' count ((q.head + 1).toNat + i) = Fin.ofNat' count (q.head.toNat + (i + 1)) := by
  refine Fin.ext ?_
  simp only [Fin.val_ofNat', BitVec.toNat_add, show (1 : SizeT).toNat = 1 from rfl]
  rw [Nat.add_mod, Nat.mod_mod_of_dvd _ dvd, ← Nat.add_mod, Nat.add_assoc, Nat.add_comm 1 i]

/-- On a nonempty queue `tail_ - 1` is `head_` plus one less than the size. -/
theorem last_slot (q : RingQueue α count) (nonempty : q.size.toNat ≠ 0) :
    RingQueue.slot (q.tail - 1) = Fin.ofNat' count (q.head.toNat + (q.size.toNat - 1)) := by
  have less : (q.size - 1).toNat = q.size.toNat - 1 := by
    rw [BitVec.toNat_sub, show (1 : SizeT).toNat = 1 from rfl]
    omega
  rw [show q.tail - 1 = q.head + (q.size - 1) by simp only [RingQueue.size]; abel,
    slot_add dvd, less]

/-- With `COUNT` dividing `2^64` and below it, every call keeps the queue holding the list, and
answers as the list does, whatever its counters. -/
theorem Represents.apply (small : count < 2 ^ 64) {q : RingQueue α count} {f : Fifo α}
    (represents : Represents q f) (op : Op α) :
    (q.apply op).1 = (f.apply count op).1 ∧ Represents (q.apply op).2 (f.apply count op).2 := by
  cases op with
  | push entry =>
      refine represents.push entry (tail_slot dvd q) fun room => ?_
      rw [show q.tail + 1 - q.head = q.size + 1 by simp only [RingQueue.size]; abel,
        BitVec.toNat_add, show (1 : SizeT).toNat = 1 from rfl]
      exact Nat.mod_eq_of_lt (by omega)
  | pop =>
      refine represents.pop (fun _ => head_next dvd q) fun nonempty => ?_
      have := q.size.isLt
      rw [show q.tail - (q.head + 1) = q.size - 1 by simp only [RingQueue.size]; abel,
        BitVec.toNat_sub, show (1 : SizeT).toNat = 1 from rfl]
      omega
  | front =>
      exact ⟨represents.front,
        represents.query (RingQueue.apply_front_snd q) (Fifo.apply_front_snd count f)⟩
  | back =>
      exact ⟨represents.back (last_slot dvd q),
        represents.query (RingQueue.apply_back_snd q) (Fifo.apply_back_snd count f)⟩
  | size => exact ⟨represents.size, represents.query rfl rfl⟩
  | empty => exact ⟨represents.empty, represents.query rfl rfl⟩
  | full => exact ⟨represents.full, represents.query rfl rfl⟩
  | clear => exact ⟨rfl, Nat.zero_le _, q.contents_clear⟩

end Wrapping

/-- With `COUNT` a divisor of `2^64` below it, from any queue that holds a list, its counters
wrapped or not, every sequence of calls answers as the bounded FIFO list does, and the queue's
elements, front first, are that list after every call, however many pushes it accepts. -/
theorem ring_queue_refines_fifo_past_wrap (dvd : count ∣ 2 ^ 64) (small : count < 2 ^ 64)
    {q : RingQueue α count} {f : Fifo α} (represents : Represents q f) (ops : List (Op α)) :
    (q.run ops).map Prod.fst = (f.run count ops).map Prod.fst ∧
      (q.run ops).map (·.2.contents) = (f.run count ops).map (·.2.items) := by
  induction ops generalizing q f with
  | nil => exact ⟨rfl, rfl⟩
  | cons op ops ih =>
      obtain ⟨reply, next⟩ := represents.apply dvd small op
      obtain ⟨replies, contents⟩ := ih next
      simp only [RingQueue.run, Fifo.run, List.map_cons, reply, replies, next.contents, contents,
        and_self]

/-- Four slots holding three elements across the wrap: `head_` at `2^64 - 2` and `tail_` at 1. -/
def wrappedQueue : RingQueue Nat 4 := ⟨-2, 1, fun i => [30, 0, 10, 20].getD i 0⟩

/-- Pop, push twice, pop again past the wrap, and look at the queue. -/
def pastWrap : List (Op Nat) := [.pop, .push 40, .push 50, .pop, .back, .front, .size, .full]

theorem ring_queue_refines_fifo_past_wrap_four_slots :
    4 ∣ 2 ^ 64 ∧ 4 < 2 ^ 64 ∧ Represents wrappedQueue ⟨[10, 20, 30], 0⟩ ∧
      (wrappedQueue.run pastWrap).map Prod.fst =
          ((Fifo.mk [10, 20, 30] 0 : Fifo Nat).run 4 pastWrap).map Prod.fst ∧
        (wrappedQueue.run pastWrap).map (·.2.contents) =
          ((Fifo.mk [10, 20, 30] 0 : Fifo Nat).run 4 pastWrap).map (·.2.items) :=
  have represents : Represents wrappedQueue ⟨[10, 20, 30], 0⟩ := ⟨by decide, by decide⟩
  ⟨by decide, by decide, represents,
    ring_queue_refines_fifo_past_wrap (by decide) (by decide) represents pastWrap⟩

/-- Three slots, with both counters at `2^64 - 1`, where `2^64 - 1` pushes each followed by a pop
leave a fresh queue: the second push wraps `tail_` to 0, whose slot is that of `2^64 - 1`, and
overwrites the first element, so the pop returns 2 where the list returns 1. -/
theorem three_slots_overwrite_past_wrap :
    Represents (⟨-1, -1, fun _ => 0⟩ : RingQueue Nat 3) ⟨[], 0⟩ ∧
      ((⟨-1, -1, fun _ => 0⟩ : RingQueue Nat 3).run [.push 1, .push 2, .pop]).map Prod.fst =
        [.done, .done, .element 2] ∧
      ((Fifo.mk [] 0 : Fifo Nat).run 3 [.push 1, .push 2, .pop]).map Prod.fst =
        [.done, .done, .element 1] :=
  ⟨⟨by decide, by decide⟩, by decide, by decide⟩

end IowarpCore.Ipc.PreRingQueue
