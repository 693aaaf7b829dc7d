import IowarpCore.Types.Numbers
import Mathlib.Data.List.Count
import Mathlib.Data.List.Nodup
import Mathlib.Algebra.BigOperators.Group.List

/-!
# Round-robin dealing

What `AssignToWorkerType`'s round robin is for, stated without the runtime: a counter that starts
at `idx` deals the `k`-th task of a sequence to `targets[(idx + k) % targets.length]`, and
`dealtTo` is the subsequence one target receives. Over distinct targets each target receives
`k / m` tasks, one more when its turn falls in the last, partial round (`dealt_to_length`), so any
two counts differ by at most one, and every task goes to exactly one target
(`sum_dealt_to_length`). `DefaultScheduler` proves that the code deals this way.
-/

namespace IowarpCore.Scheduler.RoundRobin

set_option autoImplicit false

variable {α : Type}

/-- The tasks, in order, that `target` receives when the counter starts at `idx`. -/
def dealtTo (targets : List Nat) (target : Nat) : Nat → List α → List α
  | _, [] => []
  | idx, task :: rest =>
      (if targets[idx % targets.length]? = some target then [task] else []) ++
        dealtTo targets target (idx + 1) rest

/-- How many counter values after one with remainder `a` the next one with remainder `j` comes,
in a round of `m`. -/
def gap (m a j : Nat) : Nat := if a ≤ j then j - a else j + m - a

theorem dealt_to_append (targets : List Nat) (target idx : Nat) (xs ys : List α) :
    dealtTo targets target idx (xs ++ ys) =
      dealtTo targets target idx xs ++ dealtTo targets target (idx + xs.length) ys := by
  induction xs generalizing idx with
  | nil => rfl
  | cons task rest ih =>
      rw [List.cons_append, dealtTo, dealtTo, ih, List.append_assoc, List.length_cons,
        show idx + (rest.length + 1) = idx + 1 + rest.length by omega]

theorem dealt_to_eq_nil_of_not_mem (targets : List Nat) (target idx : Nat) (xs : List α)
    (outside : target ∉ targets) : dealtTo targets target idx xs = [] := by
  induction xs generalizing idx with
  | nil => rfl
  | cons task rest ih =>
      have never : targets[idx % targets.length]? ≠ some target :=
        fun found => outside (List.mem_iff_getElem?.mpr ⟨_, found⟩)
      rw [dealtTo, if_neg never, ih, List.append_nil]

theorem succ_mod_eq (m idx : Nat) (positive : 0 < m) :
    (idx + 1) % m = if idx % m + 1 = m then 0 else idx % m + 1 := by
  have below := Nat.mod_lt idx positive
  rw [← Nat.mod_add_mod]
  split
  · rw [‹idx % m + 1 = m›, Nat.mod_self]
  · exact Nat.mod_eq_of_lt (by omega)

/-- Away from `j`'s turn, the next counter value is one step closer to it. -/
theorem gap_eq_of_ne (m idx j : Nat) (positive : 0 < m) (index : j < m) (other : idx % m ≠ j) :
    gap m (idx % m) j = gap m ((idx + 1) % m) j + 1 := by
  have below := Nat.mod_lt idx positive
  rw [succ_mod_eq m idx positive]
  unfold gap
  split_ifs <;> omega

/-- Right after a target's turn, its next turn is a whole round away. -/
theorem gap_succ_self (m idx : Nat) (positive : 0 < m) :
    gap m ((idx + 1) % m) (idx % m) = m - 1 := by
  have below := Nat.mod_lt idx positive
  rw [succ_mod_eq m idx positive]
  unfold gap
  split_ifs <;> omega

section Distinct

variable (targets : List Nat) (distinct : targets.Nodup) (j : Nat) (index : j < targets.length)
include distinct index

theorem getElem?_eq_iff (idx : Nat) :
    targets[idx % targets.length]? = some targets[j] ↔ idx % targets.length = j := by
  have below := Nat.mod_lt idx (by omega : 0 < targets.length)
  rw [List.getElem?_eq_getElem below, Option.some_inj, distinct.getElem_inj_iff]

/-- Within one round, a target receives a task exactly when its turn comes before the end. -/
theorem dealt_to_length_of_short (idx : Nat) (xs : List α) (short : xs.length ≤ targets.length) :
    (dealtTo targets targets[j] idx xs).length =
      if gap targets.length (idx % targets.length) j < xs.length then 1 else 0 := by
  induction xs generalizing idx with
  | nil => simp [dealtTo]
  | cons task rest ih =>
      have positive : 0 < targets.length := by omega
      simp only [List.length_cons] at short
      rw [dealtTo, List.length_append, ih (idx + 1) (by omega)]
      by_cases turn : idx % targets.length = j
      · have wholeRound : ¬targets.length - 1 < rest.length := by omega
        rw [if_pos ((getElem?_eq_iff targets distinct j index idx).mpr turn), ← turn,
          gap_succ_self _ _ positive, if_neg wholeRound, gap, if_pos le_rfl, Nat.sub_self,
          if_pos (show 0 < (task :: rest).length from Nat.succ_pos _)]
        rfl
      · rw [if_neg (mt (getElem?_eq_iff targets distinct j index idx).mp turn),
          gap_eq_of_ne _ _ _ positive index turn]
        simp only [List.length_nil, List.length_cons, Nat.zero_add, Nat.add_lt_add_iff_right]

/-- Each target receives one task per whole round, and one more if its turn falls in the last,
partial round. -/
theorem dealt_to_length (idx : Nat) (xs : List α) :
    (dealtTo targets targets[j] idx xs).length = xs.length / targets.length +
      if gap targets.length (idx % targets.length) j < xs.length % targets.length then 1 else 0 := by
  have positive : 0 < targets.length := by omega
  by_cases short : xs.length < targets.length
  · rw [dealt_to_length_of_short targets distinct j index idx xs short.le,
      Nat.div_eq_of_lt short, Nat.mod_eq_of_lt short, Nat.zero_add]
  · have round := dealt_to_length (idx + targets.length) (xs.drop targets.length)
    have whole : (xs.take targets.length).length = targets.length := by simp; omega
    have full : gap targets.length (idx % targets.length) j < targets.length := by
      have := Nat.mod_lt idx positive
      unfold gap
      split <;> omega
    have rounds : dealtTo targets targets[j] idx xs = dealtTo targets targets[j] idx
        (xs.take targets.length) ++ dealtTo targets targets[j] (idx + targets.length)
          (xs.drop targets.length) := by
      conv_lhs => rw [← List.take_append_drop targets.length xs]
      rw [dealt_to_append, whole]
    rw [List.length_drop, Nat.add_mod_right, ← Nat.mod_eq_sub_mod (by omega)] at round
    rw [rounds, List.length_append, dealt_to_length_of_short targets distinct j index idx _ whole.le,
      whole, round, if_pos full,
      Nat.div_eq_sub_div positive (by omega : targets.length ≤ xs.length)]
    omega
termination_by xs.length
decreasing_by simp only [List.length_drop]; omega

/-- Any two distinct targets receive counts that differ by at most one. -/
theorem dealt_to_length_fair (idx : Nat) (xs : List α) (j' : Nat) (index' : j' < targets.length) :
    (dealtTo targets targets[j] idx xs).length ≤ (dealtTo targets targets[j'] idx xs).length + 1 := by
  rw [dealt_to_length targets distinct j index, dealt_to_length targets distinct j' index']
  split_ifs <;> omega

end Distinct

theorem sum_map_ite_eq_count (targets : List Nat) (picked : Nat) :
    (targets.map fun target => if picked = target then 1 else 0).sum = targets.count picked := by
  induction targets with
  | nil => rfl
  | cons target rest ih =>
      simp only [List.map_cons, List.sum_cons, ih, List.count_cons, beq_iff_eq]
      split_ifs <;> omega

/-- Over distinct targets every task goes to exactly one of them. -/
theorem sum_dealt_to_length (targets : List Nat) (distinct : targets.Nodup)
    (nonempty : 0 < targets.length) (idx : Nat) (xs : List α) :
    (targets.map fun target => (dealtTo targets target idx xs).length).sum = xs.length := by
  induction xs generalizing idx with
  | nil => exact List.sum_eq_zero (by simp [dealtTo])
  | cons task rest ih =>
      have below := Nat.mod_lt idx nonempty
      have picked : targets[idx % targets.length]? = some targets[idx % targets.length] :=
        List.getElem?_eq_getElem below
      have once := List.count_eq_one_of_mem distinct (List.getElem_mem below)
      have dealtOnce : (targets.map fun target =>
          (if targets[idx % targets.length] = target then [task] else []).length).sum = 1 := by
        rw [← once, ← sum_map_ite_eq_count]
        exact congrArg List.sum (List.map_congr_left fun target _ => by split_ifs <;> rfl)
      simp only [dealtTo, List.length_append, picked, Option.some_inj, List.length_cons,
        List.sum_map_add, ih, dealtOnce]
      omega

end IowarpCore.Scheduler.RoundRobin
