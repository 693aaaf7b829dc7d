import Mathlib.Algebra.Order.Field.Rat
import Mathlib.Tactic.Linarith

/-!
# Adaptive polling of periodic tasks

`DefaultScheduler::AdjustPolling` runs after each execution of a periodic task: a task that did
work polls again after its true period, and an idle one doubles its interval, starting from the
true period when the interval is not positive, up to `kMaxPollingIntervalUs` (100 ms).

The intervals are doubles. Doubling and comparing finite doubles are exact, so after the one
rounding of `true_period_ns_ / 1000.0`, which is the input `truePeriodUs` here, the code computes
exactly over the rationals. Over any run the interval stays at most the larger of the true period
and the cap (`poll_run_le`); idle calls after a working one double it up to the cap
(`poll_run_idle_doubling`); and a task whose true period is not positive never backs off: idle,
it polls again at twice its true period, which for a period of 0 is at once
(`poll_run_idle_of_nonpos_period`).
-/

namespace IowarpCore.Scheduler.Polling

set_option autoImplicit false

def kMaxPollingIntervalUs : ℚ := 100000

/-- The fields of `RunContext` that `AdjustPolling` reads and writes; `truePeriodUs` is
`true_period_ns_ / 1000.0` as the code rounds it. -/
structure RunContext where
  didWork : Bool
  truePeriodUs : ℚ
  yieldTimeUs : ℚ
  deriving DecidableEq, Repr

/-- The interval `AdjustPolling` leaves in `yield_time_us_`. -/
def nextInterval (truePeriodUs : ℚ) (didWork : Bool) (yieldTimeUs : ℚ) : ℚ :=
  if didWork then truePeriodUs
  else
    let currentInterval := if yieldTimeUs ≤ 0 then truePeriodUs else yieldTimeUs
    let newInterval := currentInterval * 2
    if newInterval > kMaxPollingIntervalUs then kMaxPollingIntervalUs else newInterval

/-- `DefaultScheduler::AdjustPolling(run_ctx)`; a null `run_ctx` is left alone. -/
def adjustPolling (runCtx : Option RunContext) : Option RunContext :=
  runCtx.map fun ctx =>
    { ctx with yieldTimeUs := nextInterval ctx.truePeriodUs ctx.didWork ctx.yieldTimeUs }

/-- A periodic task's interval after it runs once per flag, each flag saying whether that run did
work, with `AdjustPolling` after each. -/
def pollRun (truePeriodUs : ℚ) (runs : List Bool) (yieldTimeUs : ℚ) : ℚ :=
  runs.foldl (fun interval didWork => nextInterval truePeriodUs didWork interval) yieldTimeUs

/-- The run context after the task runs once per flag, each run setting `did_work_`, with
`AdjustPolling` after each. -/
def runContexts (runs : List Bool) (runCtx : Option RunContext) : Option RunContext :=
  runs.foldl
    (fun runCtx didWork => adjustPolling (runCtx.map fun ctx => { ctx with didWork := didWork }))
    runCtx

/-- `pollRun` is the interval `AdjustPolling` leaves in the run context. -/
theorem run_contexts_yield_time_us (runs : List Bool) (ctx : RunContext) :
    (runContexts runs (some ctx)).map RunContext.yieldTimeUs =
      some (pollRun ctx.truePeriodUs runs ctx.yieldTimeUs) := by
  induction runs generalizing ctx with
  | nil => rfl
  | cons didWork rest ih => exact ih _

@[simp] theorem poll_run_nil (truePeriodUs yieldTimeUs : ℚ) :
    pollRun truePeriodUs [] yieldTimeUs = yieldTimeUs := rfl

@[simp] theorem poll_run_cons (truePeriodUs : ℚ) (didWork : Bool) (runs : List Bool)
    (yieldTimeUs : ℚ) :
    pollRun truePeriodUs (didWork :: runs) yieldTimeUs =
      pollRun truePeriodUs runs (nextInterval truePeriodUs didWork yieldTimeUs) := rfl

/-- An idle call doubles the interval, or the true period when the interval is not positive,
and caps it. -/
theorem next_interval_idle (truePeriodUs yieldTimeUs : ℚ) :
    nextInterval truePeriodUs false yieldTimeUs =
      min ((if yieldTimeUs ≤ 0 then truePeriodUs else yieldTimeUs) * 2)
        kMaxPollingIntervalUs := by
  rw [nextInterval, if_neg Bool.false_ne_true, min_def]
  dsimp only
  split_ifs <;> linarith

/-- One call leaves the interval at most the larger of the true period and the cap. -/
theorem next_interval_le (truePeriodUs : ℚ) (didWork : Bool) (yieldTimeUs : ℚ) :
    nextInterval truePeriodUs didWork yieldTimeUs ≤ max truePeriodUs kMaxPollingIntervalUs := by
  cases didWork with
  | true => exact le_max_left _ _
  | false => exact (next_interval_idle _ _ ▸ min_le_right _ _).trans (le_max_right _ _)

/-- After at least one call, the interval is at most the larger of the true period and 100 ms,
whatever it was before and whatever the runs did. -/
theorem poll_run_le (truePeriodUs : ℚ) (runs : List Bool) (yieldTimeUs : ℚ)
    (called : runs ≠ []) :
    pollRun truePeriodUs runs yieldTimeUs ≤ max truePeriodUs kMaxPollingIntervalUs := by
  induction runs generalizing yieldTimeUs with
  | nil => exact absurd rfl called
  | cons didWork rest ih =>
      rw [poll_run_cons]
      cases rest with
      | nil => exact next_interval_le _ _ _
      | cons _ _ => exact ih _ (List.cons_ne_nil _ _)

theorem poll_run_le_of_one_busy_one_idle :
    [true, false] ≠ [] ∧
      pollRun 30 [true, false] (-1) ≤ max 30 kMaxPollingIntervalUs :=
  ⟨List.cons_ne_nil _ _, poll_run_le 30 [true, false] (-1) (List.cons_ne_nil _ _)⟩

/-- Capping a positive interval before further doublings or only after them gives the same
interval. -/
theorem min_cap_mul_pow (interval : ℚ) (positive : 0 < interval) (doublings : Nat) :
    min (min interval kMaxPollingIntervalUs * 2 ^ doublings) kMaxPollingIntervalUs =
      min (interval * 2 ^ doublings) kMaxPollingIntervalUs := by
  by_cases within : interval ≤ kMaxPollingIntervalUs
  · rw [min_eq_left within]
  · have over : kMaxPollingIntervalUs ≤ interval := le_of_lt (not_le.mp within)
    have grows (x : ℚ) (nonneg : 0 ≤ x) : x ≤ x * 2 ^ doublings :=
      le_mul_of_one_le_right nonneg (one_le_pow₀ one_le_two)
    rw [min_eq_right over, min_eq_right (grows _ (by norm_num [kMaxPollingIntervalUs])),
      min_eq_right (over.trans (grows _ positive.le))]

/-- From a positive interval within the cap, idle calls double it up to the cap. -/
theorem poll_run_idle_of_pos (truePeriodUs : ℚ) (idle : Nat) (yieldTimeUs : ℚ)
    (positive : 0 < yieldTimeUs) (capped : yieldTimeUs ≤ kMaxPollingIntervalUs) :
    pollRun truePeriodUs (List.replicate idle false) yieldTimeUs =
      min (yieldTimeUs * 2 ^ idle) kMaxPollingIntervalUs := by
  induction idle generalizing yieldTimeUs with
  | zero => simp [capped]
  | succ idle ih =>
      rw [List.replicate_succ, poll_run_cons, next_interval_idle, if_neg (not_le.mpr positive),
        ih _ (lt_min (by linarith) (by norm_num [kMaxPollingIntervalUs])) (min_le_right _ _),
        min_cap_mul_pow _ (by linarith), pow_succ, mul_comm (2 ^ idle : ℚ) 2, mul_assoc]

/-- The `n`-th idle call after a working one leaves the true period doubled `n` times, or 100 ms
when that is more. -/
theorem poll_run_idle_doubling (truePeriodUs : ℚ) (positive : 0 < truePeriodUs) (idle : Nat)
    (yieldTimeUs : ℚ) :
    pollRun truePeriodUs (true :: List.replicate (idle + 1) false) yieldTimeUs =
      min (truePeriodUs * 2 ^ (idle + 1)) kMaxPollingIntervalUs := by
  rw [poll_run_cons, nextInterval, if_pos rfl, List.replicate_succ, poll_run_cons, next_interval_idle,
    if_neg (not_le.mpr positive),
    poll_run_idle_of_pos _ _ _ (lt_min (by linarith) (by norm_num [kMaxPollingIntervalUs]))
      (min_le_right _ _),
    min_cap_mul_pow _ (by linarith), pow_succ, mul_comm (2 ^ idle : ℚ) 2, mul_assoc]

theorem poll_run_idle_doubling_of_ten_ms :
    (0 : ℚ) < 10000 ∧
      pollRun 10000 (true :: List.replicate (3 + 1) false) 0 = min (10000 * 2 ^ (3 + 1))
        kMaxPollingIntervalUs :=
  ⟨by norm_num, poll_run_idle_doubling 10000 (by norm_num) 3 0⟩

/-- A task whose true period is not positive never backs off: once its interval is not positive,
every idle call sets it to twice the true period, 0 for a period of 0. -/
theorem poll_run_idle_of_nonpos_period (truePeriodUs : ℚ) (nonpos : truePeriodUs ≤ 0)
    (idle : Nat) (yieldTimeUs : ℚ) (unset : yieldTimeUs ≤ 0) :
    pollRun truePeriodUs (List.replicate (idle + 1) false) yieldTimeUs = truePeriodUs * 2 := by
  have stays : ∀ interval : ℚ, interval ≤ 0 →
      nextInterval truePeriodUs false interval = truePeriodUs * 2 := fun interval unset => by
    rw [next_interval_idle, if_pos unset,
      min_eq_left (by norm_num [kMaxPollingIntervalUs]; linarith)]
  induction idle generalizing yieldTimeUs with
  | zero => rw [List.replicate_one, poll_run_cons, stays _ unset, poll_run_nil]
  | succ idle ih => rw [List.replicate_succ, poll_run_cons, stays _ unset, ih _ (by linarith)]

theorem poll_run_idle_of_zero_period :
    (0 : ℚ) ≤ 0 ∧ (0 : ℚ) ≤ 0 ∧ pollRun 0 (List.replicate (5 + 1) false) 0 = 0 * 2 :=
  ⟨le_rfl, le_rfl, poll_run_idle_of_nonpos_period 0 le_rfl 5 0 le_rfl⟩

end IowarpCore.Scheduler.Polling
