import IowarpCore.Types.Numbers

/-!
# chimaera_monitor: the command line

`ParseArgs` reads `-h`, `-i N`, `-o`, `-j` and `-v`, or their long forms, into `MonitorOptions`,
taking `N` with `std::atoi`, and returns false on `-h`, on `-i` with no value or with a value
below 1, and on any other argument. Every options value it accepts asks for an interval of at
least one second (`parse_args_interval_pos`). `main` returns `(argc > 1) ? 1 : 0` when it fails,
and it can only fail when there is an argument, so every failure, a help request included,
exits with status 1. Once connected, `main` polls the runtime in `while (g_keep_running)`, which
nothing in the program clears: only a failed request, an exception or `--once` ends it, with status
0, and a run whose requests all succeed never returns (`main_status`).
With `--json` it prints the workers' objects joined by commas (`json_text_intercalate`). Strings
are `List Char`; `atoi` is glibc's.
-/

namespace IowarpCore.Tools.Monitor

set_option autoImplicit false

/-! ## `std::atoi` -/

/-- `isspace` in the "C" locale. -/
def isSpace (c : Char) : Bool :=
  c = ' ' || c = '\t' || c = '\n' || c = '\x0b' || c = '\x0c' || c = '\r'

/-- The value of the decimal digits at the front of `chars`, read onto `acc`. -/
def leadingDigits : List Char → Nat → Nat
  | c :: rest, acc =>
      if c.isDigit then leadingDigits rest (10 * acc + (c.toNat - '0'.toNat)) else acc
  | [], acc => acc

/-- `strtol(s, NULL, 10)` of glibc: blanks, a sign, then digits, the value clamped to `long`. -/
def strtol (chars : List Char) : Int :=
  match chars.dropWhile isSpace with
  | '-' :: rest => max (-(leadingDigits rest 0 : Int)) (-2 ^ 63)
  | '+' :: rest => min (leadingDigits rest 0 : Int) (2 ^ 63 - 1)
  | rest => min (leadingDigits rest 0 : Int) (2 ^ 63 - 1)

/-- `std::atoi` of glibc: `(int) strtol(s, NULL, 10)`, the conversion keeping the low 32 bits. -/
def atoi (chars : List Char) : BitVec 32 := BitVec.ofInt 32 (strtol chars)

/-! ## `ParseArgs` -/

/-- `MonitorOptions`: `interval_sec` is an `int`. -/
structure MonitorOptions where
  intervalSec : BitVec 32
  once : Bool
  jsonOutput : Bool
  verbose : Bool
  deriving DecidableEq, Repr

/-- The default member initializers of `MonitorOptions`. -/
def MonitorOptions.default : MonitorOptions := ⟨1, false, false, false⟩

/-- The ways `ParseArgs` returns false. -/
inductive ParseError where
  | help
  | intervalTooSmall
  | missingInterval
  | unknownOption (arg : List Char)
  deriving DecidableEq, Repr

/-- What `ParseArgs` logs before returning false; a help request only prints the usage. -/
def ParseError.message : ParseError → Option (List Char)
  | .help => none
  | .intervalTooSmall => some "Interval must be >= 1 second".toList
  | .missingInterval => some "-i/--interval requires an argument".toList
  | .unknownOption arg => some ("Unknown option: ".toList ++ arg)

/-- The loop of `ParseArgs` over the arguments left. -/
def parseArgsLoop : List (List Char) → MonitorOptions → Except ParseError MonitorOptions
  | [], opts => .ok opts
  | arg :: rest, opts =>
      if arg = "-h".toList ∨ arg = "--help".toList then .error .help
      else if arg = "-i".toList ∨ arg = "--interval".toList then
        match rest with
        | value :: more =>
            if (atoi value).toInt < 1 then .error .intervalTooSmall
            else parseArgsLoop more { opts with intervalSec := atoi value }
        | [] => .error .missingInterval
      else if arg = "-o".toList ∨ arg = "--once".toList then
        parseArgsLoop rest { opts with once := true }
      else if arg = "-j".toList ∨ arg = "--json".toList then
        parseArgsLoop rest { opts with jsonOutput := true }
      else if arg = "-v".toList ∨ arg = "--verbose".toList then
        parseArgsLoop rest { opts with verbose := true }
      else .error (.unknownOption arg)

/-- `ParseArgs(argc, argv, opts)` on a default `opts`, as `main` calls it. -/
def parseArgs (argv : List (List Char)) : Except ParseError MonitorOptions :=
  parseArgsLoop (argv.drop 1) MonitorOptions.default

/-- What `main` returns when `ParseArgs` fails: `(argc > 1) ? 1 : 0`. -/
def parseFailureStatus (argv : List (List Char)) : Nat := if argv.length > 1 then 1 else 0

theorem parse_args_loop_interval_pos (args : List (List Char)) (opts result : MonitorOptions)
    (positive : 1 ≤ opts.intervalSec.toInt) (parsed : parseArgsLoop args opts = .ok result) :
    1 ≤ result.intervalSec.toInt := by
  induction args, opts using parseArgsLoop.induct with
  | case1 opts =>
      rw [parseArgsLoop.eq_1] at parsed
      cases parsed
      exact positive
  | case4 arg opts notHelp isInterval value more enough ih =>
      unfold parseArgsLoop at parsed
      simp only [if_neg notHelp, if_pos isInterval, if_neg enough] at parsed
      exact ih (Int.not_lt.mp enough) parsed
  | case6 _ _ _ _ _ _ ih | case7 _ _ _ _ _ _ _ ih | case8 _ _ _ _ _ _ _ _ ih =>
      -- `-o`, `-j` and `-v` leave the interval alone
      unfold parseArgsLoop at parsed
      simp only [*, if_false, if_true] at parsed
      exact ih positive parsed
  | _ =>
      -- a help request, a missing or small interval and an unknown option fail
      unfold parseArgsLoop at parsed
      simp only [*, if_true, if_false, reduceCtorEq] at parsed

/-- Every options value `ParseArgs` accepts asks for an interval of at least one second. -/
theorem parse_args_interval_pos (argv : List (List Char)) (result : MonitorOptions)
    (parsed : parseArgs argv = .ok result) : 1 ≤ result.intervalSec.toInt :=
  parse_args_loop_interval_pos _ _ result (by decide) parsed

theorem parse_args_interval_pos_of_five :
    parseArgs ["chimaera_monitor".toList, "-o".toList, "-i".toList, "5".toList] =
        .ok ⟨5, true, false, false⟩ ∧ 1 ≤ (5 : BitVec 32).toInt :=
  ⟨rfl, parse_args_interval_pos ["chimaera_monitor".toList, "-o".toList, "-i".toList, "5".toList]
    ⟨5, true, false, false⟩ rfl⟩

/-- `ParseArgs` fails only when there is an argument. -/
theorem parse_args_error_has_argument (argv : List (List Char)) (e : ParseError)
    (failed : parseArgs argv = .error e) : argv.length > 1 := by
  by_contra few
  rw [parseArgs, List.drop_eq_nil_of_le (by omega), parseArgsLoop] at failed
  cases failed

/-- `atoi` stops at the first character that is not a digit, so `-i 5s` asks for five seconds,
and `-i five` is rejected as an interval below one second. -/
example : parseArgs ["chimaera_monitor".toList, "-i".toList, "5s".toList] =
      .ok ⟨5, false, false, false⟩ ∧
    parseArgs ["chimaera_monitor".toList, "-i".toList, "five".toList] = .error .intervalTooSmall :=
  ⟨rfl, rfl⟩

/-! ## The monitoring loop -/

/-- What one pass of the monitoring loop gets: `AsyncMonitor`'s return code, or a thrown
`std::exception`. -/
inductive MonitorReply where
  | returned (code : BitVec 32)
  | thrown
  deriving DecidableEq, Repr

/-- Whether a pass ends in `break`: a failed request, an exception, or `--once` after a successful
request. -/
def passBreaks (once : Bool) : MonitorReply → Bool
  | .returned code => code ≠ 0 || once
  | .thrown => true

/-- The loop `while (g_keep_running)` of `main`, `replies n` answering the request of pass `n`: the
number of requests sent when a pass breaks out within `passes` passes, and `none` while the loop
is still running. Nothing in the program clears `g_keep_running` (no signal handler is
installed), so only a `break` ends it. -/
def monitorLoop (once : Bool) (replies : Nat → MonitorReply) : Nat → Nat → Option Nat
  | 0, _ => none
  | passes + 1, sent =>
      if passBreaks once (replies sent) then some (sent + 1)
      else monitorLoop once replies passes (sent + 1)

/-- `main`, given whether `CHIMAERA_INIT` succeeds, whether `CHI_ADMIN` is non-null and the replies
of the monitoring loop: the exit status when `main` returns within `passes` passes of the loop,
and `none` while it is still running. -/
def main (argv : List (List Char)) (initialized adminReady : Bool) (replies : Nat → MonitorReply)
    (passes : Nat) : Option Nat :=
  match parseArgs argv with
  | .error _ => some (parseFailureStatus argv)
  | .ok opts =>
      if !initialized then some 1
      else if !adminReady then some 1
      else (monitorLoop opts.once replies passes 0).map fun _ => 0

theorem pass_breaks_iff (once : Bool) (reply : MonitorReply) :
    passBreaks once reply = true ↔ once = true ∨ reply ≠ .returned 0 := by
  cases reply <;> simp [passBreaks, or_comm]

/-- The loop has broken out within `passes` passes from pass `sent` on exactly when one of those
passes breaks. -/
theorem monitor_loop_is_some (once : Bool) (replies : Nat → MonitorReply) (passes sent : Nat) :
    (monitorLoop once replies passes sent).isSome = true ↔
      ∃ n, sent ≤ n ∧ n < sent + passes ∧ passBreaks once (replies n) = true := by
  induction passes generalizing sent with
  | zero => simp [monitorLoop]; omega
  | succ passes ih =>
      rw [monitorLoop]
      split
      · exact ⟨fun _ => ⟨sent, le_rfl, by omega, ‹_›⟩, fun _ => rfl⟩
      · rw [ih]
        constructor
        · rintro ⟨n, after, within, breaks⟩; exact ⟨n, by omega, by omega, breaks⟩
        · rintro ⟨n, after, within, breaks⟩
          have later : n ≠ sent := fun same => by simp_all
          exact ⟨n, by omega, by omega, breaks⟩

/-- With `--once` the first pass breaks out, after one request. -/
theorem monitor_loop_once (replies : Nat → MonitorReply) (passes : Nat) :
    monitorLoop true replies (passes + 1) 0 = some 1 := by
  simp [monitorLoop, (pass_breaks_iff true _).mpr (.inl rfl)]

/-- `ParseArgs` fails only when there is an argument, so `main` then returns 1. -/
theorem parse_failure_status_eq_one (argv : List (List Char)) (e : ParseError)
    (failed : parseArgs argv = .error e) : parseFailureStatus argv = 1 := by
  rw [parseFailureStatus, if_pos (parse_args_error_has_argument argv e failed)]

/-- A connected `main` is its monitoring loop, which exits with 0 when it breaks out. -/
theorem main_connected (argv : List (List Char)) (opts : MonitorOptions)
    (parsed : parseArgs argv = .ok opts) (replies : Nat → MonitorReply) (passes : Nat) :
    main argv true true replies passes = (monitorLoop opts.once replies passes 0).map fun _ => 0 := by
  simp [main, parsed]

/-- Some pass of the loop breaks out exactly when `--once` is given or some request fails or
throws. -/
theorem monitor_loop_breaks (once : Bool) (replies : Nat → MonitorReply) :
    (∃ passes, (monitorLoop once replies passes 0).isSome = true) ↔
      once = true ∨ ∃ n, replies n ≠ .returned 0 := by
  simp only [monitor_loop_is_some, pass_breaks_iff]
  constructor
  · rintro ⟨_, n, -, -, once | failed⟩
    exacts [.inl once, .inr ⟨n, failed⟩]
  · rintro (once | ⟨n, failed⟩)
    exacts [⟨1, 0, le_rfl, by omega, .inl once⟩, ⟨n + 1, n, by omega, by omega, .inr failed⟩]

/-- `main` returns 1 at once exactly when `ParseArgs` rejects the arguments (a help request
included), `CHIMAERA_INIT` fails or there is no admin client. Otherwise only a `break` ends the
monitoring loop: `main` exits with 0 exactly when `--once` is given or some request fails or throws,
and with every request succeeding and no `--once` it never returns. -/
theorem main_status (argv : List (List Char)) (initialized adminReady : Bool)
    (replies : Nat → MonitorReply) :
    (∀ passes, main argv initialized adminReady replies passes = some 1 ↔
      (∀ opts, parseArgs argv ≠ .ok opts) ∨ initialized = false ∨ adminReady = false) ∧
    ((∃ passes, main argv initialized adminReady replies passes = some 0) ↔
      ∃ opts, parseArgs argv = .ok opts ∧ initialized = true ∧ adminReady = true ∧
        (opts.once = true ∨ ∃ n, replies n ≠ .returned 0)) ∧
    ((∀ passes, main argv initialized adminReady replies passes = none) ↔
      ∃ opts, parseArgs argv = .ok opts ∧ initialized = true ∧ adminReady = true ∧
        opts.once = false ∧ ∀ n, replies n = .returned 0) := by
  rcases parsed : parseArgs argv with e | opts
  · have failed : ∀ passes, main argv initialized adminReady replies passes = some 1 := fun _ => by
      simp [main, parsed, parse_failure_status_eq_one argv e parsed]
    simp [failed]
  · by_cases connected : initialized = true ∧ adminReady = true
    · obtain ⟨rfl, rfl⟩ := connected
      have breaks := monitor_loop_breaks opts.once replies
      simp only [main_connected argv opts parsed, Option.map_eq_some', Option.map_eq_none',
        Except.ok.injEq, exists_eq_left', true_and, and_true]
      refine ⟨fun passes => by simp, ?_, ?_⟩
      · simpa [Option.isSome_iff_exists] using breaks
      · rw [← not_iff_not]
        simpa [Option.isSome_iff_exists, ← Option.ne_none_iff_exists', or_iff_not_imp_left]
          using breaks
    · have failed : ∀ passes, main argv initialized adminReady replies passes = some 1 := by
        intro passes
        cases initialized <;> cases adminReady <;> simp_all [main]
      simp only [failed, Option.some.injEq, one_ne_zero, exists_false, reduceCtorEq,
        forall_const, false_iff, iff_true]
      exact ⟨iff_of_true trivial (.inr (by simpa using not_and_or.mp connected)),
        fun ⟨_, _, ready, admin, _⟩ => connected ⟨ready, admin⟩,
        fun ⟨_, _, ready, admin, _⟩ => connected ⟨ready, admin⟩⟩

/-- Without `--once`, a monitor whose requests all succeed has not returned after any number of
passes, and `-h` exits with 1. -/
theorem main_status_of_successful_requests :
    (∀ passes, main ["chimaera_monitor".toList] true true (fun _ => .returned 0) passes = none) ∧
      main ["chimaera_monitor".toList, "-h".toList] true true (fun _ => .returned 0) 0 = some 1 :=
  ⟨(main_status _ true true _).2.2.mpr ⟨_, rfl, rfl, rfl, rfl, fun _ => rfl⟩,
    ((main_status _ true true _).1 0).mpr (.inl fun _ help => nomatch help)⟩

/-! ## JSON output -/

/-- The fields of a worker's statistics that the output prints; their types are declared outside
the sources and are taken as unsigned integers, which `operator<<` prints in decimal. -/
structure WorkerStats where
  workerId : Nat
  isRunning : Bool
  isActive : Bool
  idleIterations : Nat
  numQueuedTasks : Nat
  numBlockedTasks : Nat
  numPeriodicTasks : Nat
  suspendPeriodUs : Nat
  deriving DecidableEq, Repr

/-- `operator<<` of an unsigned integer. -/
def decimal (n : Nat) : List Char := Nat.toDigits 10 n

/-- `operator<<` of a `bool` with the texts the output picks. -/
def jsonBool (b : Bool) : List Char := if b then "true".toList else "false".toList

/-- One worker's object of the JSON output. -/
def workerObject (stats : WorkerStats) : List Char :=
  "\x7b\"worker_id\":".toList ++ decimal stats.workerId ++
    ",\"is_running\":".toList ++ jsonBool stats.isRunning ++
    ",\"is_active\":".toList ++ jsonBool stats.isActive ++
    ",\"idle_iterations\":".toList ++ decimal stats.idleIterations ++
    ",\"num_queued_tasks\":".toList ++ decimal stats.numQueuedTasks ++
    ",\"num_blocked_tasks\":".toList ++ decimal stats.numBlockedTasks ++
    ",\"num_periodic_tasks\":".toList ++ decimal stats.numPeriodicTasks ++
    ",\"suspend_period_us\":".toList ++ decimal stats.suspendPeriodUs ++ "\x7d".toList

/-- The loop over `future->info_` with its `first` flag. -/
def jsonWorkers (first : Bool) : List WorkerStats → List Char
  | [] => []
  | stats :: rest => (if first then [] else [',']) ++ workerObject stats ++ jsonWorkers false rest

/-- The text `main` prints with `--json`. -/
def jsonText (info : List WorkerStats) : List Char :=
  "\x7b\"workers\":[".toList ++ jsonWorkers true info ++ "]\x7d".toList

theorem json_workers_false (info : List WorkerStats) :
    jsonWorkers false info = info.flatMap fun stats => ',' :: workerObject stats := by
  induction info with
  | nil => rfl
  | cons stats rest ih => simp [jsonWorkers, ih]

theorem intercalate_comma_cons (object : List Char) (rest : List (List Char)) :
    [','].intercalate (object :: rest) = object ++ rest.flatMap (',' :: ·) := by
  induction rest generalizing object with
  | nil => simp [List.intercalate]
  | cons next rest ih =>
      rw [List.intercalate, List.intersperse_cons_cons, List.flatten_cons, List.flatten_cons,
        ← List.intercalate, ih]
      simp

theorem json_workers_true (info : List WorkerStats) :
    jsonWorkers true info = [','].intercalate (info.map workerObject) := by
  cases info with
  | nil => rfl
  | cons stats rest =>
      rw [List.map_cons, intercalate_comma_cons, jsonWorkers, if_pos rfl, json_workers_false,
        List.flatMap_map, List.nil_append]

/-- The `first` flag puts exactly one comma between two workers' objects: the output is the
objects joined by commas inside the `workers` array. -/
theorem json_text_intercalate (info : List WorkerStats) :
    jsonText info =
      "\x7b\"workers\":[".toList ++ [','].intercalate (info.map workerObject) ++ "]\x7d".toList := by
  rw [jsonText, json_workers_true]

/-- Without workers the array is empty. -/
example : jsonText [] = "\x7b\"workers\":[]\x7d".toList := rfl

end IowarpCore.Tools.Monitor
