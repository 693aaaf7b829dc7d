import IowarpCore.Types.Numbers

/-!
# chimaera_compose: arguments, restart files and the pool loops

`main` takes `--unregister` and a configuration path, the last other argument winning. In
register mode it composes the pools one after another and exits with 1 at the first failure; for
each pool composed with `restart_` set, `create_directories` makes the restart directory and the
pool's restart file, if `std::ofstream` opens it, gets `compose:` followed by the pool's `config_`
lines as one list entry (`"  - "` before the first line, four spaces before the others). In
unregister mode it destroys every pool, whatever the runtime answers, and removes each pool's
restart file that `fs::exists` finds.

The file system is an input: which file a path names (two paths may name one), whether a file
opens, and which calls of the throwing overloads `create_directories`, `fs::exists` and
`fs::remove` throw. `main` catches nothing, so a throw ends the run in `std::terminate`.
The restart file gives back the pool's configuration line for line (`restart_text_lines`).
Register mode leaves each file with the text of the last pool written to it
(`compose_register_files`), unregister mode removes every file a restart path names
(`compose_unregister_files`), and `compose_exit_status` says how each mode ends.
Strings are `List Char`; the runtime's answers and the files are inputs.
-/

namespace IowarpCore.Tools.Compose

set_option autoImplicit false

/-! ## Lines of a configuration -/

/-- The lines `std::getline` reads from an `std::istringstream` over `text`, `line` holding the
characters of the current line read so far, last first: each line without its newline, a last
line without a newline included, nothing after a final newline. -/
def getLines : List Char → List Char → List (List Char)
  | [], [] => []
  | [], line => [line.reverse]
  | c :: rest, line => if c = '\n' then line.reverse :: getLines rest [] else getLines rest (c :: line)

/-- The `indented` string the register loop builds from the lines of `config_`, `first` being
its flag of the same name. -/
def indentLines : Bool → List (List Char) → List Char
  | _, [] => []
  | first, line :: rest =>
      (if first then "  - ".toList else "    ".toList) ++ line ++ ['\n'] ++ indentLines false rest

/-- What the register loop writes into a pool's restart file. -/
def restartText (config : List Char) : List Char :=
  "compose:\n".toList ++ indentLines true (getLines config [])

/-- The lines of a restart file after `compose:`, as YAML reads them. -/
def prefixLines : Bool → List (List Char) → List (List Char)
  | _, [] => []
  | first, line :: rest =>
      ((if first then "  - ".toList else "    ".toList) ++ line) :: prefixLines false rest

theorem get_lines_append_newline (chunk rest line : List Char) (oneLine : '\n' ∉ chunk) :
    getLines (chunk ++ '\n' :: rest) line = (line.reverse ++ chunk) :: getLines rest [] := by
  induction chunk generalizing line with
  | nil => simp [getLines]
  | cons c chunk ih =>
      have notNewline : c ≠ '\n' := fun same => oneLine (same ▸ List.mem_cons_self _ _)
      rw [List.cons_append, getLines, if_neg notNewline,
        ih (c :: line) fun inside => oneLine (List.mem_cons_of_mem _ inside)]
      simp

theorem no_newline_of_mem_get_lines (text line : List Char) (oneLine : '\n' ∉ line) :
    ∀ read ∈ getLines text line, '\n' ∉ read := by
  induction text generalizing line with
  | nil =>
      cases line with
      | nil => simp [getLines]
      | cons c rest => simpa [getLines, and_comm] using oneLine
  | cons c text ih =>
      rw [getLines]
      split
      · rintro read (_ | ⟨_, member⟩)
        · simpa using oneLine
        · exact ih [] (List.not_mem_nil _) read member
      · exact ih (c :: line) (by simp_all [eq_comm])

theorem get_lines_indent_lines (first : Bool) (lines : List (List Char))
    (oneLine : ∀ line ∈ lines, '\n' ∉ line) :
    getLines (indentLines first lines) [] = prefixLines first lines := by
  induction lines generalizing first with
  | nil => rfl
  | cons line rest ih =>
      have prefixed : '\n' ∉ (if first then "  - ".toList else "    ".toList) ++ line := by
        have := oneLine line (List.mem_cons_self _ _)
        cases first <;> simp_all
      rw [indentLines, List.append_assoc, List.singleton_append, get_lines_append_newline _ _ _ prefixed,
        ih false fun other member => oneLine other (List.mem_cons_of_mem _ member)]
      rfl

/-- A restart file reads back as `compose:` and one list entry whose lines, once their four-column
indent is dropped, are the pool's configuration lines. -/
theorem restart_text_lines (config : List Char) :
    getLines (restartText config) [] =
        "compose:".toList :: prefixLines true (getLines config []) ∧
      ((getLines (restartText config) []).drop 1).map (List.drop 4) = getLines config [] := by
  have header : "compose:\n".toList = "compose:".toList ++ ['\n'] := rfl
  have lines : getLines (restartText config) [] =
      "compose:".toList :: prefixLines true (getLines config []) := by
    rw [restartText, header, List.append_assoc, List.singleton_append,
      get_lines_append_newline _ _ _ (by decide),
      get_lines_indent_lines true _ (no_newline_of_mem_get_lines config [] (List.not_mem_nil _))]
    rfl
  refine ⟨lines, ?_⟩
  rw [lines, List.drop_one, List.tail_cons]
  generalize getLines config [] = configLines
  suffices unindent : ∀ first, (prefixLines first configLines).map (List.drop 4) = configLines from
    unindent true
  intro first
  induction configLines generalizing first with
  | nil => rfl
  | cons line rest ih => cases first <;> simp [prefixLines, ih]

/-- A two-line configuration becomes one list entry of two lines. -/
example : getLines (restartText "a: 1\nb: 2\n".toList) [] =
    ["compose:".toList, "  - a: 1".toList, "    b: 2".toList] := by decide

/-! ## The arguments -/

/-- The argument loop of `main` over `argv[1..]`: `--unregister` sets the mode and any other
argument becomes the configuration path. -/
def parseArgs : List (List Char) → Bool × List Char → Bool × List Char
  | [], parsed => parsed
  | arg :: rest, (unregister, configPath) =>
      if arg = "--unregister".toList then parseArgs rest (true, configPath)
      else parseArgs rest (unregister, arg)

/-! ## The pool loops -/

/-- A pool of the compose section: the fields the loops read. -/
structure PoolConfig where
  poolName : List Char
  config : List Char
  restart : Bool
  deriving DecidableEq, Repr

/-- How one run of `main` ends: with an exit status, or in `std::terminate` when a
`std::filesystem::filesystem_error` escapes `main`, which catches nothing. -/
inductive Exit where
  | status (code : Nat)
  | terminated
  deriving DecidableEq, Repr

/-- The file-system calls of `main` on this machine. `resolve` names the file a path denotes, so
`a` and `./a` may name one file. `fs::create_directories`, `fs::exists` and `fs::remove` are the
overloads that throw, and `opens` says whether `std::ofstream` opens a path for writing. -/
structure FileSystem where
  resolve : List Char → List Char
  createDirectoriesThrows : List Char → Bool
  opens : List Char → Bool
  existsThrows : List Char → Bool
  removeThrows : List Char → Bool

/-- The files of the machine, by the file a path resolves to. -/
abbrev Files := List Char → Option (List Char)

/-- `restart_dir = GetConfDir() + "/restart"`, the directory register mode creates. -/
def restartDir (confDir : List Char) : List Char := confDir ++ "/restart".toList

/-- A pool's restart file as register mode names it: `restart_dir + "/" + pool_name_ + ".yaml"`. -/
def registerRestartFile (confDir poolName : List Char) : List Char :=
  restartDir confDir ++ "/".toList ++ poolName ++ ".yaml".toList

/-- A pool's restart file as unregister mode names it:
`GetConfDir() + "/restart/" + pool_name_ + ".yaml"`. -/
def unregisterRestartFile (confDir poolName : List Char) : List Char :=
  confDir ++ "/restart/".toList ++ poolName ++ ".yaml".toList

theorem register_restart_file_eq (confDir poolName : List Char) :
    registerRestartFile confDir poolName = unregisterRestartFile confDir poolName := by
  simp only [registerRestartFile, restartDir, unregisterRestartFile, List.append_assoc]
  rfl

/-- The register loop, given each pool's `AsyncCompose` return code: how it ends, and the files.
A pool with `restart_` set first has `create_directories` make the restart directory, then gets
its file written if `std::ofstream` opens it; a file that does not open is only logged. -/
def registerPools (fs : FileSystem) (confDir : List Char) (compose : PoolConfig → BitVec 32) :
    List PoolConfig → Files → Exit × Files
  | [], files => (.status 0, files)
  | pool :: rest, files =>
      if compose pool ≠ 0 then (.status 1, files)
      else if pool.restart then
        if fs.createDirectoriesThrows (restartDir confDir) then (.terminated, files)
        else
          let restartFile := registerRestartFile confDir pool.poolName
          registerPools fs confDir compose rest
            (if fs.opens restartFile then
              Function.update files (fs.resolve restartFile) (some (restartText pool.config))
            else files)
      else registerPools fs confDir compose rest files

/-- The unregister loop, given each pool's `AsyncDestroyPool` return code: the pools whose
destruction failed, which are only logged, how the loop ends, and the files. Each pool's restart
file is removed if `fs::exists` finds it. -/
def unregisterPools (fs : FileSystem) (confDir : List Char) (destroy : PoolConfig → BitVec 32) :
    List PoolConfig → Files → List (List Char) × Exit × Files
  | [], files => ([], .status 0, files)
  | pool :: rest, files =>
      let failed := if destroy pool ≠ 0 then [pool.poolName] else []
      let restartFile := unregisterRestartFile confDir pool.poolName
      if fs.existsThrows restartFile then (failed, .terminated, files)
      else if (files (fs.resolve restartFile)).isSome then
        if fs.removeThrows restartFile then (failed, .terminated, files)
        else
          let after := unregisterPools fs confDir destroy rest
            (Function.update files (fs.resolve restartFile) none)
          (failed ++ after.1, after.2)
      else
        let after := unregisterPools fs confDir destroy rest files
        (failed ++ after.1, after.2)

/-- `main`, given whether `CHIMAERA_INIT` succeeds, what `LoadYaml` gives for a path (`none`
when it fails), whether `CHI_ADMIN` is non-null, `GetConfDir()`, the file system and the
runtime's return codes: how it ends, and the files. -/
def main (argv : List (List Char)) (initialized : Bool)
    (loadYaml : List Char → Option (List PoolConfig)) (adminReady : Bool) (confDir : List Char)
    (fs : FileSystem) (compose destroy : PoolConfig → BitVec 32) (files : Files) : Exit × Files :=
  if argv.length < 2 then (.status 1, files)
  else
    let parsed := parseArgs (argv.drop 1) (false, [])
    if parsed.2 = [] then (.status 1, files)
    else if !initialized then (.status 1, files)
    else
      match loadYaml parsed.2 with
      | none | some [] => (.status 1, files)
      | some pools =>
          if !adminReady then (.status 1, files)
          else if parsed.1 then (unregisterPools fs confDir destroy pools files).2
          else registerPools fs confDir compose pools files

/-! ## Register mode -/

section Register

variable (fs : FileSystem) (confDir : List Char) (compose : PoolConfig → BitVec 32)

/-- The pools whose restart file register mode writes when `create_directories` does not throw:
those with `restart_` set, composed before the first failed `AsyncCompose`, whose file opens. -/
def restartWrites (pools : List PoolConfig) : List PoolConfig :=
  (pools.takeWhile fun pool => compose pool = 0).filter fun pool =>
    pool.restart && fs.opens (registerRestartFile confDir pool.poolName)

theorem restart_writes_cons (pool : PoolConfig) (rest : List PoolConfig) :
    restartWrites fs confDir compose (pool :: rest) =
      if compose pool = 0 then
        (if pool.restart && fs.opens (registerRestartFile confDir pool.poolName) then [pool]
          else []) ++ restartWrites fs confDir compose rest
      else [] := by
  unfold restartWrites
  by_cases composed : compose pool = 0
  · rw [if_pos composed, List.takeWhile_cons_of_pos (by simpa using composed), List.filter_cons]
    split <;> rfl
  · rw [if_neg composed, List.takeWhile_cons_of_neg (by simpa using composed)]
    rfl

/-- The last element of a filtered list that passes, or a default: one more element in front
only matters when nothing after it passes. -/
theorem or_last_filter_cons {α β : Type} (q : α → Bool) (f : α → β) (a : α) (l : List α)
    (fallback : Option β) :
    ((((a :: l).filter q).getLast?.map f).or fallback) =
      (((l.filter q).getLast?.map f).or (if q a then some (f a) else fallback)) := by
  rw [List.filter_cons]
  split
  · rw [List.getLast?_cons]
    cases (l.filter q).getLast? <;> simp_all
  · rfl

/-- When `create_directories` does not throw, each file ends holding the restart text of the last
pool register mode wrote to it, paths that alias counting as one file, and every other file is
left as it was; when it throws, no file changes. -/
theorem register_pools_files (pools : List PoolConfig) (files : Files) (key : List Char) :
    (registerPools fs confDir compose pools files).2 key =
      if fs.createDirectoriesThrows (restartDir confDir) = true then files key
      else ((((restartWrites fs confDir compose pools).filter fun pool =>
          fs.resolve (registerRestartFile confDir pool.poolName) = key).getLast?.map
            fun pool => restartText pool.config).or (files key)) := by
  induction pools generalizing files with
  | nil => simp [registerPools, restartWrites]
  | cons pool rest ih =>
      rw [registerPools, restart_writes_cons]
      by_cases composed : compose pool = 0
      · rw [if_neg (not_not.mpr composed), if_pos composed]
        by_cases throws : fs.createDirectoriesThrows (restartDir confDir) = true
        · cases pool.restart <;> simp [throws, ih]
        · rw [if_neg throws]
          cases restart : pool.restart
          · simp [ih, throws]
          · cases opens : fs.opens (registerRestartFile confDir pool.poolName)
            · simp [ih, throws, opens]
            · simp only [if_true, if_neg throws, opens, ih, Bool.and_self, List.singleton_append]
              rw [or_last_filter_cons, Function.update_apply]
              by_cases same : fs.resolve (registerRestartFile confDir pool.poolName) = key
              · simp [same]
              · simp [same, Ne.symm same]
      · rw [if_pos composed, if_neg composed]
        simp

/-- Register mode ends in `std::terminate` when `create_directories` throws for a pool with
`restart_` set that it composed, and otherwise exits with 0 exactly when every `AsyncCompose`
returns 0, and with 1 at the first that does not. -/
theorem register_pools_exit (pools : List PoolConfig) (files : Files) :
    (registerPools fs confDir compose pools files).1 =
      if fs.createDirectoriesThrows (restartDir confDir) = true ∧
          ∃ pool ∈ pools.takeWhile (fun pool => compose pool = 0), pool.restart = true then
        .terminated
      else if ∀ pool ∈ pools, compose pool = 0 then .status 0 else .status 1 := by
  induction pools generalizing files with
  | nil => simp [registerPools]
  | cons pool rest ih =>
      rw [registerPools]
      by_cases composed : compose pool = 0
      · rw [if_neg (not_not.mpr composed),
          List.takeWhile_cons_of_pos (p := fun pool => decide (compose pool = 0))
            (by simpa using composed)]
        cases restart : pool.restart
        · simp [restart, composed, ih]
        · by_cases throws : fs.createDirectoriesThrows (restartDir confDir) = true
          · simp [restart, throws]
          · simp [restart, throws, composed, ih]
      · rw [if_pos composed,
          List.takeWhile_cons_of_neg (p := fun pool => decide (compose pool = 0))
            (by simpa using composed), if_neg (by simp),
          if_neg fun all => composed (all pool (List.mem_cons_self _ _))]

end Register

/-! ## Unregister mode -/

section Unregister

variable (fs : FileSystem) (confDir : List Char) (destroy : PoolConfig → BitVec 32)

/-- The file a pool's restart file is on this machine. -/
def FileSystem.restartKey (pool : PoolConfig) : List Char :=
  fs.resolve (unregisterRestartFile confDir pool.poolName)

/-- Some `fs::exists` or `fs::remove` call of the unregister loop throws: at a pool whose restart
file's `fs::exists` throws, or whose file is still there when the loop reaches it (no earlier
pool's restart file is the same file) and whose `fs::remove` throws. -/
def UnregisterThrows (pools : List PoolConfig) (files : Files) : Prop :=
  ∃ pre pool post, pools = pre ++ pool :: post ∧
    (fs.existsThrows (unregisterRestartFile confDir pool.poolName) = true ∨
      fs.removeThrows (unregisterRestartFile confDir pool.poolName) = true ∧
        (files (fs.restartKey confDir pool)).isSome = true ∧
        ∀ earlier ∈ pre, fs.restartKey confDir earlier ≠ fs.restartKey confDir pool)

/-- The first pool throws, or the loop goes on to the rest with that pool's file gone. -/
theorem unregister_throws_cons (pool : PoolConfig) (rest : List PoolConfig) (files : Files) :
    UnregisterThrows fs confDir (pool :: rest) files ↔
      fs.existsThrows (unregisterRestartFile confDir pool.poolName) = true ∨
        fs.removeThrows (unregisterRestartFile confDir pool.poolName) = true ∧
          (files (fs.restartKey confDir pool)).isSome = true ∨
        UnregisterThrows fs confDir rest
          (Function.update files (fs.restartKey confDir pool) none) := by
  constructor
  · rintro ⟨_ | ⟨first, pre⟩, other, post, split, throws⟩
    · obtain ⟨rfl, rfl⟩ := List.cons.inj split
      rcases throws with existing | ⟨removing, present, -⟩
      exacts [.inl existing, .inr (.inl ⟨removing, present⟩)]
    · obtain ⟨rfl, rfl⟩ := List.cons.inj split
      refine .inr (.inr ⟨pre, other, post, rfl, ?_⟩)
      rcases throws with existing | ⟨removing, present, apart⟩
      · exact .inl existing
      · have other_key := apart pool (List.mem_cons_self _ _)
        refine .inr ⟨removing, ?_, fun earlier member => apart earlier (List.mem_cons_of_mem _ member)⟩
        rwa [Function.update_noteq (Ne.symm other_key)]
  · rintro (existing | ⟨removing, present⟩ | ⟨pre, other, post, rfl, throws⟩)
    · exact ⟨[], pool, rest, rfl, .inl existing⟩
    · exact ⟨[], pool, rest, rfl, .inr ⟨removing, present, by simp⟩⟩
    · refine ⟨pool :: pre, other, post, rfl, ?_⟩
      rcases throws with existing | ⟨removing, present, apart⟩
      · exact .inl existing
      · have other_key : fs.restartKey confDir other ≠ fs.restartKey confDir pool := fun same => by
          rw [same, Function.update_same] at present
          cases present
        rw [Function.update_noteq other_key] at present
        exact .inr ⟨removing, present, List.forall_mem_cons.mpr ⟨Ne.symm other_key, apart⟩⟩

/-- Removing a file that is not there changes nothing. -/
theorem update_none_of_absent {files : Files} {key : List Char} (absent : (files key).isSome = false) :
    Function.update files key none = files :=
  Function.update_eq_self_iff.mpr (Option.not_isSome_iff_eq_none.mp (by simp [absent])).symm

/-- The unregister loop ends in `std::terminate` exactly when one of its `fs::exists` or
`fs::remove` calls throws, and otherwise exits with 0. -/
theorem unregister_pools_exit (pools : List PoolConfig) (files : Files) :
    ((unregisterPools fs confDir destroy pools files).2.1 = .terminated ↔
      UnregisterThrows fs confDir pools files) ∧
    ((unregisterPools fs confDir destroy pools files).2.1 = .status 0 ↔
      ¬UnregisterThrows fs confDir pools files) := by
  induction pools generalizing files with
  | nil => simp [unregisterPools, UnregisterThrows]
  | cons pool rest ih =>
      rw [unregister_throws_cons, unregisterPools]
      by_cases existing : fs.existsThrows (unregisterRestartFile confDir pool.poolName) = true
      · simp [existing]
      · rw [if_neg existing]
        cases present : (files (fs.restartKey confDir pool)).isSome
        · have unchanged := update_none_of_absent present
          simp only [FileSystem.restartKey] at present unchanged ⊢
          simp [existing, present, unchanged, ih files]
        · simp only [FileSystem.restartKey] at present
          by_cases removing : fs.removeThrows (unregisterRestartFile confDir pool.poolName) = true
          · simp [present, removing]
          · simp [existing, present, removing, ih, FileSystem.restartKey]

/-- When no `fs::exists` or `fs::remove` call throws, the unregister loop removes the restart file
of every pool, by the file its path names, and changes no other file. -/
theorem unregister_pools_files (pools : List PoolConfig) (files : Files)
    (safe : ¬UnregisterThrows fs confDir pools files) (key : List Char) :
    (unregisterPools fs confDir destroy pools files).2.2 key =
      if ∃ pool ∈ pools, fs.restartKey confDir pool = key then none else files key := by
  induction pools generalizing files with
  | nil => simp [unregisterPools]
  | cons pool rest ih =>
      rw [unregister_throws_cons] at safe
      push_neg at safe
      obtain ⟨existing, removing, later⟩ := safe
      have removed : (unregisterPools fs confDir destroy (pool :: rest) files).2.2 =
          (unregisterPools fs confDir destroy rest
            (Function.update files (fs.restartKey confDir pool) none)).2.2 := by
        cases present : (files (fs.restartKey confDir pool)).isSome
        · rw [update_none_of_absent present]
          simp_all [unregisterPools, FileSystem.restartKey]
        · have kept : fs.removeThrows (unregisterRestartFile confDir pool.poolName) ≠ true :=
            fun removes => removing removes present
          simp only [FileSystem.restartKey] at present
          simp [unregisterPools, FileSystem.restartKey, existing, present, kept]
      rw [removed, ih _ later]
      by_cases same : fs.restartKey confDir pool = key
      · subst same
        simp
      · simp [same, Function.update_noteq (Ne.symm same)]

/-- What `AsyncDestroyPool` returns is only logged: it changes neither how the loop ends nor the
files. -/
theorem unregister_pools_destroy (destroy' : PoolConfig → BitVec 32) (pools : List PoolConfig)
    (files : Files) :
    (unregisterPools fs confDir destroy' pools files).2 =
      (unregisterPools fs confDir destroy pools files).2 := by
  induction pools generalizing files with
  | nil => rfl
  | cons pool rest ih =>
      simp only [unregisterPools]
      split
      · rfl
      · split
        · split
          · rfl
          · exact ih _
        · exact ih _

end Unregister


/-! ## The whole run -/

section Main

variable (program configPath : List Char) (loadYaml : List Char → Option (List PoolConfig))
  (pools : List PoolConfig) (confDir : List Char) (fs : FileSystem)
  (compose destroy : PoolConfig → BitVec 32) (files : Files)

theorem main_register (loaded : loadYaml configPath = some pools) (nonempty : pools ≠ [])
    (named : configPath ≠ []) (notFlag : configPath ≠ "--unregister".toList) :
    main [program, configPath] true loadYaml true confDir fs compose destroy files =
      registerPools fs confDir compose pools files := by
  have parsed : parseArgs [configPath] (false, []) = (false, configPath) := by
    rw [parseArgs, if_neg notFlag]
    rfl
  obtain ⟨pool, rest, rfl⟩ := List.exists_cons_of_ne_nil nonempty
  simp [main, parsed, named, loaded]

theorem main_unregister (loaded : loadYaml configPath = some pools) (nonempty : pools ≠ [])
    (named : configPath ≠ []) (notFlag : configPath ≠ "--unregister".toList) :
    main [program, "--unregister".toList, configPath] true loadYaml true confDir fs compose destroy
        files =
      (unregisterPools fs confDir destroy pools files).2 := by
  have parsed : parseArgs (List.drop 1 [program, "--unregister".toList, configPath]) (false, []) =
      (true, configPath) := by
    rw [List.drop_one, List.tail_cons, parseArgs, if_pos rfl, parseArgs, if_neg notFlag]
    rfl
  obtain ⟨pool, rest, rfl⟩ := List.exists_cons_of_ne_nil nonempty
  simp only [main, parsed]
  simp [named, loaded]

/-- In register mode each file ends holding the restart text of the last pool written to it, or
is left as it was; see `register_pools_files`. -/
theorem compose_register_files (loaded : loadYaml configPath = some pools) (nonempty : pools ≠ [])
    (named : configPath ≠ []) (notFlag : configPath ≠ "--unregister".toList) (key : List Char) :
    (main [program, configPath] true loadYaml true confDir fs compose destroy files).2 key =
      if fs.createDirectoriesThrows (restartDir confDir) = true then files key
      else ((((restartWrites fs confDir compose pools).filter fun pool =>
          fs.resolve (registerRestartFile confDir pool.poolName) = key).getLast?.map
            fun pool => restartText pool.config).or (files key)) := by
  rw [main_register program configPath loadYaml pools confDir fs compose destroy files loaded
    nonempty named notFlag]
  exact register_pools_files fs confDir compose pools files key

/-- When no `fs::exists` or `fs::remove` call throws, unregister mode removes every file that a
pool's restart path names as register mode builds it, and changes no other file. -/
theorem compose_unregister_files (loaded : loadYaml configPath = some pools)
    (nonempty : pools ≠ []) (named : configPath ≠ []) (notFlag : configPath ≠ "--unregister".toList)
    (safe : ¬UnregisterThrows fs confDir pools files) (key : List Char) :
    (main [program, "--unregister".toList, configPath] true loadYaml true confDir fs compose destroy
        files).2 key =
      if ∃ pool ∈ pools, fs.resolve (registerRestartFile confDir pool.poolName) = key then none
      else files key := by
  rw [main_unregister program configPath loadYaml pools confDir fs compose destroy files loaded
    nonempty named notFlag]
  simp only [register_restart_file_eq]
  exact unregister_pools_files fs confDir destroy pools files safe key

/-- Register mode ends in `std::terminate` when `create_directories` throws, and otherwise exits
with 0 exactly when every `AsyncCompose` returns 0; unregister mode ends in `std::terminate`
exactly when an `fs::exists` or `fs::remove` call throws, exits with 0 otherwise, and does not
depend on what `AsyncDestroyPool` returns. -/
theorem compose_exit_status (loaded : loadYaml configPath = some pools) (nonempty : pools ≠ [])
    (named : configPath ≠ []) (notFlag : configPath ≠ "--unregister".toList) :
    (main [program, configPath] true loadYaml true confDir fs compose destroy files).1 =
        (if fs.createDirectoriesThrows (restartDir confDir) = true ∧
            ∃ pool ∈ pools.takeWhile (fun pool => compose pool = 0), pool.restart = true then
          .terminated
        else if ∀ pool ∈ pools, compose pool = 0 then .status 0 else .status 1) ∧
      ((main [program, "--unregister".toList, configPath] true loadYaml true confDir fs compose
          destroy files).1 = .status 0 ↔ ¬UnregisterThrows fs confDir pools files) ∧
      ((main [program, "--unregister".toList, configPath] true loadYaml true confDir fs compose
          destroy files).1 = .terminated ↔ UnregisterThrows fs confDir pools files) ∧
      ∀ destroy' : PoolConfig → BitVec 32,
        main [program, "--unregister".toList, configPath] true loadYaml true confDir fs compose
            destroy' files =
          main [program, "--unregister".toList, configPath] true loadYaml true confDir fs compose
            destroy files := by
  have unregister := main_unregister program configPath loadYaml pools confDir fs compose
  simp only [unregister _ _ loaded nonempty named notFlag]
  exact ⟨by rw [main_register program configPath loadYaml pools confDir fs compose destroy files
      loaded nonempty named notFlag, register_pools_exit],
    (unregister_pools_exit fs confDir destroy pools files).2,
    (unregister_pools_exit fs confDir destroy pools files).1,
    fun destroy' => unregister_pools_destroy fs confDir destroy destroy' pools files⟩

end Main

/-! ## A case-insensitive file system -/

/-- A file system that folds case, as macOS's default one does, on which every call succeeds. -/
def caseFolding : FileSystem where
  resolve path := path.map Char.toLower
  createDirectoriesThrows _ := false
  opens _ := true
  existsThrows _ := false
  removeThrows _ := false

/-- Two restart pools whose names differ only in case. -/
def casePools : List PoolConfig :=
  [⟨"db".toList, "x: 1".toList, true⟩, ⟨"DB".toList, "y: 2".toList, true⟩]

/-- On a case-folding file system the two pools share one restart file, which keeps the second
pool's configuration. -/
theorem compose_register_files_case_folded :
    (main ["compose".toList, "c.yaml".toList] true (fun _ => some casePools) true "c".toList
        caseFolding (fun _ => 0) (fun _ => 0) (fun _ => none)).2 "c/restart/db.yaml".toList =
      some (restartText "y: 2".toList) := by
  rw [compose_register_files "compose".toList "c.yaml".toList (fun _ => some casePools) casePools
    "c".toList caseFolding (fun _ => 0) (fun _ => 0) (fun _ => none) rfl (by decide) (by decide)
    (by decide)]
  decide

/-- Unregister mode then removes that one file, and the run exits with 0. -/
theorem compose_unregister_files_case_folded :
    (main ["compose".toList, "--unregister".toList, "c.yaml".toList] true (fun _ => some casePools)
        true "c".toList caseFolding (fun _ => 0) (fun _ => 1)
        (fun _ => some "compose:\n".toList)).2 "c/restart/db.yaml".toList = none := by
  rw [compose_unregister_files "compose".toList "c.yaml".toList (fun _ => some casePools) casePools
    "c".toList caseFolding (fun _ => 0) (fun _ => 1) (fun _ => some "compose:\n".toList) rfl
    (by decide) (by decide) (by decide) fun ⟨_, _, _, _, throws⟩ => by simp [caseFolding] at throws]
  decide

/-- A pool that `AsyncCompose` refuses stops register mode with 1 before the second pool, and
unregister mode exits with 0 although every `AsyncDestroyPool` fails. -/
theorem compose_exit_status_of_failed_destroy :
    (main ["compose".toList, "c.yaml".toList] true (fun _ => some casePools) true "c".toList
        caseFolding (fun _ => 1) (fun _ => 1) (fun _ => none)).1 = .status 1 ∧
      (main ["compose".toList, "--unregister".toList, "c.yaml".toList] true
        (fun _ => some casePools) true "c".toList caseFolding (fun _ => 1) (fun _ => 1)
        (fun _ => none)).1 = .status 0 := by
  have status := compose_exit_status "compose".toList "c.yaml".toList (fun _ => some casePools)
    casePools "c".toList caseFolding (fun _ => 1) (fun _ => 1) (fun _ => none) rfl (by decide)
    (by decide) (by decide)
  refine ⟨status.1.trans (by decide), status.2.1.mpr ?_⟩
  rintro ⟨_, _, _, _, throws⟩
  simp [caseFolding] at throws

end IowarpCore.Tools.Compose
