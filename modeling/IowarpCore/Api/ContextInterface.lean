import IowarpCore.Types.Numbers

/-!
# The context exploration interface

`iowarp::ContextInterface` forwards to the runtime: `context_bundle` to the CAE container's
`ParseOmni`, `context_query` to the CTE client's `BlobQuery`, and `context_destroy` to one
`DelTag` per context name; `context_retrieve` and `context_splice` are not implemented. Each
call first checks `is_initialized_`, and a thrown `std::exception` is caught and turned into the
call's error value.

The runtime is given as `Services`: what each client call returns, what it does to the runtime
state `σ`, and whether it throws, with the state it leaves when it does. `context_bundle` returns
0 exactly when the bundle is empty or `ParseOmni` returns 0 (`context_bundle_status`); otherwise
it returns `ParseOmni`'s result code through `static_cast<int>`, or 1 when `ParseOmni` throws. `context_destroy` returns 0 exactly
when every `DelTag` succeeds (`context_destroy_status`), and a failed `DelTag` does not stop the
loop: without an exception every name is deleted in turn (`context_destroy_deletes_every_name`).
-/

namespace IowarpCore.Api.ContextInterface

open IowarpCore.Types.Numbers

set_option autoImplicit false

variable {σ Ctx : Type}

/-- The runtime calls `ContextInterface` makes, over the runtime state `σ`, `Ctx` being
`wrp_cae::core::AssimilationCtx`. A call that throws gives the state it leaves. -/
structure Services (σ Ctx : Type) where
  /-- `cae_client.ParseOmni(mctx, bundle, num_tasks_scheduled)`: the result code, the number of
  tasks scheduled, and the state. -/
  parseOmni : σ → List Ctx → Except σ (BitVec 32 × BitVec 32 × σ)
  /-- `WRP_CTE_CLIENT` is not null. -/
  cteClient : Bool
  /-- `cte_client->BlobQuery(mctx, tag_re, blob_re, PoolQuery::Broadcast())`. -/
  blobQuery : σ → List Char → List Char → Except σ (List (List Char) × σ)
  /-- `cte_client->DelTag(mctx, context_name)`. -/
  delTag : σ → List Char → Except σ (Bool × σ)

/-- `ContextInterface::context_bundle`: the return code and the runtime state. -/
def contextBundle (isInitialized : Bool) (services : Services σ Ctx) (bundle : List Ctx)
    (state : σ) : Int × σ :=
  if !isInitialized then (1, state)
  else if bundle.isEmpty then (0, state)
  else
    match services.parseOmni state bundle with
    | .error thrown => (1, thrown)
    | .ok (result, _, after) => if result ≠ 0 then (result.toInt, after) else (0, after)

def contextQuery (isInitialized : Bool) (services : Services σ Ctx) (tagRe blobRe : List Char)
    (state : σ) : List (List Char) × σ :=
  if !isInitialized then ([], state)
  else if !services.cteClient then ([], state)
  else
    match services.blobQuery state tagRe blobRe with
    | .error thrown => ([], thrown)
    | .ok (results, after) => (results, after)

/-- `ContextInterface::context_retrieve`: not yet implemented. -/
def contextRetrieve (_tagRe _blobRe : List Char) : List (List Char) := []

/-- `ContextInterface::context_splice`: not yet implemented. -/
def contextSplice (_newCtx _tagRe _blobRe : List Char) : Int := 1

/-- The loop of `context_destroy`: the number of failed `DelTag`s, or the state an exception
left. -/
def destroyLoop (services : Services σ Ctx) : List (List Char) → σ → Except σ (Nat × σ)
  | [], state => .ok (0, state)
  | contextName :: rest, state =>
      match services.delTag state contextName with
      | .error thrown => .error thrown
      | .ok (result, after) =>
          (destroyLoop services rest after).map fun (errorCount, final) =>
            ((if result then 0 else 1) + errorCount, final)

def contextDestroy (isInitialized : Bool) (services : Services σ Ctx)
    (contextNames : List (List Char)) (state : σ) : Int × σ :=
  if !isInitialized then (1, state)
  else if contextNames.isEmpty then (0, state)
  else if !services.cteClient then (1, state)
  else
    match destroyLoop services contextNames state with
    | .error thrown => (1, thrown)
    | .ok (errorCount, after) => (if errorCount > 0 then 1 else 0, after)

/-- Whether every `DelTag` of the loop, each on the state the one before left, returns true
without throwing. -/
def allDeleted (services : Services σ Ctx) : List (List Char) → σ → Bool
  | [], _ => true
  | contextName :: rest, state =>
      match services.delTag state contextName with
      | .ok (true, after) => allDeleted services rest after
      | _ => false

/-- The state after `DelTag` on every name in turn, for calls that do not throw. -/
def deleteEach (services : Services σ Ctx) : List (List Char) → σ → Option σ
  | [], state => some state
  | contextName :: rest, state =>
      match services.delTag state contextName with
      | .ok (_, after) => deleteEach services rest after
      | .error _ => none

/-- An interface whose initialization failed answers every call with its error value and leaves
the runtime alone. -/
theorem uninitialized_calls (services : Services σ Ctx) (bundle : List Ctx)
    (tagRe blobRe : List Char) (contextNames : List (List Char)) (state : σ) :
    contextBundle false services bundle state = (1, state) ∧
      contextQuery false services tagRe blobRe state = ([], state) ∧
      contextDestroy false services contextNames state = (1, state) :=
  ⟨rfl, rfl, rfl⟩

/-- The loop counts no failure exactly when every `DelTag` returns true without throwing. -/
theorem destroy_loop_ok_zero_iff (services : Services σ Ctx) (contextNames : List (List Char))
    (state : σ) :
    (∃ after, destroyLoop services contextNames state = .ok (0, after)) ↔
      allDeleted services contextNames state = true := by
  induction contextNames generalizing state with
  | nil => simp [destroyLoop, allDeleted]
  | cons contextName rest ih =>
      rw [destroyLoop, allDeleted]
      rcases services.delTag state contextName with thrown | ⟨_ | _, after⟩
      · simp
      · dsimp only
        rcases destroyLoop services rest after with thrown | ⟨errorCount, final⟩ <;>
          simp [Except.map]
      · dsimp only
        rw [← ih after]
        rcases destroyLoop services rest after with thrown | ⟨errorCount, final⟩ <;>
          simp [Except.map]

/-- Without an exception, the loop runs `DelTag` on every name in turn, whatever each returns. -/
theorem destroy_loop_of_delete_each (services : Services σ Ctx) (contextNames : List (List Char))
    (state after : σ) (deleted : deleteEach services contextNames state = some after) :
    ∃ errorCount, destroyLoop services contextNames state = .ok (errorCount, after) := by
  induction contextNames generalizing state with
  | nil => exact ⟨0, by cases deleted; rfl⟩
  | cons contextName rest ih =>
      rw [deleteEach] at deleted
      rw [destroyLoop]
      rcases called : services.delTag state contextName with thrown | ⟨result, next⟩
      · rw [called] at deleted; cases deleted
      · rw [called] at deleted
        obtain ⟨errorCount, loop⟩ := ih next deleted
        exact ⟨_, by dsimp only; rw [loop]; rfl⟩

/-- `context_destroy` on an initialized interface returns 0 exactly when the list is empty, or the
CTE client exists and every `DelTag`, each on the state the one before left, returns true without
throwing. -/
theorem context_destroy_status (services : Services σ Ctx) (contextNames : List (List Char))
    (state : σ) :
    (contextDestroy true services contextNames state).1 = 0 ↔
      contextNames = [] ∨
        services.cteClient = true ∧ allDeleted services contextNames state = true := by
  rw [← destroy_loop_ok_zero_iff]
  unfold contextDestroy
  cases contextNames with
  | nil => simp
  | cons contextName rest =>
      cases services.cteClient <;> simp only [Bool.not_false, Bool.not_true, if_true, if_false,
        List.isEmpty_cons, reduceCtorEq, false_or, true_and, false_and]
      · decide
      · rcases destroyLoop services (contextName :: rest) state with thrown | ⟨errorCount, after⟩
        · simp
        · simp only [Except.ok.injEq, Prod.mk.injEq, exists_and_left, exists_eq', and_true]
          split <;> omega

/-- Without an exception, `context_destroy` deletes every context in turn: a failed `DelTag` does
not stop it. -/
theorem context_destroy_deletes_every_name (services : Services σ Ctx)
    (contextNames : List (List Char)) (state after : σ) (ready : services.cteClient = true)
    (deleted : deleteEach services contextNames state = some after) :
    (contextDestroy true services contextNames state).2 = after := by
  obtain ⟨errorCount, loop⟩ := destroy_loop_of_delete_each services contextNames state after deleted
  unfold contextDestroy
  cases contextNames with
  | nil => cases deleted; rfl
  | cons contextName rest => simp [ready, loop]

/-- A tag store for the examples, whose `DelTag` removes a tag and says whether it was there. -/
def sampleServices : Services (List (List Char)) Unit where
  parseOmni := fun tags bundle => .ok (0, BitVec.ofNat 32 bundle.length, tags)
  cteClient := true
  blobQuery := fun tags _ _ => .ok (tags, tags)
  delTag := fun tags contextName => .ok (tags.contains contextName, tags.erase contextName)

theorem context_destroy_deletes_after_missing_name :
    sampleServices.cteClient = true ∧
      deleteEach sampleServices ["a".toList, "b".toList] ["b".toList] = some [] ∧
      (contextDestroy true sampleServices ["a".toList, "b".toList] ["b".toList]).2 = [] :=
  ⟨rfl, rfl, context_destroy_deletes_every_name sampleServices _ _ _ rfl rfl⟩

/-- The missing first context makes the call fail, and the second is deleted all the same. -/
example : contextDestroy true sampleServices ["a".toList, "b".toList] ["b".toList] = (1, []) :=
  rfl

end IowarpCore.Api.ContextInterface
