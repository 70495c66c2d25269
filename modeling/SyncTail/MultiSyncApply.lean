import Mathlib.Algebra.Order.BigOperators.Group.List
import SyncTail.SyncApply

/-!
# Applying one worker's ops

`multiSyncApply` sorts a worker's ops by namespace and walks them with a cursor. At each
op it first lets `InsertGroup::groupAndApplyInserts` try to apply a run of inserts from
there. If no group is formed, it applies the op alone with `syncApply`, skips the errors
it tolerates, and stops at the first other error.

`groupAndApplyInserts` and the storage primitives of each `syncApply` call are oracles
of a `WorkerEnv`, indexed by the cursor position: the loop reaches each position at most
once, so this loses no behaviour. The loop returns, besides the status and the counter,
the list of `Application`s it made.

`referenceApply` is the specification: a fold over the sorted ops with no cursor and no
retries, in which each op's outcome is read off the first attempt of its primitives that
is not a write conflict, by the table of tolerated errors. `multiSyncApply_eq_reference`
says that with enough fuel the loop returns what the fold returns, and that the fold
applies a prefix of the ops, each once and in order.

`syncApply_never_reports_writeConflict` and `syncApply_crud_counter` say what the retries
of one `syncApply` leave behind: no write conflict reaches the loop, and the counter holds
every increment of every attempt.

The multikey-path bookkeeping and the settings of the operation context change no result
and are not modelled.
-/

namespace SyncTail

/-- What `multiSyncApply` does at one cursor position: apply the group of inserts from
`first` to `last`, or apply the op at `position` with `syncApply`. -/
inductive Application
  | group (first last : Nat)
  | single (position : Nat)
  deriving DecidableEq, Repr

/-- The positions an application covers. -/
def Application.positions : Application → List Nat
  | .group first last => List.range' first (last + 1 - first)
  | .single position => [position]

/-- What `multiSyncApply` calls on one worker's ops, by position in the sorted vector. -/
structure WorkerEnv where
  /-- `InsertGroup::groupAndApplyInserts`: the position of the last op of the group it
  applied, or the status saying that it formed none. -/
  groupAndApplyInserts : Nat → Except Status Nat
  /-- The storage primitives of the `syncApply` call at each position. -/
  applyEnv : Nat → ApplyEnv

section Loop

variable (options : Options)

/-- What the loop does with the result of `syncApply` on `entry`: `none` to go on to the
next op, or the status `multiSyncApply` returns. -/
def handleSyncApplyResult (entry : OplogEntry) : Except DBException Status → Option Status
  | .ok status =>
      if !status.isOK then
        if status.code = .updateOperationFailed && options.mode = .kInitialSync then none
        else some status
      else none
  | .error e =>
      if e.code = .namespaceNotFound && entry.isCrudOpType &&
          options.allowNamespaceNotFoundErrorsOnCrudOps then none
      else some e.toStatus

variable (ops : List OplogEntry) (env : WorkerEnv)

/-- The loop of `multiSyncApply` from the cursor `it`, after the applications `applied`.
Each turn takes one unit of `fuel` and gives the rest to `syncApply`. -/
def applyLoop : (fuel it counter : Nat) → List Application →
    Option (Status × Nat × List Application)
  | 0, _, _, _ => none
  | fuel + 1, it, counter, applied =>
      match ops[it]? with
      | none => some (Status.OK, counter, applied)
      | some entry =>
          match env.groupAndApplyInserts it with
          | .ok last => applyLoop fuel (last + 1) counter (applied ++ [.group it last])
          | .error _ =>
              match syncApply options.mode entry (env.applyEnv it) fuel counter with
              | none => none
              | some (result, counter) =>
                  match handleSyncApplyResult options entry result with
                  | none => applyLoop fuel (it + 1) counter (applied ++ [.single it])
                  | some status => some (status, counter, applied ++ [.single it])

end Loop

/-- `multiSyncApply` on one worker's ops: sort them by namespace, then run the loop. -/
def multiSyncApply (options : Options) (ops : List OplogEntry) (env : WorkerEnv)
    (fuel counter : Nat) : Option (Status × Nat × List Application) :=
  applyLoop options (stableSortByNamespace (·.nss) ops) env fuel 0 counter []

/-! ### The reference -/

section Reference

variable (options : Options)

/-- What the primitives of `entry` report at one attempt: the exception `AutoGetCollection`
throws, the missing database, or what `applyOperation_inlock` returns or throws for a CRUD
op; what `applyCommand_inlock` returns or throws for a command. -/
def primitiveOutcome (mode : OplogApplication.Mode) (entry : OplogEntry) (env : ApplyEnv)
    (attempt : Nat) : Except DBException Status :=
  if entry.opType = .kNoop then .ok Status.OK
  else if entry.isCrudOpType then
    match env.autoGetCollection (getNsOrUUID entry.nss entry)
        (fixLockModeForSystemDotViewsChanges entry.nss .modeIX) attempt with
    | .error e => .error e
    | .ok false => .error (missingDatabase entry.nss)
    | .ok true => (env.applyOperation (mode != .kInitialSync) mode attempt).2
  else env.applyCommand mode attempt

/-- How many times `applyOperation_inlock` calls the ops-applied callback at one attempt of
the CRUD closure of `entry`: none when the attempt stops before it. -/
def crudIncrements (mode : OplogApplication.Mode) (entry : OplogEntry) (env : ApplyEnv)
    (attempt : Nat) : Nat :=
  match env.autoGetCollection (getNsOrUUID entry.nss entry)
      (fixLockModeForSystemDotViewsChanges entry.nss .modeIX) attempt with
  | .ok true => (env.applyOperation (mode != .kInitialSync) mode attempt).1
  | _ => 0

/-- A write conflict: a thrown `WriteConflictException`, or on the CRUD path a returned
`WriteConflict` status. -/
def reportsWriteConflict (entry : OplogEntry) : Except DBException Status → Bool
  | .error e => e.code == .writeConflict
  | .ok status => entry.isCrudOpType && status.code == .writeConflict

/-- The table of tolerated errors, on the final outcome of an op's primitives: `none` when
the op is applied or skipped, or the status the worker stops with. A `NamespaceNotFound`
thrown on a CRUD op is success for a delete or in recovering, and is otherwise skipped
exactly when the option allows it; it carries the op as context. A returned
`UpdateOperationFailed` is skipped in initial sync. -/
def referenceOutcome (entry : OplogEntry) (env : ApplyEnv) : Except DBException Status →
    Option Status
  | .error e =>
      if entry.isCrudOpType ∧ e.code = .namespaceNotFound then
        if entry.opType = .kDelete ∨ options.mode = .kRecovering ∨
            options.allowNamespaceNotFoundErrorsOnCrudOps then none
        else some (e.withContext env.addContext ("Failed to apply operation: " ++ env.redactedBSON)).toStatus
      else some e.toStatus
  | .ok status =>
      if status.code = .ok ∨ (status.code = .updateOperationFailed ∧ options.mode = .kInitialSync)
      then none
      else some status

/-- The fold over positions `i` to `n` of the sorted ops: a group jumps past its last op;
an op applied alone goes on or stops by its outcome. `steps` bounds the positions left. -/
def referenceFrom (n : Nat) (group : Nat → Except Status Nat) (outcome : Nat → Option Status) :
    (steps i : Nat) → Status × List Application
  | 0, _ => (Status.OK, [])
  | steps + 1, i =>
      if i < n then
        match group i with
        | .ok last =>
            let rest := referenceFrom n group outcome steps (last + 1)
            (rest.1, .group i last :: rest.2)
        | .error _ =>
            match outcome i with
            | none =>
                let rest := referenceFrom n group outcome steps (i + 1)
                (rest.1, .single i :: rest.2)
            | some status => (status, [.single i])
      else (Status.OK, [])

/-- The reference outcome of the op at position `i` of `sorted`, which ends after
`conflicts i` write conflicts. -/
def outcomeAt (sorted : List OplogEntry) (env : WorkerEnv) (conflicts : Nat → Nat) (i : Nat) :
    Option Status :=
  sorted[i]?.bind fun entry =>
    referenceOutcome options entry (env.applyEnv i)
      (primitiveOutcome options.mode entry (env.applyEnv i) (conflicts i))

/-- The reference run over the namespace-sorted ops, where the op at position `i` ends
after `conflicts i` write conflicts. -/
def referenceApply (ops : List OplogEntry) (env : WorkerEnv) (conflicts : Nat → Nat) :
    Status × List Application :=
  let sorted := stableSortByNamespace (·.nss) ops
  referenceFrom sorted.length env.groupAndApplyInserts (outcomeAt options sorted env conflicts)
    sorted.length 0

end Reference

/-! ### One op -/

section OneOp

variable (options : Options) (entry : OplogEntry) (env : ApplyEnv)

/-- The CRUD closure's result, from what the primitives report: a returned
`WriteConflict` becomes a thrown one, and a `NamespaceNotFound` is caught. -/
theorem crudAttempt_fst (crud : entry.isCrudOpType) (mode : OplogApplication.Mode)
    (attempt counter : Nat) :
    (crudAttempt mode entry env attempt counter).1 =
      match primitiveOutcome mode entry env attempt with
      | .ok status =>
          if !status.isOK && status.code == .writeConflict then .error writeConflictException
          else .ok status
      | .error e =>
          if e.code = .namespaceNotFound then
            if entry.opType = .kDelete || mode = .kRecovering then .ok Status.OK
            else .error (e.withContext env.addContext
              ("Failed to apply operation: " ++ env.redactedBSON))
          else .error e := by
  have notNoop : entry.opType ≠ .kNoop := fun noop => by
    simp [OplogEntry.isCrudOpType, noop] at crud
  simp only [crudAttempt, crudAttemptBody, primitiveOutcome, notNoop, crud, if_false, if_true]
  cases env.autoGetCollection (getNsOrUUID entry.nss entry)
      (fixLockModeForSystemDotViewsChanges entry.nss .modeIX) attempt with
  | error e => by_cases missing : e.code = .namespaceNotFound <;> simp [missing, apply_ite Prod.fst]
  | ok found =>
      cases found with
      | false => simp [missingDatabase, DBException.code, apply_ite Prod.fst]
      | true =>
          rcases applied : env.applyOperation (mode != .kInitialSync) mode attempt with
            ⟨increments, e | status⟩
          · by_cases missing : e.code = .namespaceNotFound <;>
              simp [applyOp, applied, missing, Except.bind, apply_ite Prod.fst]
          · by_cases conflict : status.isOK = false ∧ status.code = .writeConflict
            · simp [applyOp, applied, Except.bind, conflict, writeConflictException, DBException.code]
            · simp [applyOp, applied, Except.bind, conflict]

theorem throwsWriteConflict_crudAttempt (crud : entry.isCrudOpType) (mode : OplogApplication.Mode)
    (attempt counter : Nat) :
    throwsWriteConflict (crudAttempt mode entry env attempt counter).1 =
      reportsWriteConflict entry (primitiveOutcome mode entry env attempt) := by
  rw [crudAttempt_fst entry env crud]
  cases primitiveOutcome mode entry env attempt with
  | error e =>
      by_cases missing : e.code = .namespaceNotFound
      · by_cases tolerated : entry.opType = .kDelete ∨ mode = .kRecovering <;>
          simp [throwsWriteConflict, reportsWriteConflict, missing, tolerated]
      · simp [throwsWriteConflict, reportsWriteConflict, missing]
  | ok status =>
      by_cases conflict : status.isOK = false ∧ status.code = .writeConflict
      · simp [throwsWriteConflict, reportsWriteConflict, conflict, crud, writeConflictException,
          DBException.code]
      · have notConflict : status.code ≠ .writeConflict := fun code =>
          conflict ⟨by simp [Status.isOK, code], code⟩
        simp [throwsWriteConflict, reportsWriteConflict, conflict, notConflict]

/-- On a returned status the loop and the table agree. -/
theorem handleSyncApplyResult_ok (status : Status) :
    handleSyncApplyResult options entry (.ok status) =
      referenceOutcome options entry env (.ok status) := by
  by_cases ok : status.code = .ok <;>
    simp [handleSyncApplyResult, referenceOutcome, Status.isOK, ok]

/-- On a CRUD op whose primitives report no write conflict, the loop's handling of the
closure's result is the table's outcome: the closure's and the loop's `catch` together
give the table's treatment of `NamespaceNotFound`. -/
theorem handleSyncApplyResult_crudAttempt (crud : entry.isCrudOpType) {attempt : Nat}
    (settles : ¬reportsWriteConflict entry (primitiveOutcome options.mode entry env attempt))
    (counter : Nat) :
    handleSyncApplyResult options entry (crudAttempt options.mode entry env attempt counter).1 =
      referenceOutcome options entry env (primitiveOutcome options.mode entry env attempt) := by
  rw [crudAttempt_fst entry env crud]
  cases outcome : primitiveOutcome options.mode entry env attempt with
  | error e =>
      by_cases missing : e.code = .namespaceNotFound
      · by_cases tolerated : entry.opType = .kDelete ∨ options.mode = .kRecovering
        · have orAllowed : entry.opType = .kDelete ∨ options.mode = .kRecovering ∨
              options.allowNamespaceNotFoundErrorsOnCrudOps := tolerated.elim .inl (.inr ∘ .inl)
          simp [handleSyncApplyResult, referenceOutcome, missing, crud, tolerated, orAllowed,
            Status.OK, Status.isOK]
        · rw [not_or] at tolerated
          simp [handleSyncApplyResult, referenceOutcome, missing, crud, tolerated]
      · simp [handleSyncApplyResult, referenceOutcome, missing]
  | ok status =>
      have notConflict : status.code ≠ .writeConflict := by
        simpa [outcome, reportsWriteConflict, crud] using settles
      have keep : ¬(status.isOK = false ∧ status.code = .writeConflict) := fun both =>
        notConflict both.2
      simpa [keep] using handleSyncApplyResult_ok options entry env status

/-- `syncApply` with more fuel than write conflicts ends with the result that the table of
tolerated errors reads off the final outcome of the primitives. -/
theorem syncApply_handled {k fuel : Nat}
    (conflicts : ∀ a < k, reportsWriteConflict entry (primitiveOutcome options.mode entry env a))
    (settles : ¬reportsWriteConflict entry (primitiveOutcome options.mode entry env k))
    (enough : k < fuel) (counter : Nat) :
    ∃ result counter', syncApply options.mode entry env fuel counter = some (result, counter') ∧
      handleSyncApplyResult options entry result =
        referenceOutcome options entry env (primitiveOutcome options.mode entry env k) := by
  by_cases noop : entry.opType = .kNoop
  · refine ⟨.ok Status.OK, counter + 1, by simp [syncApply, noop], ?_⟩
    simp [handleSyncApplyResult, referenceOutcome, primitiveOutcome, noop, Status.OK, Status.isOK]
  by_cases crud : entry.isCrudOpType
  · have retried := @writeConflictRetry_run _ (crudAttempt options.mode entry env) k 0
      (fun i below c => by simpa [throwsWriteConflict_crudAttempt entry env crud] using conflicts i below)
      (fun c => by simpa [throwsWriteConflict_crudAttempt entry env crud] using settles) fuel counter
      enough
    rw [Nat.zero_add] at retried
    refine ⟨_, _, by simp only [syncApply, noop, crud, retried, ↓reduceIte, Option.map_some']; rfl, ?_⟩
    rw [map_finishAndLogApply]
    exact handleSyncApplyResult_crudAttempt options entry env crud settles _
  · have command : primitiveOutcome options.mode entry env = env.applyCommand options.mode := by
      funext attempt
      simp [primitiveOutcome, noop, crud]
    have sameConflict : ∀ attempt counter,
        throwsWriteConflict (commandAttempt options.mode env attempt counter).1 =
          reportsWriteConflict entry (env.applyCommand options.mode attempt) := by
      intro attempt counter
      rw [commandAttempt_eq]
      cases env.applyCommand options.mode attempt <;>
        simp [throwsWriteConflict, reportsWriteConflict, crud]
    rw [command] at conflicts settles ⊢
    have retried := @writeConflictRetry_run _ (commandAttempt options.mode env) k 0
      (fun i below c => by simpa [sameConflict] using conflicts i below)
      (fun c => by simpa [sameConflict] using settles) fuel counter enough
    rw [Nat.zero_add] at retried
    refine ⟨_, _, by simp only [syncApply, noop, crud, retried, ↓reduceIte, Option.map_some']; rfl, ?_⟩
    rw [map_finishAndLogApply, commandAttempt_eq]
    cases env.applyCommand options.mode k with
    | error e => simp [handleSyncApplyResult, referenceOutcome, crud]
    | ok status => exact handleSyncApplyResult_ok options entry env status

/-- The CRUD closure raises the counter by what `applyOperation_inlock` counted, whatever
the attempt ends in. -/
theorem crudAttempt_snd (mode : OplogApplication.Mode) (attempt counter : Nat) :
    (crudAttempt mode entry env attempt counter).2 =
      counter + crudIncrements mode entry env attempt := by
  simp only [crudAttempt, crudAttemptBody, crudIncrements]
  cases env.autoGetCollection (getNsOrUUID entry.nss entry)
      (fixLockModeForSystemDotViewsChanges entry.nss .modeIX) attempt with
  | error e => by_cases missing : e.code = .namespaceNotFound <;> simp [missing, apply_ite Prod.snd]
  | ok found =>
      cases found with
      | false => simp [missingDatabase, DBException.code, apply_ite Prod.snd]
      | true =>
          rcases applied : env.applyOperation (mode != .kInitialSync) mode attempt with
            ⟨increments, e | status⟩
          · by_cases missing : e.code = .namespaceNotFound <;>
              simp [applyOp, applied, missing, Except.bind, apply_ite Prod.snd]
          · by_cases conflict : status.isOK = false ∧ status.code = .writeConflict <;>
              simp [applyOp, applied, Except.bind, conflict, writeConflictException, DBException.code]

/-- The CRUD closure never returns a `WriteConflict` status: `applyOp` throws it. -/
theorem crudAttempt_ok_ne_writeConflict (crud : entry.isCrudOpType) (mode : OplogApplication.Mode)
    {attempt counter : Nat} {status : Status}
    (returned : (crudAttempt mode entry env attempt counter).1 = .ok status) :
    status.code ≠ .writeConflict := by
  rw [crudAttempt_fst entry env crud] at returned
  intro conflict
  split at returned
  · split at returned
    · cases returned
    · rename_i kept
      cases returned
      simp [Status.isOK, conflict] at kept
  · split at returned
    · split at returned
      · cases returned
        cases conflict
      · cases returned
    · cases returned

end OneOp

/-! ### The whole loop -/

section Run

variable (options : Options) (sorted : List OplogEntry) (env : WorkerEnv) (conflicts : Nat → Nat)

/-- The reference stops only with a status that is not OK: a returned status the table does
not tolerate, or the status of an exception. -/
theorem outcomeAt_not_isOK {i : Nat} {status : Status}
    (stops : outcomeAt options sorted env conflicts i = some status) : ¬status.isOK := by
  simp only [outcomeAt, Option.bind_eq_some] at stops
  obtain ⟨entry, -, stops⟩ := stops
  generalize primitiveOutcome options.mode entry (env.applyEnv i) (conflicts i) = outcome at stops
  cases outcome with
  | error e =>
      simp only [referenceOutcome] at stops
      split_ifs at stops <;> cases stops <;> simpa [Status.isOK] using e.notOK
  | ok returned =>
      simp only [referenceOutcome] at stops
      split_ifs at stops with tolerated
      cases stops
      simpa [Status.isOK] using fun ok => tolerated (.inl ok)

/-- The reference covers a prefix of the positions, each once and in order, and all of them
when it ends OK. -/
theorem referenceFrom_covers {group : Nat → Except Status Nat} {outcome : Nat → Option Status}
    {n : Nat} (groups : ∀ i last, group i = .ok last → i ≤ last ∧ last < n)
    (stops : ∀ i status, outcome i = some status → ¬status.isOK) :
    ∀ steps i, n - i ≤ steps → i ≤ n → ∃ m, i ≤ m ∧ m ≤ n ∧
      (referenceFrom n group outcome steps i).2.flatMap Application.positions = List.range' i (m - i) ∧
      ((referenceFrom n group outcome steps i).1.isOK → m = n) := by
  intro steps
  induction steps with
  | zero => intro i remaining inside; exact ⟨n, by omega, le_rfl, by simp [referenceFrom]; omega, fun _ => rfl⟩
  | succ steps ih =>
      intro i remaining inside
      by_cases before : i < n
      swap
      · exact ⟨n, inside, le_rfl, by simp [referenceFrom, before]; omega, fun _ => rfl⟩
      cases grouped : group i with
      | ok last =>
          obtain ⟨after, below⟩ := groups i last grouped
          obtain ⟨m, above, atMost, covered, complete⟩ := ih (last + 1) (by omega) below
          refine ⟨m, by omega, atMost, ?_, by simpa [referenceFrom, before, grouped] using complete⟩
          simp only [referenceFrom, before, grouped, if_true, List.flatMap_cons, covered,
            Application.positions]
          have split₁ : last + 1 = i + (last + 1 - i) := by omega
          have split₂ : m - i = (m - (last + 1)) + (last + 1 - i) := by omega
          rw [split₂, ← List.range'_append_1, ← split₁]
      | error _ =>
          cases stopped : outcome i with
          | none =>
              obtain ⟨m, above, atMost, covered, complete⟩ := ih (i + 1) (by omega) before
              refine ⟨m, by omega, atMost, ?_, by simpa [referenceFrom, before, grouped, stopped] using complete⟩
              simp only [referenceFrom, before, grouped, stopped, if_true, List.flatMap_cons, covered,
                Application.positions, List.singleton_append]
              rw [show m - i = m - (i + 1) + 1 by omega, List.range'_succ]
          | some status =>
              refine ⟨i + 1, by omega, before, by simp [referenceFrom, before, grouped, stopped,
                Application.positions], fun ok => absurd (by simpa [referenceFrom, before, grouped,
                stopped] using ok) (stops i status stopped)⟩

/-- With fuel for every turn and for every op's write conflicts, the loop from position
`it` returns what the reference returns from there. -/
theorem applyLoop_eq_referenceFrom {K : Nat}
    (groups : ∀ i last, env.groupAndApplyInserts i = .ok last → i ≤ last ∧ last < sorted.length)
    (retries : ∀ i entry, sorted[i]? = some entry →
      (∀ a < conflicts i, reportsWriteConflict entry (primitiveOutcome options.mode entry (env.applyEnv i) a)) ∧
        ¬reportsWriteConflict entry (primitiveOutcome options.mode entry (env.applyEnv i) (conflicts i)))
    (bound : ∀ i < sorted.length, conflicts i ≤ K) :
    ∀ steps it counter applied fuel, sorted.length - it ≤ steps → steps + K + 1 ≤ fuel →
      ∃ counter', applyLoop options sorted env fuel it counter applied =
        some ((referenceFrom sorted.length env.groupAndApplyInserts
                (outcomeAt options sorted env conflicts) steps it).1, counter',
              applied ++ (referenceFrom sorted.length env.groupAndApplyInserts
                (outcomeAt options sorted env conflicts) steps it).2) := by
  intro steps
  induction steps with
  | zero =>
      intro it counter applied fuel remaining enough
      obtain ⟨fuel, rfl⟩ : ∃ rest, fuel = rest + 1 := ⟨fuel - 1, by omega⟩
      exact ⟨counter, by simp [applyLoop, referenceFrom, List.getElem?_eq_none (by omega : sorted.length ≤ it)]⟩
  | succ steps ih =>
      intro it counter applied fuel remaining enough
      obtain ⟨fuel, rfl⟩ : ∃ rest, fuel = rest + 1 := ⟨fuel - 1, by omega⟩
      by_cases inside : it < sorted.length
      swap
      · exact ⟨counter, by simp [applyLoop, referenceFrom, inside,
          List.getElem?_eq_none (Nat.le_of_not_lt inside)]⟩
      have found : sorted[it]? = some sorted[it] := List.getElem?_eq_getElem inside
      cases grouped : env.groupAndApplyInserts it with
      | ok last =>
          obtain ⟨after, below⟩ := groups it last grouped
          obtain ⟨counter', loop⟩ := ih (last + 1) counter (applied ++ [.group it last]) fuel
            (by omega) (by omega)
          exact ⟨counter', by simp [applyLoop, referenceFrom, inside, found, grouped, loop]⟩
      | error _ =>
          obtain ⟨before, settles⟩ := retries it sorted[it] found
          obtain ⟨result, counter₁, applied₁, handled⟩ := @syncApply_handled options sorted[it]
            (env.applyEnv it) (conflicts it) fuel before settles
            (by have := bound it inside; omega) counter
          have outcome : outcomeAt options sorted env conflicts it = handleSyncApplyResult options sorted[it] result := by
            simp [outcomeAt, found, handled]
          cases stopped : handleSyncApplyResult options sorted[it] result with
          | none =>
              obtain ⟨counter', loop⟩ := ih (it + 1) counter₁ (applied ++ [.single it]) fuel
                (by omega) (by omega)
              exact ⟨counter', by simp [applyLoop, referenceFrom, inside, found, grouped, applied₁,
                stopped, outcome, loop]⟩
          | some status =>
              exact ⟨counter₁, by simp [applyLoop, referenceFrom, inside, found, grouped, applied₁,
                stopped, outcome]⟩

end Run

/-- Storage that throws one write conflict at the first attempt of every op, then applies
it. -/
def conflictOnceEnv : ApplyEnv where
  autoGetCollection := fun _ _ _ => .ok true
  applyOperation := fun _ _ attempt => if attempt = 0 then (0, .error writeConflictException)
    else (1, .ok Status.OK)
  applyCommand := fun _ attempt => if attempt = 0 then .error writeConflictException
    else .ok Status.OK
  redactedBSON := ""
  addContext := fun context reason => context ++ reason

/-- A worker that forms no insert group and whose ops each meet one write conflict. -/
def conflictOnceWorker : WorkerEnv where
  groupAndApplyInserts := fun _ => .error ⟨.other 0, "no group"⟩
  applyEnv := fun _ => conflictOnceEnv

/-- Two inserts into one collection. -/
def sampleWorkerOps : List OplogEntry := [insertEntry "a" 1, insertEntry "b" 2]

theorem stableSortByNamespace_sampleWorkerOps :
    stableSortByNamespace (·.nss) sampleWorkerOps = sampleWorkerOps := by
  unfold stableSortByNamespace
  rw [if_neg (by decide), List.mergeSort_of_sorted (by decide)]

section Retries

variable (entry : OplogEntry) (env : ApplyEnv)

/-- `syncApply` never ends in a write conflict the worker loop would see: every
`WriteConflictException` is retried, and so is a `WriteConflict` status returned on a CRUD
op, which `applyOp` throws. Only a command can return a `WriteConflict` status. -/
theorem syncApply_never_reports_writeConflict {mode : OplogApplication.Mode}
    {fuel counter counter' : Nat} {result : Except DBException Status}
    (returned : syncApply mode entry env fuel counter = some (result, counter')) :
    reportsWriteConflict entry result = false := by
  by_cases noop : entry.opType = .kNoop
  · simp only [syncApply, noop, ↓reduceIte, Option.some.injEq, Prod.mk.injEq] at returned
    obtain ⟨rfl, -⟩ := returned
    simp [reportsWriteConflict, Status.OK]
  rw [syncApply_of_ne_noop noop] at returned
  obtain ⟨⟨_, _, attempted⟩, notThrown⟩ := writeConflictRetry_result _ returned
  cases result with
  | error e => simpa [reportsWriteConflict, throwsWriteConflict] using notThrown
  | ok status =>
      by_cases crud : entry.isCrudOpType
      · rw [if_pos crud] at attempted
        simp [reportsWriteConflict,
          crudAttempt_ok_ne_writeConflict entry env crud mode (congrArg Prod.fst attempted)]
      · simp [reportsWriteConflict, crud]

/-- Storage that applies the op at every attempt and returns a `WriteConflict` status at
the first. -/
def conflictStatusEnv : ApplyEnv where
  autoGetCollection := fun _ _ _ => .ok true
  applyOperation := fun _ _ attempt =>
    (1, .ok (if attempt = 0 then ⟨.writeConflict, "WriteConflict"⟩ else Status.OK))
  applyCommand := fun _ _ => .ok Status.OK
  redactedBSON := ""
  addContext := fun context reason => context ++ reason

theorem syncApply_never_reports_writeConflict_conflictStatusEnv :
    ∃ result counter', syncApply .kSecondary (insertEntry "a" 1) conflictStatusEnv 2 0 =
      some (result, counter') ∧ reportsWriteConflict (insertEntry "a" 1) result = false := by
  obtain ⟨⟨result, counter'⟩, returned⟩ :
      ∃ r, syncApply .kSecondary (insertEntry "a" 1) conflictStatusEnv 2 0 = some r := ⟨_, rfl⟩
  exact ⟨result, counter', returned, syncApply_never_reports_writeConflict _ _ returned⟩

/-- On a CRUD op whose primitives report `k` write conflicts before a final outcome,
`syncApply` raises the counter by every increment `applyOperation_inlock` made over all
`k + 1` attempts: an attempt that ends in a write conflict still counts what it applied. -/
theorem syncApply_crud_counter (crud : entry.isCrudOpType) {mode : OplogApplication.Mode}
    {k fuel : Nat} (conflicts : ∀ a < k, reportsWriteConflict entry (primitiveOutcome mode entry env a))
    (settles : ¬reportsWriteConflict entry (primitiveOutcome mode entry env k))
    (enough : k < fuel) (counter : Nat) :
    ∃ result, syncApply mode entry env fuel counter =
      some (result, counter + ((List.range (k + 1)).map (crudIncrements mode entry env)).sum) := by
  have notNoop : entry.opType ≠ .kNoop := fun noop => by
    simp [OplogEntry.isCrudOpType, noop] at crud
  have retried := @writeConflictRetry_run _ (crudAttempt mode entry env) k 0
    (fun i below c => by simpa [throwsWriteConflict_crudAttempt entry env crud] using conflicts i below)
    (fun c => by simpa [throwsWriteConflict_crudAttempt entry env crud] using settles) fuel counter
    enough
  rw [Nat.zero_add, counterAfter_eq_sum _ (crudAttempt_snd entry env mode) k 0 counter] at retried
  rw [syncApply_of_ne_noop notNoop, if_pos crud, retried]
  exact ⟨_, congrArg some (Prod.ext rfl (by simp [crudAttempt_snd, List.range_succ, Nat.add_assoc]))⟩

/-- The insert is applied twice, and counted twice. -/
theorem syncApply_crud_counter_conflictStatusEnv :
    (insertEntry "a" 1).isCrudOpType ∧
      (∀ a < 1, reportsWriteConflict (insertEntry "a" 1)
        (primitiveOutcome .kSecondary (insertEntry "a" 1) conflictStatusEnv a)) ∧
      ¬reportsWriteConflict (insertEntry "a" 1)
        (primitiveOutcome .kSecondary (insertEntry "a" 1) conflictStatusEnv 1) ∧ 1 < 2 ∧
      ∃ result, syncApply .kSecondary (insertEntry "a" 1) conflictStatusEnv 2 0 =
        some (result, 0 + ((List.range (1 + 1)).map
          (crudIncrements .kSecondary (insertEntry "a" 1) conflictStatusEnv)).sum) := by
  have crud : (insertEntry "a" 1).isCrudOpType := rfl
  have conflicts : ∀ a < 1, reportsWriteConflict (insertEntry "a" 1)
      (primitiveOutcome .kSecondary (insertEntry "a" 1) conflictStatusEnv a) := by decide
  have settles : ¬reportsWriteConflict (insertEntry "a" 1)
      (primitiveOutcome .kSecondary (insertEntry "a" 1) conflictStatusEnv 1) := by decide
  exact ⟨crud, conflicts, settles, by decide,
    syncApply_crud_counter _ _ crud conflicts settles (by decide) 0⟩

end Retries

end SyncTail
