import Mathlib.Algebra.Order.BigOperators.Group.List
import Mathlib.Algebra.Order.Ring.Nat
import SyncTail.OplogEntry

/-!
# Applying one op

`syncApply` applies one oplog entry. It only counts a no-op. It applies a CRUD op with
`applyOperation_inlock` under the collection's lock, and a command with
`applyCommand_inlock`. Both of these run inside `writeConflictRetry`, which runs the
closure again after every `WriteConflictException`.

A thrown exception is the `error` of an `Except DBException`. The storage primitives are
oracles of an `ApplyEnv`, indexed by the attempt, so every attempt may end its own way.
`opsAppliedStats` is a counter threaded through the calls. `writeConflictRetry` retries
without bound. The model takes fuel and returns `none` when the fuel runs out;
`writeConflictRetry_run` says how much fuel is enough.

The context checks of `syncApply`, `CurOp`, the fail point and the slow-op log line change
no result and are not modelled.
-/

namespace SyncTail

/-- The `ErrorCodes` oplog application tells apart; `other` stands for every other code. -/
inductive ErrorCode
  | ok
  | writeConflict
  | namespaceNotFound
  | updateOperationFailed
  | other (code : Nat)
  deriving DecidableEq, Repr

/-- `Status`: a code and a reason. -/
structure Status where
  code : ErrorCode
  reason : String
  deriving DecidableEq, Repr

namespace Status

/-- `Status::OK()`. -/
def OK : Status := ⟨.ok, ""⟩

/-- `Status::isOK`. -/
def isOK (status : Status) : Bool := status.code == .ok

end Status

/-- A `DBException`: it carries a status that is not OK. -/
structure DBException where
  toStatus : Status
  notOK : toStatus.code ≠ .ok

namespace DBException

/-- `DBException::code`. -/
def code (e : DBException) : ErrorCode := e.toStatus.code

/-- `ex.addContext(context)`: the same code, with the context added to the reason by
`addContext`. -/
def withContext (addContext : String → String → String) (e : DBException) (context : String) :
    DBException :=
  ⟨{ e.toStatus with reason := addContext context e.toStatus.reason }, e.notOK⟩

@[simp]
theorem withContext_code (addContext : String → String → String) (e : DBException)
    (context : String) : (e.withContext addContext context).code = e.code := rfl

end DBException

/-- Modelled from the spec: the `WriteConflictException` storage throws on a write
conflict. -/
def writeConflictException : DBException := ⟨⟨.writeConflict, "WriteConflict"⟩, nofun⟩

/-- The exception `uassert(ErrorCodes::NamespaceNotFound, ...)` throws when the database
of a CRUD op is missing. -/
def missingDatabase (nss : NamespaceString) : DBException :=
  ⟨⟨.namespaceNotFound, "missing database (" ++ nss.db ++ ")"⟩, nofun⟩

/-- A result that is a thrown `WriteConflictException`. -/
def throwsWriteConflict {α : Type} : Except DBException α → Bool
  | .error e => e.code == .writeConflict
  | .ok _ => false

/-- The lock modes `syncApply` takes a collection lock in. -/
inductive LockMode
  | modeIX
  | modeX
  deriving DecidableEq, Repr

/-- `fixLockModeForSystemDotViewsChanges`: writes to `system.views` take the exclusive
lock. -/
def fixLockModeForSystemDotViewsChanges (nss : NamespaceString) (mode : LockMode) : LockMode :=
  if nss.isSystemDotViews then .modeX else mode

/-- What the storage primitives do in one `syncApply` call, at each attempt of its
closure. -/
structure ApplyEnv where
  /-- `AutoGetCollection` on a namespace or UUID in a lock mode: the exception it throws,
  or whether `getDb()` found the database. -/
  autoGetCollection : NamespaceStringOrUUID → LockMode → Nat → Except DBException Bool
  /-- `applyOperation_inlock` with `shouldAlwaysUpsert` and the mode: how many times it
  calls the ops-applied callback, and the status it returns or the exception it throws. -/
  applyOperation : Bool → OplogApplication.Mode → Nat → Nat × Except DBException Status
  /-- `applyCommand_inlock` in a mode. -/
  applyCommand : OplogApplication.Mode → Nat → Except DBException Status
  /-- `redact(batch.toBSON())`. -/
  redactedBSON : String
  /-- `DBException::addContext` on a reason. -/
  addContext : String → String → String

section SyncApply

variable (mode : OplogApplication.Mode) (op : OplogEntry) (env : ApplyEnv)

/-- `applyOp`: `applyOperation_inlock`, with a returned `WriteConflict` status thrown as a
`WriteConflictException`. -/
def applyOp (attempt counter : Nat) : Except DBException Status × Nat :=
  let shouldAlwaysUpsert := mode != .kInitialSync
  let (increments, result) := env.applyOperation shouldAlwaysUpsert mode attempt
  (result.bind fun status =>
    if !status.isOK && status.code == .writeConflict then .error writeConflictException
    else .ok status,
  counter + increments)

/-- The `try` block of the CRUD closure: lock the collection, check that its database
exists, and apply the op. -/
def crudAttemptBody (attempt counter : Nat) : Except DBException Status × Nat :=
  let nss := op.nss
  match env.autoGetCollection (getNsOrUUID nss op)
      (fixLockModeForSystemDotViewsChanges nss .modeIX) attempt with
  | .error e => (.error e, counter)
  | .ok false => (.error (missingDatabase nss), counter)
  | .ok true => applyOp mode env attempt counter

/-- The CRUD closure: a `NamespaceNotFound` is success for a delete or in recovering,
and is thrown again with the op as context otherwise. -/
def crudAttempt (attempt counter : Nat) : Except DBException Status × Nat :=
  match crudAttemptBody mode op env attempt counter with
  | (.error e, counter) =>
      if e.code = .namespaceNotFound then
        if op.opType = .kDelete || mode = .kRecovering then (.ok Status.OK, counter)
        else (.error (e.withContext env.addContext ("Failed to apply operation: " ++ env.redactedBSON)),
          counter)
      else (.error e, counter)
  | result => result

/-- The command closure: apply the command, then count it. -/
def commandAttempt (attempt counter : Nat) : Except DBException Status × Nat :=
  match env.applyCommand mode attempt with
  | .ok status => (.ok status, counter + 1)
  | .error e => (.error e, counter)

end SyncApply

/-- Modelled from the spec: `writeConflictRetry` runs its closure, and runs it again after
each `WriteConflictException`, without bound. The closure is given the attempt number and
the counter; `fuel` bounds the attempts, and `none` means it ran out. -/
def writeConflictRetry {α : Type} (f : Nat → Nat → Except DBException α × Nat) :
    (fuel attempt counter : Nat) → Option (Except DBException α × Nat)
  | 0, _, _ => none
  | fuel + 1, attempt, counter =>
      match f attempt counter with
      | (.error e, counter) =>
          if e.code = .writeConflict then writeConflictRetry f fuel (attempt + 1) counter
          else some (.error e, counter)
      | result => some result

/-- `finishAndLogApply`: log a slow op that succeeded, and return its status unchanged. -/
def finishAndLogApply (status : Status) : Status := status

@[simp]
theorem map_finishAndLogApply (result : Except DBException Status) :
    result.map finishAndLogApply = result := by
  cases result <;> rfl

/-- `syncApply` on one op, with `fuel` for each `writeConflictRetry`. -/
def syncApply (mode : OplogApplication.Mode) (op : OplogEntry) (env : ApplyEnv)
    (fuel counter : Nat) : Option (Except DBException Status × Nat) :=
  let finishApply := fun (result : Except DBException Status × Nat) =>
    (result.1.map finishAndLogApply, result.2)
  if op.opType = .kNoop then some (.ok Status.OK, counter + 1)
  else if op.isCrudOpType then
    (writeConflictRetry (crudAttempt mode op env) fuel 0 counter).map finishApply
  else
    -- `kCommand`, the one op type left
    (writeConflictRetry (commandAttempt mode env) fuel 0 counter).map finishApply

/-- Past the no-op case, `syncApply` is `writeConflictRetry` on the CRUD or the command
closure: `finishAndLogApply` returns its status unchanged. -/
theorem syncApply_of_ne_noop {mode : OplogApplication.Mode} {op : OplogEntry} {env : ApplyEnv}
    (notNoop : op.opType ≠ .kNoop) (fuel counter : Nat) :
    syncApply mode op env fuel counter =
      writeConflictRetry (if op.isCrudOpType then crudAttempt mode op env else commandAttempt mode env)
        fuel 0 counter := by
  by_cases crud : op.isCrudOpType <;> simp [syncApply, notNoop, crud]

/-! ### Retrying -/

section Retry

variable {α : Type} (f : Nat → Nat → Except DBException α × Nat)

/-- The counter after `k` attempts from `attempt`. -/
def counterAfter : (k attempt counter : Nat) → Nat
  | 0, _, counter => counter
  | k + 1, attempt, counter => counterAfter k (attempt + 1) (f attempt counter).2

theorem writeConflictRetry_conflict {fuel attempt counter : Nat}
    (conflict : throwsWriteConflict (f attempt counter).1) :
    writeConflictRetry f (fuel + 1) attempt counter =
      writeConflictRetry f fuel (attempt + 1) (f attempt counter).2 := by
  rcases attempted : f attempt counter with ⟨_ | _, after⟩ <;>
    simp_all [writeConflictRetry, throwsWriteConflict]

theorem writeConflictRetry_settle {fuel attempt counter : Nat}
    (settles : ¬throwsWriteConflict (f attempt counter).1) :
    writeConflictRetry f (fuel + 1) attempt counter = some (f attempt counter) := by
  rcases attempted : f attempt counter with ⟨_ | _, after⟩ <;>
    simp_all [writeConflictRetry, throwsWriteConflict]

/-- After `k` write conflicts and one attempt that is not, `writeConflictRetry` returns
that attempt's result, given more fuel than conflicts. -/
theorem writeConflictRetry_run {k : Nat} :
    ∀ {attempt : Nat}, (∀ i < k, ∀ counter, throwsWriteConflict (f (attempt + i) counter).1) →
      (∀ counter, ¬throwsWriteConflict (f (attempt + k) counter).1) →
      ∀ {fuel : Nat} (counter : Nat), k < fuel →
        writeConflictRetry f fuel attempt counter =
          some (f (attempt + k) (counterAfter f k attempt counter)) := by
  induction k with
  | zero =>
      intro attempt _ settles fuel counter enough
      obtain ⟨fuel, rfl⟩ := Nat.exists_eq_add_of_lt enough
      exact writeConflictRetry_settle f (settles counter)
  | succ k ih =>
      intro attempt conflicts settles fuel counter enough
      obtain ⟨fuel, rfl⟩ := Nat.exists_eq_add_of_lt (Nat.zero_lt_of_lt enough)
      have first := conflicts 0 (Nat.succ_pos k) counter
      rw [Nat.add_zero] at first
      have later : ∀ i < k, ∀ counter, throwsWriteConflict (f (attempt + 1 + i) counter).1 :=
        fun i below counter => by
          simpa [Nat.add_assoc, Nat.add_comm 1] using conflicts (i + 1) (Nat.succ_lt_succ below) counter
      have last : ∀ counter, ¬throwsWriteConflict (f (attempt + 1 + k) counter).1 := by
        simpa [Nat.add_assoc, Nat.add_comm 1] using settles
      rw [Nat.zero_add, writeConflictRetry_conflict f first, ih later last _ (by omega)]
      simp [counterAfter, Nat.add_assoc, Nat.add_comm 1]

/-- `writeConflictRetry` returns what one attempt of its closure returned, and never a
`WriteConflictException`. -/
theorem writeConflictRetry_result :
    ∀ {fuel attempt counter : Nat} {result : Except DBException α × Nat},
      writeConflictRetry f fuel attempt counter = some result →
        (∃ a c, f a c = result) ∧ ¬throwsWriteConflict result.1
  | 0, _, _, _, returned => by cases returned
  | fuel + 1, attempt, counter, result, returned => by
      rcases attempted : f attempt counter with ⟨e | value, after⟩
      · simp only [writeConflictRetry, attempted] at returned
        split at returned
        · exact writeConflictRetry_result returned
        · rename_i notConflict
          cases returned
          exact ⟨⟨attempt, counter, attempted⟩,
            by simpa [throwsWriteConflict, DBException.code] using notConflict⟩
      · simp only [writeConflictRetry, attempted] at returned
        cases returned
        exact ⟨⟨attempt, counter, attempted⟩, by simp [throwsWriteConflict]⟩

/-- Attempts that each raise the counter by their own increment raise it, over `k`
attempts, by the sum of those increments. -/
theorem counterAfter_eq_sum {increment : Nat → Nat}
    (adds : ∀ attempt counter, (f attempt counter).2 = counter + increment attempt) :
    ∀ k attempt counter, counterAfter f k attempt counter =
      counter + ((List.range k).map fun i => increment (attempt + i)).sum
  | 0, _, _ => rfl
  | k + 1, attempt, counter => by
      have shifted : (fun i => increment (attempt + 1 + i)) =
          (fun i => increment (attempt + i)) ∘ Nat.succ := by
        funext i
        simp only [Function.comp, Nat.succ_eq_add_one, Nat.add_right_comm attempt 1 i, Nat.add_assoc]
      rw [counterAfter, counterAfter_eq_sum adds k, adds, shifted, ← List.map_map,
        List.range_succ_eq_map, List.map_cons, List.sum_cons, Nat.add_zero, Nat.add_assoc]

/-- Attempts that keep the counter leave it as it was. -/
theorem counterAfter_of_keeps {k attempt : Nat}
    (keeps : ∀ i < k, ∀ counter, (f (attempt + i) counter).2 = counter) (counter : Nat) :
    counterAfter f k attempt counter = counter := by
  induction k generalizing attempt with
  | zero => rfl
  | succ k ih =>
      have first := keeps 0 (Nat.succ_pos k) counter
      rw [Nat.add_zero] at first
      rw [counterAfter, first, ih]
      intro i below counter
      simpa [Nat.add_assoc, Nat.add_comm 1] using keeps (i + 1) (Nat.succ_lt_succ below) counter

end Retry

/-! ### The counter on no-ops and commands -/

section Counter

variable (mode : OplogApplication.Mode) (op : OplogEntry) (env : ApplyEnv)

/-- The command closure returns or throws what `applyCommand_inlock` does, and counts only
a return. -/
theorem commandAttempt_eq (attempt counter : Nat) :
    commandAttempt mode env attempt counter =
      (env.applyCommand mode attempt, match env.applyCommand mode attempt with
        | .ok _ => counter + 1
        | .error _ => counter) := by
  unfold commandAttempt
  split <;> simp_all

/-- For a no-op, or a command whose `applyCommand_inlock` throws `k` write conflicts and
then returns or throws something else, `syncApply` returns once it has more fuel than
conflicts. It raises the counter by one when it returns normally, whatever the status,
and leaves it unchanged when it throws. -/
theorem syncApply_counts_each_return (kind : op.opType = .kNoop ∨ op.opType = .kCommand)
    {k : Nat} (conflicts : ∀ i < k, throwsWriteConflict (env.applyCommand mode i))
    (settles : ¬throwsWriteConflict (env.applyCommand mode k)) {fuel : Nat} (enough : k < fuel)
    (counter : Nat) :
    ∃ result, syncApply mode op env fuel counter =
      some (result, match result with
        | .ok _ => counter + 1
        | .error _ => counter) := by
  rcases kind with noop | command
  · exact ⟨.ok Status.OK, by simp [syncApply, noop]⟩
  have notCrud : ¬op.isCrudOpType := by simp [OplogEntry.isCrudOpType, command]
  have keeps : ∀ i < k, ∀ counter, (commandAttempt mode env (0 + i) counter).2 = counter :=
    fun i below counter => by
      have conflict := conflicts i below
      rw [Nat.zero_add, commandAttempt_eq]
      cases thrown : env.applyCommand mode i with
      | ok _ => simp [thrown, throwsWriteConflict] at conflict
      | error _ => rfl
  have retried := @writeConflictRetry_run _ (commandAttempt mode env) k 0
    (fun i below counter => by simpa [commandAttempt_eq] using conflicts i below)
    (fun counter => by simpa [commandAttempt_eq] using settles) fuel counter enough
  rw [counterAfter_of_keeps _ keeps, Nat.zero_add, commandAttempt_eq] at retried
  exact ⟨env.applyCommand mode k, by simp [syncApply, command, notCrud, retried]⟩

/-- Storage whose `applyCommand_inlock` throws two write conflicts, then returns OK. -/
def conflictTwiceEnv : ApplyEnv where
  autoGetCollection := fun _ _ _ => .ok true
  applyOperation := fun _ _ _ => (1, .ok Status.OK)
  applyCommand := fun _ attempt => if attempt < 2 then .error writeConflictException else .ok Status.OK
  redactedBSON := ""
  addContext := fun context reason => context ++ reason

/-- A command entry on `admin.$cmd`. -/
def sampleCommandEntry : OplogEntry :=
  { insertEntry "cmd" 1 with opType := .kCommand, nss := ⟨"admin.$cmd"⟩, command := .kOther }

theorem syncApply_counts_each_return_sampleCommandEntry :
    (sampleCommandEntry.opType = .kNoop ∨ sampleCommandEntry.opType = .kCommand) ∧
    (∀ i < 2, throwsWriteConflict (conflictTwiceEnv.applyCommand .kSecondary i)) ∧
    ¬throwsWriteConflict (conflictTwiceEnv.applyCommand .kSecondary 2) ∧ 2 < 3 ∧
    ∃ result, syncApply .kSecondary sampleCommandEntry conflictTwiceEnv 3 0 =
      some (result, match result with
        | .ok _ => 0 + 1
        | .error _ => 0) := by
  have kind : sampleCommandEntry.opType = .kNoop ∨ sampleCommandEntry.opType = .kCommand :=
    .inr rfl
  have conflicts : ∀ i < 2, throwsWriteConflict (conflictTwiceEnv.applyCommand .kSecondary i) := by
    decide
  have settles : ¬throwsWriteConflict (conflictTwiceEnv.applyCommand .kSecondary 2) := by decide
  exact ⟨kind, conflicts, settles, by decide, syncApply_counts_each_return .kSecondary
    sampleCommandEntry conflictTwiceEnv kind conflicts settles (by decide) 0⟩

end Counter

end SyncTail
