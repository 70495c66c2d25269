import SyncTail.FillWriterVectors.Step

/-!
# Buffered transaction entries

A multi-entry transaction reaches the pass as partial-transaction entries followed by
its terminal `applyOps` (or, in initial sync, prepare entries followed by the prepared
commit). The loop keeps each session's partial entries in `partialTxnOps` and hands them
to `readTransactionOperationsFromOplogChain` at the terminal entry; an
`abortTransaction` discards them.

`expectedPartialTxnList` states, in the terms of the batch, which handles a session's
list holds when the loop reaches an entry: the entries it buffered for the session after
the last entry that cleared the list. `expectedTxnReads` lists the calls the loop makes.
`deriveLoop_batch_txn` proves, by induction over the batch, that the loop keeps exactly
these lists and makes exactly these calls; `expectedTxnReads_nodup` and
`not_mem_expectedTxnReads_of_abort` say that no buffered entry is handed over twice, and
none after an abort of its session.

Clearing is what the loop does: an entry at or below `beginApplyingOpTime` is skipped,
so it clears nothing.
-/

namespace SyncTail

section Roles

variable (ctx : FillContext)

/-- The loop appends `op` to session `S`'s list. -/
def buffersFor (S : LogicalSessionId) (op : OplogEntry) : Bool :=
  !decide (op.opTime ≤ ctx.options.beginApplyingOpTime) && isBuffered ctx op &&
    op.sessionId == some S

/-- The loop hands session `S`'s list to `readTransactionOperationsFromOplogChain` at
`op`. -/
def materializesFor (S : LogicalSessionId) (op : OplogEntry) : Bool :=
  !decide (op.opTime ≤ ctx.options.beginApplyingOpTime) && op.sessionId == some S &&
    materializes ctx op

/-- `op` is an `abortTransaction` of session `S` that the loop processes. -/
def abortsFor (S : LogicalSessionId) (op : OplogEntry) : Bool :=
  !decide (op.opTime ≤ ctx.options.beginApplyingOpTime) && op.sessionId == some S &&
    op.getCommandType == .kAbortTransaction

/-- The loop empties session `S`'s list at `op`. -/
def clearsFor (S : LogicalSessionId) (op : OplogEntry) : Bool :=
  abortsFor ctx S op || materializesFor ctx S op

/-- The call of `readTransactionOperationsFromOplogChain` the loop makes at `op`, given
the sessions' lists. -/
def txnRead (ref : OpRef) (op : OplogEntry) (partialTxnOps : LogicalSessionId → List OpRef) :
    Option (OpRef × List OpRef) :=
  op.sessionId.bind fun S => if materializesFor ctx S op then some (ref, partialTxnOps S) else none

@[simp]
theorem buffersFor_setCapped (S : LogicalSessionId) (op : OplogEntry) :
    buffersFor ctx S { op with isForCappedCollection := true } = buffersFor ctx S op := rfl

@[simp]
theorem clearsFor_setCapped (S : LogicalSessionId) (op : OplogEntry) :
    clearsFor ctx S { op with isForCappedCollection := true } = clearsFor ctx S op := rfl

@[simp]
theorem txnRead_setCapped (ref : OpRef) (op : OplogEntry)
    (partialTxnOps : LogicalSessionId → List OpRef) :
    txnRead ctx ref { op with isForCappedCollection := true } partialTxnOps =
      txnRead ctx ref op partialTxnOps := rfl

theorem not_isBuffered_of_isTerminalApplyOps {op : OplogEntry} (terminal : op.isTerminalApplyOps) :
    isBuffered ctx op = false := by
  simp only [OplogEntry.isTerminalApplyOps, Bool.and_eq_true, Bool.not_eq_true'] at terminal
  simp [isBuffered, terminal.1.2, terminal.2]

theorem not_materializes_of_isBuffered {op : OplogEntry} (buffered : isBuffered ctx op) :
    materializes ctx op = false := by
  have commandType : op.getCommandType = .kApplyOps := by
    simp only [isBuffered, OplogEntry.isPartialTransaction, OplogEntry.shouldPrepare,
      Bool.or_eq_true, Bool.and_eq_true, decide_eq_true_eq] at buffered
    rcases buffered with ⟨applyOps, -⟩ | ⟨⟨applyOps, -⟩, -⟩ <;> exact applyOps
  have notTerminal : op.isTerminalApplyOps = false := by
    simp only [isBuffered, Bool.or_eq_true, Bool.and_eq_true] at buffered
    simp only [OplogEntry.isTerminalApplyOps, Bool.and_eq_false_iff]
    rcases buffered with partialEntry | ⟨prepare, -⟩ <;> simp [*]
  simp [materializes, notTerminal, OplogEntry.isPreparedCommit, commandType]

theorem not_materializes_of_abort {op : OplogEntry}
    (abort : op.getCommandType = .kAbortTransaction) : materializes ctx op = false := by
  simp [materializes, OplogEntry.isTerminalApplyOps, OplogEntry.isPreparedCommit, abort]

/-- An entry the loop routes itself is not materialized. -/
theorem not_materializes_of_routed {op : OplogEntry} (notTerminal : ¬op.isTerminalApplyOps)
    (notPrepared : ¬(op.isPreparedCommit ∧ ctx.options.mode = .kInitialSync)) :
    materializes ctx op = false := by
  simp_all [materializes]

/-- A terminal `applyOps` without a session and a transaction number is not
materialized. -/
theorem not_materializes_of_extracted {op : OplogEntry} (terminal : op.isTerminalApplyOps)
    (notBoth : ¬(op.sessionId.isSome ∧ op.txnNumber.isSome)) : materializes ctx op = false := by
  have notCommit : op.isPreparedCommit = false := by
    simp [OplogEntry.isPreparedCommit, op.getCommandType_of_isTerminalApplyOps terminal]
  simpa [materializes, terminal, notCommit] using notBoth

theorem buffersFor_sessionId {S : LogicalSessionId} {op : OplogEntry}
    (buffered : buffersFor ctx S op) : op.sessionId = some S := by
  simp only [buffersFor, Bool.and_eq_true, beq_iff_eq] at buffered
  exact buffered.2

theorem not_clearsFor_of_buffersFor {S S' : LogicalSessionId} {op : OplogEntry}
    (buffered : buffersFor ctx S op) : clearsFor ctx S' op = false := by
  simp only [buffersFor, Bool.and_eq_true] at buffered
  have notAbort : op.getCommandType ≠ .kAbortTransaction := fun abort => by
    simp [isBuffered, OplogEntry.isPartialTransaction, OplogEntry.shouldPrepare, abort] at buffered
  simp [clearsFor, abortsFor, materializesFor, notAbort,
    not_materializes_of_isBuffered ctx buffered.1.2]

theorem txnRead_of_not_materializes {op : OplogEntry} (notMaterialized : materializes ctx op = false)
    (ref : OpRef) (partialTxnOps : LogicalSessionId → List OpRef) :
    txnRead ctx ref op partialTxnOps = none := by
  cases op.sessionId <;> simp [txnRead, materializesFor, notMaterialized]

end Roles

/-! ### One step -/

section Step

variable (ctx : FillContext)

theorem abortPartialTxn_txnReads {op : OplogEntry} {st u : FillState}
    (aborted : abortPartialTxn op st = .ok u) : u.txnReads = st.txnReads := by
  by_cases abort : op.getCommandType = .kAbortTransaction
  · obtain ⟨_, _, rfl⟩ := (abortPartialTxn_eq aborted).1 abort; rfl
  · rw [(abortPartialTxn_eq aborted).2 abort]

/-- What one step does to a session's list. -/
theorem deriveStep_partialTxnOps {trackSessions : Bool} {st st' : FillState} {ref : OpRef}
    {op : OplogEntry} (found : st.store.get? ref = some op)
    (stepped : deriveStep ctx trackSessions st ref = .ok st') (S : LogicalSessionId) :
    st'.partialTxnOps S =
      if clearsFor ctx S op then []
      else if buffersFor ctx S op then st.partialTxnOps S ++ [ref]
      else st.partialTxnOps S := by
  rw [deriveStep_of_get? ctx found] at stepped
  split at stepped
  · rename_i below
    cases stepped
    simp [clearsFor, abortsFor, materializesFor, buffersFor, below]
  rename_i above
  set tracked := if trackSessions then trackSession ctx op st else st
  have trackedOps : tracked.partialTxnOps = st.partialTxnOps := by
    simp only [tracked]; split <;> simp
  rcases routeEntry_cases ctx stepped with
    ⟨buffered, bufferedOk⟩ | ⟨notBuffered, notTerminal, notPrepared, aborted, abortedOk, rfl⟩ |
      ⟨sessionId, sessionFound, materialized, rfl⟩ | ⟨terminal, notBoth, -, rfl⟩
  · obtain ⟨sessionId, sessionFound, rfl⟩ := bufferPartialTxn_eq bufferedOk
    have buffers : buffersFor ctx sessionId op := by simp [buffersFor, above, buffered, sessionFound]
    rw [not_clearsFor_of_buffersFor ctx buffers]
    by_cases same : sessionId = S
    · subst same; simp [buffers, trackedOps]
    · simp [buffersFor, sessionFound, same, Function.update_noteq (Ne.symm same), trackedOps]
  · have notMaterialized := not_materializes_of_routed ctx notTerminal notPrepared
    simp only [addToWriterVector_partialTxnOps, processIfCrud_partialTxnOps, buffersFor,
      notBuffered, Bool.and_false, Bool.false_and, Bool.false_eq_true, if_false]
    by_cases abort : op.getCommandType = .kAbortTransaction
    · obtain ⟨sessionId, sessionFound, rfl⟩ := (abortPartialTxn_eq abortedOk).1 abort
      by_cases same : sessionId = S
      · subst same; simp [clearsFor, abortsFor, above, abort, sessionFound]
      · simp [clearsFor, abortsFor, materializesFor, sessionFound, same,
          Function.update_noteq (Ne.symm same), trackedOps]
    · rw [(abortPartialTxn_eq abortedOk).2 abort]
      simp [clearsFor, abortsFor, materializesFor, abort, notMaterialized, trackedOps]
  · rw [materializeTxn_partialTxnOps]
    have notBuffered : isBuffered ctx op = false := by
      by_contra buffered
      simp [not_materializes_of_isBuffered ctx (Bool.not_eq_false _ ▸ buffered)] at materialized
    by_cases same : sessionId = S
    · subst same; simp [clearsFor, materializesFor, above, sessionFound, materialized]
    · simp [clearsFor, abortsFor, materializesFor, buffersFor, sessionFound, same, notBuffered,
        Function.update_noteq (Ne.symm same), trackedOps]
  · simp [clearsFor, abortsFor, materializesFor, buffersFor,
      not_materializes_of_extracted ctx terminal notBoth,
      op.getCommandType_of_isTerminalApplyOps terminal,
      not_isBuffered_of_isTerminalApplyOps ctx terminal, trackedOps]

/-- What one step adds to the record of `readTransactionOperationsFromOplogChain` calls. -/
theorem deriveStep_txnReads {trackSessions : Bool} {st st' : FillState} {ref : OpRef}
    {op : OplogEntry} (found : st.store.get? ref = some op)
    (stepped : deriveStep ctx trackSessions st ref = .ok st') :
    st'.txnReads = st.txnReads ++ (txnRead ctx ref op st.partialTxnOps).toList := by
  rw [deriveStep_of_get? ctx found] at stepped
  split at stepped
  · rename_i below
    cases stepped
    cases op.sessionId <;> simp [txnRead, materializesFor, below]
  rename_i above
  set tracked := if trackSessions then trackSession ctx op st else st
  have trackedOps : tracked.partialTxnOps = st.partialTxnOps := by
    simp only [tracked]; split <;> simp
  have trackedReads : tracked.txnReads = st.txnReads := by
    simp only [tracked]; split <;> simp
  rcases routeEntry_cases ctx stepped with
    ⟨buffered, bufferedOk⟩ | ⟨-, notTerminal, notPrepared, aborted, abortedOk, rfl⟩ |
      ⟨sessionId, sessionFound, materialized, rfl⟩ | ⟨terminal, notBoth, -, rfl⟩
  · obtain ⟨_, _, rfl⟩ := bufferPartialTxn_eq bufferedOk
    simp [txnRead_of_not_materializes ctx (not_materializes_of_isBuffered ctx buffered),
      trackedReads]
  · simp [txnRead_of_not_materializes ctx (not_materializes_of_routed ctx notTerminal notPrepared),
      abortPartialTxn_txnReads abortedOk, trackedReads]
  · simp [txnRead, materializesFor, above, sessionFound, materialized, trackedOps, trackedReads]
  · simp [txnRead_of_not_materializes ctx (not_materializes_of_extracted ctx terminal notBoth),
      trackedReads]

end Step

/-! ### The lists and calls, in the terms of the batch -/

section Expected

variable (ctx : FillContext) (batch : List OplogEntry)

/-- Some entry strictly between `j` and `i` clears session `S`'s list. -/
def clearedBetween (S : LogicalSessionId) (j i : Nat) : Bool :=
  (List.range i).any fun m => decide (j < m) && batch[m]?.any (clearsFor ctx S)

/-- The handles session `S`'s list holds when the loop reaches entry `i`: the entries
before `i` the loop buffers for `S` that no entry before `i` clears after them. -/
def expectedPartialTxnList (S : LogicalSessionId) (i : Nat) : List OpRef :=
  ((List.range i).filter fun j =>
    batch[j]?.any (buffersFor ctx S) && !clearedBetween ctx batch S j i).map .batch

/-- The calls of `readTransactionOperationsFromOplogChain` the loop makes over the first
`i` entries: at each materializing entry, the expected list of its session. -/
def expectedTxnReads (i : Nat) : List (OpRef × List OpRef) :=
  (List.range i).filterMap fun j =>
    batch[j]?.bind fun op => txnRead ctx (.batch j) op (expectedPartialTxnList ctx batch · j)

theorem clearedBetween_succ (S : LogicalSessionId) (j i : Nat) :
    clearedBetween ctx batch S j (i + 1) =
      (clearedBetween ctx batch S j i || (decide (j < i) && batch[i]?.any (clearsFor ctx S))) := by
  simp [clearedBetween, List.range_succ]

theorem clearedBetween_self (S : LogicalSessionId) (i : Nat) :
    clearedBetween ctx batch S i i = false := by
  simp only [clearedBetween, List.any_eq_false, List.mem_range, Bool.and_eq_true,
    decide_eq_true_eq, not_and]
  intro m below above
  omega

theorem clearedBetween_of_clearsFor {S : LogicalSessionId} {j m i : Nat} (after : j < m)
    (before : m < i) (clears : batch[m]?.any (clearsFor ctx S)) :
    clearedBetween ctx batch S j i = true := by
  simp only [clearedBetween, List.any_eq_true, List.mem_range, Bool.and_eq_true,
    decide_eq_true_eq]
  exact ⟨m, before, after, clears⟩

/-- The expected list follows the loop's update at entry `i`. -/
theorem expectedPartialTxnList_succ (S : LogicalSessionId) (i : Nat) :
    expectedPartialTxnList ctx batch S (i + 1) =
      if batch[i]?.any (clearsFor ctx S) then []
      else if batch[i]?.any (buffersFor ctx S) then expectedPartialTxnList ctx batch S i ++ [.batch i]
      else expectedPartialTxnList ctx batch S i := by
  unfold expectedPartialTxnList
  rw [List.range_succ, List.filter_append, List.filter_cons, List.filter_nil]
  simp only [clearedBetween_succ, clearedBetween_self, lt_irrefl, decide_False, Bool.false_and,
    Bool.or_false, Bool.not_false, Bool.and_true]
  by_cases clears : batch[i]?.any (clearsFor ctx S)
  · have notBuffered : batch[i]?.any (buffersFor ctx S) = false := by
      cases found : batch[i]? with
      | none => rfl
      | some op =>
          simp only [found, Option.any_some] at clears ⊢
          by_contra buffered
          simp [not_clearsFor_of_buffersFor ctx (Bool.not_eq_false _ ▸ buffered)] at clears
    rw [List.filter_eq_nil_iff.mpr fun j mem => by simp_all]
    simp [clears, notBuffered]
  · split <;> simp_all

theorem expectedTxnReads_succ (i : Nat) :
    expectedTxnReads ctx batch (i + 1) =
      expectedTxnReads ctx batch i ++
        (batch[i]?.bind fun op =>
          txnRead ctx (.batch i) op (expectedPartialTxnList ctx batch · i)).toList := by
  simp only [expectedTxnReads, List.range_succ, List.filterMap_append, List.filterMap_cons,
    List.filterMap_nil]
  split <;> rename_i read <;> simp [read]

theorem mem_expectedPartialTxnList {S : LogicalSessionId} {i : Nat} {x : OpRef} :
    x ∈ expectedPartialTxnList ctx batch S i ↔
      ∃ j < i, batch[j]?.any (buffersFor ctx S) ∧ clearedBetween ctx batch S j i = false ∧
        x = .batch j := by
  simp only [expectedPartialTxnList, List.mem_map, List.mem_filter, List.mem_range,
    Bool.and_eq_true, Bool.not_eq_true']
  constructor
  · rintro ⟨j, ⟨below, buffered, notCleared⟩, rfl⟩
    exact ⟨j, below, buffered, notCleared, rfl⟩
  · rintro ⟨j, below, buffered, notCleared, rfl⟩
    exact ⟨j, ⟨below, buffered, notCleared⟩, rfl⟩

theorem mem_expectedTxnReads {n : Nat} {call : OpRef × List OpRef} :
    call ∈ expectedTxnReads ctx batch n ↔
      ∃ i < n, ∃ op S, batch[i]? = some op ∧ op.sessionId = some S ∧ materializesFor ctx S op ∧
        call = (.batch i, expectedPartialTxnList ctx batch S i) := by
  simp only [expectedTxnReads, List.mem_filterMap, List.mem_range, Option.bind_eq_some, txnRead]
  constructor
  · rintro ⟨i, below, op, found, S, sessionFound, read⟩
    split at read
    · cases read; exact ⟨i, below, op, S, found, sessionFound, by assumption, rfl⟩
    · cases read
  · rintro ⟨i, below, op, S, found, sessionFound, materialized, rfl⟩
    exact ⟨i, below, op, found, S, sessionFound, by simp [materialized]⟩

/-- Two entries the loop buffers, for `S` and for `S'`, are entries of one session. -/
theorem buffersFor_same_session {S S' : LogicalSessionId} {j : Nat}
    (buffered : batch[j]?.any (buffersFor ctx S)) (buffered' : batch[j]?.any (buffersFor ctx S')) :
    S = S' := by
  cases entry : batch[j]? with
  | none => simp [entry] at buffered
  | some op =>
      simp only [entry, Option.any_some] at buffered buffered'
      exact Option.some_injective _
        ((buffersFor_sessionId ctx buffered).symm.trans (buffersFor_sessionId ctx buffered'))

/-- No handle is passed to two calls, nor twice to one. -/
theorem expectedTxnReads_nodup (n : Nat) :
    ((expectedTxnReads ctx batch n).map Prod.snd).flatten.Nodup := by
  rw [List.nodup_flatten]
  constructor
  · simp only [List.mem_map, Prod.exists, exists_and_right, exists_eq_right,
      forall_exists_index]
    intro L ref mem
    obtain ⟨i, -, -, S, -, -, -, same⟩ := (mem_expectedTxnReads ctx batch).mp mem
    cases same
    exact ((List.nodup_range i).filter _).map (fun _ _ same => OpRef.batch.inj same)
  · unfold expectedTxnReads
    rw [List.pairwise_map, List.pairwise_filterMap]
    refine (List.pairwise_lt_range n).imp fun {i i'} before => ?_
    simp only [Option.mem_def, Option.bind_eq_some, txnRead]
    rintro _ ⟨op, found, S, sessionFound, read⟩ _ ⟨op', found', S', sessionFound', read'⟩
    split at read <;> split at read' <;> cases read <;> cases read'
    rename_i materialized _
    refine List.disjoint_left.mpr fun {x} mem mem' => ?_
    obtain ⟨j, below, buffered, -, rfl⟩ := (mem_expectedPartialTxnList ctx batch).mp mem
    obtain ⟨j', -, buffered', notCleared, same⟩ := (mem_expectedPartialTxnList ctx batch).mp mem'
    cases same
    cases buffersFor_same_session ctx batch buffered buffered'
    have cleared : clearedBetween ctx batch S j i' = true :=
      clearedBetween_of_clearsFor ctx batch below before (by simp [found, clearsFor, materialized])
    simp [cleared] at notCleared

/-- An entry buffered before an `abortTransaction` of its session, with no materialization
of the session in between, is passed to no call. -/
theorem not_mem_expectedTxnReads_of_abort {S : LogicalSessionId} {j a : Nat}
    (buffered : batch[j]?.any (buffersFor ctx S)) (before : j < a)
    (aborted : batch[a]?.any (abortsFor ctx S))
    (notCommitted : ∀ m, j < m → m < a → batch[m]?.any (materializesFor ctx S) = false) (n : Nat) :
    ∀ call ∈ expectedTxnReads ctx batch n, OpRef.batch j ∉ call.2 := by
  intro call mem inCall
  obtain ⟨i, -, op, S', found, -, materialized, rfl⟩ := (mem_expectedTxnReads ctx batch).mp mem
  obtain ⟨j', below, buffered', notCleared, same⟩ :=
    (mem_expectedPartialTxnList ctx batch).mp inCall
  cases same
  cases buffersFor_same_session ctx batch buffered buffered'
  rcases Nat.lt_trichotomy i a with early | rfl | late
  · simpa [found, materialized] using notCommitted i below early
  · simp only [found, Option.any_some, abortsFor, Bool.and_eq_true, beq_iff_eq] at aborted
    simp [materializesFor, not_materializes_of_abort ctx aborted.2] at materialized
  · have clears : batch[a]?.any (clearsFor ctx S) := by
      cases entry : batch[a]? with
      | none => simp [entry] at aborted
      | some op => simp only [entry, Option.any_some] at aborted ⊢; simp [clearsFor, aborted]
    simp [clearedBetween_of_clearsFor ctx batch before late clears] at notCleared

end Expected

/-! ### Over the whole batch -/

/-- A command entry of a transaction, at opTime `(1, timestamp)`. -/
def txnEntry (command : CommandType) (partialTxn : Bool) (session : Nat) (txnNumber : TxnNumber)
    (timestamp : Nat) : OplogEntry where
  opType := .kCommand
  nss := ⟨"admin.$cmd"⟩
  uuid := none
  opTime := ⟨1, timestamp⟩
  sessionId := some ⟨session⟩
  txnNumber := some txnNumber
  prevWriteOpTimeInTransaction := none
  command := command
  partialTxn := partialTxn
  prepare := false
  idElement := ⟨"_id", ""⟩
  isForCappedCollection := false

/-- Two sessions interleaved: session 7 commits a transaction of two partial entries, and
session 8 aborts one. -/
def sampleTxnBatch : List OplogEntry :=
  [txnEntry .kApplyOps true 7 7 1, txnEntry .kApplyOps true 8 8 2, txnEntry .kApplyOps true 7 7 3,
    txnEntry .kApplyOps false 7 7 4, txnEntry .kAbortTransaction false 8 8 5]

section Run

variable (ctx : FillContext)

/-- Over the first `i` entries of the batch, the loop keeps each session's list equal to the
expected one and makes exactly the expected calls. -/
theorem deriveLoop_batch_txn {trackSessions : Bool} {st₀ st : FillState} {i : Nat}
    (ran : deriveLoop ctx trackSessions (batchRefs i) st₀ = .ok st)
    (fresh : ∀ S, st₀.partialTxnOps S = []) (inBatch : i ≤ st₀.store.ops.length) :
    (∀ S, st.partialTxnOps S = expectedPartialTxnList ctx st₀.store.ops S i) ∧
      st.txnReads = st₀.txnReads ++ expectedTxnReads ctx st₀.store.ops i := by
  induction i generalizing st with
  | zero =>
      cases ran
      exact ⟨fresh, by simp [expectedTxnReads]⟩
  | succ i ih =>
      obtain ⟨mid, prefixRan, stepped⟩ := deriveLoop_batchRefs_succ ctx ran
      obtain ⟨midOps, midReads⟩ := ih prefixRan (by omega)
      have entry : st₀.store.ops[i]? = some st₀.store.ops[i] :=
        List.getElem?_eq_getElem (by omega)
      have midLists : mid.partialTxnOps = (expectedPartialTxnList ctx st₀.store.ops · i) :=
        funext midOps
      rcases deriveLoop_extends ctx _ prefixRan (.batch i) _ entry with found | found <;>
      refine ⟨fun S => ?_, ?_⟩ <;>
      simp only [deriveStep_partialTxnOps ctx found stepped, deriveStep_txnReads ctx found stepped,
        midOps, midReads, midLists, expectedPartialTxnList_succ, expectedTxnReads_succ, entry,
        Option.any_some, Option.some_bind, clearsFor_setCapped, buffersFor_setCapped,
        txnRead_setCapped, List.append_assoc]

/-- Over a batch, `_deriveOpsAndFillWriterVectors` calls `readTransactionOperationsFromOplogChain`
exactly at the entries that materialize a transaction, each time with the handles of the
entries its session buffered since the session's last clearing entry, in batch order. No
handle is passed twice, and none that an abort of its session discards before a
materialization. -/
theorem deriveOps_txnReads_eq_expected {trackSessions : Bool} {st st' : FillState}
    (ran : deriveOpsAndFillWriterVectors ctx trackSessions (batchRefs st.store.ops.length) st =
      .ok st') :
    st'.txnReads = st.txnReads ++ expectedTxnReads ctx st.store.ops st.store.ops.length ∧
      ((expectedTxnReads ctx st.store.ops st.store.ops.length).map Prod.snd).flatten.Nodup ∧
      ∀ S j a, st.store.ops[j]?.any (buffersFor ctx S) → j < a →
        st.store.ops[a]?.any (abortsFor ctx S) →
        (∀ m, j < m → m < a → st.store.ops[m]?.any (materializesFor ctx S) = false) →
        ∀ call ∈ expectedTxnReads ctx st.store.ops st.store.ops.length, OpRef.batch j ∉ call.2 := by
  unfold deriveOpsAndFillWriterVectors at ran
  exact ⟨(deriveLoop_batch_txn ctx ran (fun _ => rfl) le_rfl).2, expectedTxnReads_nodup ctx _ _,
    fun _ _ _ buffered before aborted notCommitted =>
      not_mem_expectedTxnReads_of_abort ctx _ buffered before aborted notCommitted _⟩

/-- On the sample batch the pass reads one transaction, session 7's, from the two partial
entries before its terminal `applyOps`. -/
theorem deriveOps_txnReads_sampleTxnBatch :
    ∃ st', deriveOpsAndFillWriterVectors (sampleContext .kSecondary) true
        (batchRefs sampleTxnBatch.length) (FillState.init sampleTxnBatch sampleWriters []) =
          .ok st' ∧
      st'.txnReads = [(.batch 3, [.batch 0, .batch 2])] := by
  obtain ⟨st', ran⟩ : ∃ st', deriveOpsAndFillWriterVectors (sampleContext .kSecondary) true
      (batchRefs sampleTxnBatch.length) (FillState.init sampleTxnBatch sampleWriters []) =
        .ok st' := ⟨_, rfl⟩
  refine ⟨st', ran, ?_⟩
  rw [(@deriveOps_txnReads_eq_expected (sampleContext .kSecondary) true
    (FillState.init sampleTxnBatch sampleWriters []) st' ran).1]
  decide

end Run

end SyncTail
