import SyncTail.FillWriterVectors.Transactions

/-!
# One transaction per buffered list

Before it buffers a partial-transaction entry, the loop checks with an `invariant` that
the session's list is empty or holds entries of the entry's transaction. That holds when
each session's entries follow the oplog grammar (`TxnGrammar`): a transaction's partial
entries are followed by its terminal `applyOps` or its prepare entry, and a prepared
transaction by its commit or abort, before any entry of another transaction of the
session; and, outside initial sync, where prepare and commit entries are routed
themselves and clear nothing, no entry of another transaction of the session follows a
prepared commit in the batch. The batch is in oplog order, so its opTimes do not
decrease.

`cleared_of_otherTxn` is the heart of the argument: under the grammar, the list is
cleared between a buffered entry and any later buffered or materializing entry of the
same session with another transaction number. With `deriveLoop_batch_txn` it gives the
two halves of `partialTxnList_single_txn`.
-/

namespace SyncTail

/-- The oplog grammar of the transaction entries of a batch, for one application mode. -/
structure TxnGrammar (mode : OplogApplication.Mode) (batch : List OplogEntry) : Prop where
  /-- A transaction's partial entries carry its `txnNumber`. -/
  partial_txnNumber : ∀ (j : Nat) (p : OplogEntry), batch[j]? = some p → p.isPartialTransaction → p.txnNumber.isSome
  /-- A partial entry is followed by its transaction's terminal `applyOps` or prepare
  entry before any entry of another transaction of its session. -/
  partial_closed : ∀ (j k : Nat) (p q : OplogEntry), j < k → batch[j]? = some p → batch[k]? = some q →
    p.isPartialTransaction → q.sessionId = p.sessionId → q.txnNumber ≠ p.txnNumber →
    ∃ (m : Nat) (r : OplogEntry), j < m ∧ m < k ∧ batch[m]? = some r ∧ (r.isTerminalApplyOps ∨ r.shouldPrepare) ∧
      r.sessionId = p.sessionId ∧ r.txnNumber = p.txnNumber
  /-- A prepare entry is followed by its transaction's `commitTransaction` or
  `abortTransaction` before any entry of another transaction of its session. -/
  prepare_closed : ∀ (j k : Nat) (p q : OplogEntry), j < k → batch[j]? = some p → batch[k]? = some q →
    p.shouldPrepare → q.sessionId = p.sessionId → q.txnNumber ≠ p.txnNumber →
    ∃ (m : Nat) (r : OplogEntry), j < m ∧ m < k ∧ batch[m]? = some r ∧
      (r.isPreparedCommit ∨ r.getCommandType = .kAbortTransaction) ∧
      r.sessionId = p.sessionId ∧ r.txnNumber = p.txnNumber
  /-- Outside initial sync, no entry of another transaction of its session follows a
  prepared commit. -/
  commit_last : mode ≠ .kInitialSync → ∀ (c k : Nat) (r q : OplogEntry), c < k → batch[c]? = some r →
    batch[k]? = some q → r.isPreparedCommit → q.sessionId = r.sessionId →
    q.txnNumber ≠ r.txnNumber → False

section Grammar

variable (ctx : FillContext) {batch : List OplogEntry}
  (grammar : TxnGrammar ctx.options.mode batch)
  (ordered : batch.Pairwise fun a b => a.opTime ≤ b.opTime)

include ordered in
/-- In a batch in oplog order, an entry after an entry above the floor is above it too. -/
theorem above_of_after {j m : Nat} {p r : OplogEntry} (before : j < m) (found : batch[j]? = some p)
    (found' : batch[m]? = some r) (above : ¬p.opTime ≤ ctx.options.beginApplyingOpTime) :
    ¬r.opTime ≤ ctx.options.beginApplyingOpTime := fun below => by
  have inBatch : m < batch.length := (List.getElem?_eq_some_iff.mp found').1
  have pEq := (List.getElem?_eq_some_iff.mp found).2
  have rEq := (List.getElem?_eq_some_iff.mp found').2
  have ordered' := List.pairwise_iff_getElem.mp ordered j m (by omega) inBatch before
  rw [pEq, rEq] at ordered'
  exact above (OpTime.le_trans ordered' below)

include ordered in
/-- An abort or a materialization of session `S` after an entry above the floor clears
`S`'s list. -/
theorem cleared_of_end {S : LogicalSessionId} {j m i : Nat} {p r : OplogEntry} (after : j < m)
    (before : m < i) (found : batch[j]? = some p) (found' : batch[m]? = some r)
    (above : ¬p.opTime ≤ ctx.options.beginApplyingOpTime) (sessionFound : r.sessionId = some S)
    (ends : r.getCommandType = .kAbortTransaction ∨ materializes ctx r) :
    clearedBetween ctx batch S j i = true := by
  have rAbove := above_of_after ctx ordered after found found' above
  refine clearedBetween_of_clearsFor ctx batch after before ?_
  rcases ends with abort | materialized <;>
    simp [found', clearsFor, abortsFor, materializesFor, rAbove, sessionFound, *]

include grammar ordered in
/-- A prepared transaction of `S` open at `m` has ended, clearing `S`'s list, before an
entry of another transaction of `S`. -/
theorem cleared_of_prepare {S : LogicalSessionId} {j m i : Nat} {p r q : OplogEntry}
    (after : j ≤ m) (before : m < i) (found : batch[j]? = some p) (prepareFound : batch[m]? = some r)
    (found' : batch[i]? = some q) (above : ¬p.opTime ≤ ctx.options.beginApplyingOpTime)
    (prepare : r.shouldPrepare) (sessionFound : r.sessionId = some S)
    (sameSession : q.sessionId = some S) (other : q.txnNumber ≠ r.txnNumber) :
    clearedBetween ctx batch S j i = true := by
  obtain ⟨m', r', after', before', endFound, ends, endSession, endTxn⟩ :=
    grammar.prepare_closed m i r q before prepareFound found' prepare
      (sameSession.trans sessionFound.symm) other
  rw [sessionFound] at endSession
  by_cases initialSync : ctx.options.mode = .kInitialSync
  · refine cleared_of_end ctx ordered (by omega) before' found endFound above endSession ?_
    rcases ends with commit | abort
    · exact .inr (by simp [materializes, commit, initialSync])
    · exact .inl abort
  · rcases ends with commit | abort
    · exact (grammar.commit_last initialSync m' i r' q before' endFound found' commit
        (sameSession.trans endSession.symm) (endTxn ▸ other)).elim
    · exact cleared_of_end ctx ordered (by omega) before' found endFound above endSession (.inl abort)

include grammar ordered in
/-- Between an entry buffered for `S` and a later entry of `S` with another transaction
number, some entry clears `S`'s list. -/
theorem cleared_of_otherTxn {S : LogicalSessionId} {j i : Nat} {p q : OplogEntry} (before : j < i)
    (found : batch[j]? = some p) (found' : batch[i]? = some q) (buffered : buffersFor ctx S p)
    (sameSession : q.sessionId = some S) (other : q.txnNumber ≠ p.txnNumber) :
    clearedBetween ctx batch S j i = true := by
  simp only [buffersFor, isBuffered, Bool.and_eq_true, Bool.not_eq_true', decide_eq_false_iff_not,
    Bool.or_eq_true, beq_iff_eq] at buffered
  obtain ⟨⟨above, partialOrPrepare⟩, sessionFound⟩ := buffered
  rcases partialOrPrepare with partialEntry | ⟨prepare, -⟩
  · obtain ⟨m, r, after, before', closeFound, closes, closeSession, closeTxn⟩ :=
      grammar.partial_closed j i p q before found found' partialEntry
        (sameSession.trans sessionFound.symm) other
    rw [sessionFound] at closeSession
    rcases closes with terminal | prepare
    · refine cleared_of_end ctx ordered after before' found closeFound above closeSession (.inr ?_)
      have txnFound := closeTxn ▸ grammar.partial_txnNumber j p found partialEntry
      simp [materializes, terminal, closeSession, txnFound]
    · exact cleared_of_prepare ctx grammar ordered after.le before' found closeFound found' above
        prepare closeSession sameSession (closeTxn ▸ other)
  · exact cleared_of_prepare ctx grammar ordered le_rfl before found found found' above prepare
      sessionFound sameSession other

include grammar ordered in
/-- Every entry of session `S`'s expected list at entry `i` of `S` belongs to the
transaction of entry `i`. -/
theorem expectedPartialTxnList_sameTxn {S : LogicalSessionId} {i : Nat} {q : OplogEntry}
    (found' : batch[i]? = some q) (sameSession : q.sessionId = some S) {x : OpRef}
    (mem : x ∈ expectedPartialTxnList ctx batch S i) :
    ∃ j p, x = .batch j ∧ batch[j]? = some p ∧ p.sessionId = some S ∧ p.txnNumber = q.txnNumber := by
  obtain ⟨j, before, buffered, notCleared, rfl⟩ := (mem_expectedPartialTxnList ctx batch).mp mem
  cases found : batch[j]? with
  | none => simp [found] at buffered
  | some p =>
      simp only [found, Option.any_some] at buffered
      refine ⟨j, p, rfl, found, buffersFor_sessionId ctx buffered, ?_⟩
      by_contra other
      have cleared := cleared_of_otherTxn ctx grammar ordered before found found' buffered
        sameSession (Ne.symm other)
      simp [cleared] at notCleared

end Grammar

/-! ### The loop never fails its `invariant` -/

section Failure

variable (ctx : FillContext)

theorem abortPartialTxn_ne_partialTxnNumber (op : OplogEntry) (st : FillState) :
    abortPartialTxn op st ≠ .error .partialTxnNumber := by
  unfold abortPartialTxn
  split
  · split <;> simp
  · simp

theorem finishEntry_ne_partialTxnNumber (ref : OpRef) (op : OplogEntry) (hash : UInt32)
    (st : FillState) : finishEntry ctx ref op hash st ≠ .error .partialTxnNumber := by
  unfold finishEntry
  split
  · split
    · simp
    · split <;> simp
  · split
    · split <;> simp
    · simp

/-- The loop body fails its `invariant` only on a buffered entry whose session's list
starts with an entry of another transaction number. -/
theorem routeEntry_error_partialTxnNumber {ref : OpRef} {op : OplogEntry} {st : FillState}
    (failed : routeEntry ctx ref op st = .error .partialTxnNumber) :
    isBuffered ctx op ∧ ∃ S front rest, op.sessionId = some S ∧
      st.partialTxnOps S = front :: rest ∧
      (st.store.get? front).map (·.txnNumber) ≠ some op.txnNumber := by
  unfold routeEntry at failed
  split at failed
  · rename_i buffered
    refine ⟨buffered, ?_⟩
    unfold bufferPartialTxn at failed
    split at failed
    · cases failed
    · rename_i S sessionFound
      dsimp only at failed
      split at failed
      · cases failed
      · rename_i front rest listEq
        split at failed
        · cases failed
        · rename_i differs
          exact ⟨S, front, rest, sessionFound, listEq, differs⟩
  · exfalso
    cases aborted : abortPartialTxn op st with
    | error failure =>
        rw [aborted] at failed
        cases failed
        exact abortPartialTxn_ne_partialTxnNumber op st aborted
    | ok u =>
        rw [aborted] at failed
        exact finishEntry_ne_partialTxnNumber ctx _ _ _ _ failed

theorem deriveStep_error_partialTxnNumber {trackSessions : Bool} {st : FillState} {ref : OpRef}
    (failed : deriveStep ctx trackSessions st ref = .error .partialTxnNumber) :
    ∃ op S front rest store, st.store.get? ref = some op ∧ buffersFor ctx S op ∧
      st.partialTxnOps S = front :: rest ∧ st.store.Extends store ∧
      (store.get? front).map (·.txnNumber) ≠ some op.txnNumber := by
  unfold deriveStep at failed
  split at failed
  · cases failed
  rename_i op found
  split at failed
  · cases failed
  rename_i above
  obtain ⟨buffered, S, front, rest, sessionFound, listEq, differs⟩ :=
    routeEntry_error_partialTxnNumber ctx failed
  refine ⟨op, S, front, rest, _, found, by simp [buffersFor, above, buffered, sessionFound],
    ?_, ?_, differs⟩
  · split at listEq <;> simpa using listEq
  · split
    · exact trackSession_extends ctx op st
    · exact OpStore.Extends.refl st.store

end Failure

section Run

variable (ctx : FillContext)

/-- Under the grammar, no prefix of the pass over the batch fails the `invariant`. -/
theorem deriveLoop_batch_ne_partialTxnNumber {trackSessions : Bool} {st₀ : FillState}
    (grammar : TxnGrammar ctx.options.mode st₀.store.ops)
    (ordered : st₀.store.ops.Pairwise fun a b => a.opTime ≤ b.opTime)
    (fresh : ∀ S, st₀.partialTxnOps S = []) {i : Nat} (inBatch : i ≤ st₀.store.ops.length) :
    deriveLoop ctx trackSessions (batchRefs i) st₀ ≠ .error .partialTxnNumber := by
  induction i with
  | zero => simp [batchRefs, deriveLoop]
  | succ i ih =>
      rw [batchRefs_succ, deriveLoop_snoc]
      cases prefixRan : deriveLoop ctx trackSessions (batchRefs i) st₀ with
      | error failure =>
          rw [prefixRan] at ih
          exact ih (by omega)
      | ok mid =>
          intro failed
          obtain ⟨op, S, front, rest, store, found, buffered, listEq, extended, differs⟩ :=
            deriveStep_error_partialTxnNumber ctx failed
          have entry : st₀.store.ops[i]? = some st₀.store.ops[i] :=
            List.getElem?_eq_getElem (by omega)
          have midExtends := deriveLoop_extends ctx _ prefixRan
          have sameEntry : buffersFor ctx S st₀.store.ops[i] ∧ op.txnNumber = st₀.store.ops[i].txnNumber := by
            rcases midExtends (.batch i) _ entry with marked | marked <;>
              rw [marked] at found <;> cases found <;> simpa using buffered
          have frontMem : front ∈ expectedPartialTxnList ctx st₀.store.ops S i := by
            rw [← (deriveLoop_batch_txn ctx prefixRan fresh (by omega)).1 S, listEq]
            exact List.mem_cons_self front rest
          obtain ⟨j, p, rfl, frontFound, -, sameTxn⟩ :=
            expectedPartialTxnList_sameTxn ctx grammar ordered entry
              (buffersFor_sessionId ctx sameEntry.1) frontMem
          apply differs
          rw [(midExtends.trans extended).map_eq
            (show st₀.store.get? (.batch j) = some p from frontFound) (·.txnNumber) (fun _ => rfl),
            sameTxn, sameEntry.2]

/-- Under the oplog grammar, `_deriveOpsAndFillWriterVectors` never fails its `invariant` that
a session's buffered list holds one transaction, and every list it passes to
`readTransactionOperationsFromOplogChain` holds entries of the session and transaction of
the entry being committed. -/
theorem partialTxnList_single_txn {trackSessions : Bool} {st : FillState}
    (grammar : TxnGrammar ctx.options.mode st.store.ops)
    (ordered : st.store.ops.Pairwise fun a b => a.opTime ≤ b.opTime) :
    deriveOpsAndFillWriterVectors ctx trackSessions (batchRefs st.store.ops.length) st ≠
        .error .partialTxnNumber ∧
      ∀ st', deriveOpsAndFillWriterVectors ctx trackSessions (batchRefs st.store.ops.length) st =
          .ok st' →
        ∃ calls, st'.txnReads = st.txnReads ++ calls ∧
          ∀ call ∈ calls, ∀ x ∈ call.2, ∃ committed entry, st'.store.get? call.1 = some committed ∧
            st'.store.get? x = some entry ∧ entry.sessionId = committed.sessionId ∧
            entry.txnNumber = committed.txnNumber := by
  unfold deriveOpsAndFillWriterVectors
  refine ⟨deriveLoop_batch_ne_partialTxnNumber ctx (by exact grammar) (by exact ordered)
      (fun _ => rfl) le_rfl,
    fun st' ran => ⟨_, (deriveLoop_batch_txn ctx ran (fun _ => rfl) le_rfl).2, ?_⟩⟩
  intro call mem x inCall
  obtain ⟨i, -, q, S, found', sessionFound, -, rfl⟩ := (mem_expectedTxnReads ctx _).mp mem
  obtain ⟨j, p, rfl, found, pSession, sameTxn⟩ :=
    expectedPartialTxnList_sameTxn ctx grammar ordered found' sessionFound inCall
  have extended := deriveLoop_extends ctx _ ran
  have committedKeeps := extended.map_eq (show st.store.get? (.batch i) = some q from found')
    (fun op => (op.sessionId, op.txnNumber)) (fun _ => rfl)
  have entryKeeps := extended.map_eq (show st.store.get? (.batch j) = some p from found)
    (fun op => (op.sessionId, op.txnNumber)) (fun _ => rfl)
  obtain ⟨committed, committedFound, committedEq⟩ := Option.map_eq_some'.mp committedKeeps
  obtain ⟨entry, entryFound, entryEq⟩ := Option.map_eq_some'.mp entryKeeps
  simp only [Prod.mk.injEq] at committedEq entryEq
  exact ⟨committed, entry, committedFound, entryFound, by rw [entryEq.1, committedEq.1, pSession,
    sessionFound], by rw [entryEq.2, committedEq.2, sameTxn]⟩

/-- The sample batch follows the grammar: each of its sessions has one transaction. -/
theorem txnGrammar_sampleTxnBatch : TxnGrammar .kSecondary sampleTxnBatch := by
  have numbered : ∀ e ∈ sampleTxnBatch, e.txnNumber = e.sessionId.map fun s => (s.id : Int) := by
    decide
  have oneTxn : ∀ {j k : Nat} {p q : OplogEntry}, sampleTxnBatch[j]? = some p →
      sampleTxnBatch[k]? = some q → q.sessionId = p.sessionId → q.txnNumber = p.txnNumber :=
    fun found found' sameSession => by
      rw [numbered _ (List.getElem?_mem found), numbered _ (List.getElem?_mem found'), sameSession]
  exact ⟨fun _ p found _ =>
      (by decide : ∀ e ∈ sampleTxnBatch, e.txnNumber.isSome) p (List.getElem?_mem found),
    fun _ _ _ _ _ found found' _ sameSession other => (other (oneTxn found found' sameSession)).elim,
    fun _ _ _ _ _ found found' _ sameSession other => (other (oneTxn found found' sameSession)).elim,
    fun _ _ _ _ _ _ found found' _ sameSession other => other (oneTxn found found' sameSession)⟩

theorem sampleTxnBatch_ordered : sampleTxnBatch.Pairwise (fun a b => a.opTime ≤ b.opTime) := by
  decide

theorem partialTxnList_single_txn_sampleTxnBatch :
    TxnGrammar .kSecondary sampleTxnBatch ∧
      sampleTxnBatch.Pairwise (fun a b => a.opTime ≤ b.opTime) ∧
      deriveOpsAndFillWriterVectors (sampleContext .kSecondary) true
        (batchRefs sampleTxnBatch.length) (FillState.init sampleTxnBatch sampleWriters []) ≠
          .error .partialTxnNumber :=
  ⟨txnGrammar_sampleTxnBatch, sampleTxnBatch_ordered,
    (@partialTxnList_single_txn (sampleContext .kSecondary) true
      (FillState.init sampleTxnBatch sampleWriters []) txnGrammar_sampleTxnBatch
      sampleTxnBatch_ordered).1⟩

end Run

end SyncTail
