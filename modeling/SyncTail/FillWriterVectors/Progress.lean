import SyncTail.FillWriterVectors.Partition
import SyncTail.FillWriterVectors.TxnGrammar

/-!
# The pass returns

The loop of `_deriveOpsAndFillWriterVectors` stops the process at three checks: it
dereferences `getSessionId()` of a buffered entry, of an `abortTransaction` and, in
initial sync, of a prepared commit; it checks that a terminal `applyOps` outside a
transaction carries no `prevWriteOpTimeInTransaction`; and it checks that a buffered
entry's session list holds entries of its transaction. The first two read the entry
only, and `passesEntryChecks` states them. `routeEntry_error` lists every way the loop
body fails, and `deriveLoop_error_of_passes` lifts it to a pass over handles into the
store the pass starts from: on entries that pass the checks, only the third check fails,
and only at a buffered entry.

`fillWriterVectors_returns` combines this with `TxnGrammar`, under which the third check
holds over the batch: on a batch in oplog order that follows the grammar and whose entries
pass the checks, with session updates that pass them and are not buffered, the call
returns.
-/

namespace SyncTail

section Checks

variable (ctx : FillContext)

/-- The checks of the loop body that read only the entry: a buffered entry, an
`abortTransaction` and, in initial sync, a prepared commit have a session id; a terminal
`applyOps` without both a session id and a transaction number has no
`prevWriteOpTimeInTransaction`. -/
def passesEntryChecks (op : OplogEntry) : Prop :=
  ((isBuffered ctx op ∨ op.getCommandType = .kAbortTransaction ∨
      (op.isPreparedCommit ∧ ctx.options.mode = .kInitialSync)) → op.sessionId.isSome) ∧
    (op.isTerminalApplyOps ∧ ¬(op.sessionId.isSome ∧ op.txnNumber.isSome) →
      op.prevWriteOpTimeInTransaction = none)

instance (op : OplogEntry) : Decidable (passesEntryChecks ctx op) :=
  inferInstanceAs (Decidable (_ ∧ _))

theorem bufferPartialTxn_error {ref : OpRef} {op : OplogEntry} {st : FillState}
    {e : InvariantFailure} (failed : bufferPartialTxn ref op st = .error e) :
    (e = .emptySessionId ∧ op.sessionId = none) ∨ e = .partialTxnNumber := by
  unfold bufferPartialTxn at failed
  split at failed
  · rename_i noSession
    cases failed
    exact .inl ⟨rfl, noSession⟩
  · dsimp only at failed
    split at failed
    · cases failed
    · split at failed
      · cases failed
      · cases failed
        exact .inr rfl

theorem abortPartialTxn_error {op : OplogEntry} {st : FillState} {e : InvariantFailure}
    (failed : abortPartialTxn op st = .error e) :
    e = .emptySessionId ∧ op.sessionId = none ∧ op.getCommandType = .kAbortTransaction := by
  unfold abortPartialTxn at failed
  split at failed
  · rename_i abort
    split at failed
    · cases failed
    · rename_i noSession
      cases failed
      exact ⟨rfl, noSession, abort⟩
  · cases failed

theorem finishEntry_error {ref : OpRef} {op : OplogEntry} {hash : UInt32} {st : FillState}
    {e : InvariantFailure} (failed : finishEntry ctx ref op hash st = .error e) :
    (e = .prevWriteOpTimeInTransaction ∧ op.isTerminalApplyOps ∧
        ¬(op.sessionId.isSome ∧ op.txnNumber.isSome) ∧ op.prevWriteOpTimeInTransaction.isSome) ∨
      (e = .emptySessionId ∧ op.sessionId = none ∧ op.isPreparedCommit ∧
        ctx.options.mode = .kInitialSync) := by
  unfold finishEntry at failed
  split at failed
  · rename_i terminal
    split at failed
    · cases failed
    · rename_i notBoth
      split at failed
      · rename_i prevWrite
        cases failed
        refine .inl ⟨rfl, terminal, fun ⟨sessionFound, txnFound⟩ => ?_, prevWrite⟩
        obtain ⟨sessionId, found⟩ := Option.isSome_iff_exists.mp sessionFound
        obtain ⟨txnNumber, txnFound⟩ := Option.isSome_iff_exists.mp txnFound
        exact notBoth sessionId txnNumber found txnFound
      · cases failed
  · split at failed
    · rename_i prepared
      split at failed
      · cases failed
      · rename_i noSession
        cases failed
        simp only [Bool.and_eq_true, beq_iff_eq] at prepared
        exact .inr ⟨rfl, noSession, prepared⟩
    · cases failed

/-- Every way the loop body fails: the check on a buffered entry's session list, an empty
session id where the body dereferences it, or a `prevWriteOpTimeInTransaction` on an
`applyOps` outside a transaction. -/
theorem routeEntry_error {ref : OpRef} {op : OplogEntry} {st : FillState} {e : InvariantFailure}
    (failed : routeEntry ctx ref op st = .error e) :
    (e = .partialTxnNumber ∧ isBuffered ctx op) ∨
      (e = .emptySessionId ∧ op.sessionId = none ∧
        (isBuffered ctx op ∨ op.getCommandType = .kAbortTransaction ∨
          (op.isPreparedCommit ∧ ctx.options.mode = .kInitialSync))) ∨
      (e = .prevWriteOpTimeInTransaction ∧ op.isTerminalApplyOps ∧
        ¬(op.sessionId.isSome ∧ op.txnNumber.isSome) ∧ op.prevWriteOpTimeInTransaction.isSome) := by
  unfold routeEntry at failed
  split at failed
  · rename_i buffered
    rcases bufferPartialTxn_error failed with ⟨rfl, noSession⟩ | rfl
    · exact .inr (.inl ⟨rfl, noSession, .inl buffered⟩)
    · exact .inl ⟨rfl, buffered⟩
  · cases aborted : abortPartialTxn op st with
    | error failure =>
        rw [aborted] at failed
        cases failed
        obtain ⟨rfl, noSession, abort⟩ := abortPartialTxn_error aborted
        exact .inr (.inl ⟨rfl, noSession, .inr (.inl abort)⟩)
    | ok u =>
        rw [aborted] at failed
        rcases finishEntry_error ctx failed with prevWrite | ⟨rfl, noSession, prepared⟩
        · exact .inr (.inr prevWrite)
        · exact .inr (.inl ⟨rfl, noSession, .inr (.inr prepared)⟩)

/-- On an entry that passes the checks, the loop body fails only at the check on a
buffered entry's session list. -/
theorem routeEntry_error_of_passes {ref : OpRef} {op : OplogEntry} {st : FillState}
    {e : InvariantFailure} (passes : passesEntryChecks ctx op)
    (failed : routeEntry ctx ref op st = .error e) : e = .partialTxnNumber ∧ isBuffered ctx op := by
  rcases routeEntry_error ctx failed with listCheck | ⟨-, noSession, dereferenced⟩ |
    ⟨-, terminal, notBoth, prevWrite⟩
  · exact listCheck
  · simpa [noSession] using passes.1 dereferenced
  · simp [passes.2 ⟨terminal, notBoth⟩] at prevWrite

/-- A step fails only at an entry of the store above the floor, where the loop body fails. -/
theorem deriveStep_error {trackSessions : Bool} {st : FillState} {ref : OpRef}
    {e : InvariantFailure} (failed : deriveStep ctx trackSessions st ref = .error e) :
    ∃ op, st.store.get? ref = some op ∧ ¬op.opTime ≤ ctx.options.beginApplyingOpTime ∧
      ∃ tracked, routeEntry ctx ref op tracked = .error e := by
  unfold deriveStep at failed
  split at failed
  · cases failed
  · rename_i op found
    split at failed
    · cases failed
    · rename_i above
      exact ⟨op, found, above, _, failed⟩

/-- A pass fails only at a step on one of its handles, from a state whose store extends
the one the pass starts from. -/
theorem deriveLoop_error {trackSessions : Bool} : ∀ {refs : List OpRef} {st : FillState}
    {e : InvariantFailure}, deriveLoop ctx trackSessions refs st = .error e →
      ∃ ref ∈ refs, ∃ mid : FillState, st.store.Extends mid.store ∧
        deriveStep ctx trackSessions mid ref = .error e
  | [], _, _, failed => by cases failed
  | ref :: rest, st, _, failed => by
      simp only [deriveLoop, bind, Except.bind] at failed
      split at failed
      · rename_i stepped
        cases failed
        exact ⟨ref, List.mem_cons_self ref rest, st, OpStore.Extends.refl _, stepped⟩
      · rename_i next stepped
        obtain ⟨failing, listed, mid, extended, failedAt⟩ := deriveLoop_error failed
        exact ⟨failing, List.mem_cons_of_mem ref listed, mid,
          (deriveStep_extends ctx stepped).trans extended, failedAt⟩

/-- A pass over handles to entries of its store that pass the checks fails only at the
check on a buffered entry's session list, at one of those entries. -/
theorem deriveLoop_error_of_passes {trackSessions : Bool} {refs : List OpRef} {st : FillState}
    {e : InvariantFailure}
    (passes : ∀ ref ∈ refs, ∃ op, st.store.get? ref = some op ∧
      (¬op.opTime ≤ ctx.options.beginApplyingOpTime → passesEntryChecks ctx op))
    (failed : deriveLoop ctx trackSessions refs st = .error e) :
    e = .partialTxnNumber ∧ ∃ ref ∈ refs, ∃ op, st.store.get? ref = some op ∧
      ¬op.opTime ≤ ctx.options.beginApplyingOpTime ∧ isBuffered ctx op := by
  obtain ⟨ref, listed, mid, extended, stepped⟩ := deriveLoop_error ctx failed
  obtain ⟨op, found, above, tracked, routed⟩ := deriveStep_error ctx stepped
  obtain ⟨op₀, found₀, checked⟩ := passes ref listed
  have sameEntry : op = op₀ ∨ op = { op₀ with isForCappedCollection := true } := by
    rcases extended ref op₀ found₀ with same | marked
    · exact .inl (Option.some.inj (found.symm.trans same))
    · exact .inr (Option.some.inj (found.symm.trans marked))
  have passesAt : passesEntryChecks ctx op := by
    rcases sameEntry with rfl | rfl <;> exact checked above
  obtain ⟨rfl, buffered⟩ := routeEntry_error_of_passes ctx passesAt routed
  refine ⟨rfl, ref, listed, op₀, found₀, ?_⟩
  rcases sameEntry with rfl | rfl <;> exact ⟨above, buffered⟩

end Checks

section Returns

variable (ctx : FillContext)

/-- On a batch in oplog order that follows the transaction grammar and whose entries above
the floor pass the checks, `fillWriterVectors` returns, when the session updates the
tracker flushes pass the checks and are not buffered. -/
theorem fillWriterVectors_returns {ops : List OplogEntry} {writerVectors : WriterVectors}
    {derivedOps : List (List OplogEntry)}
    (grammar : TxnGrammar ctx.options.mode ops)
    (ordered : ops.Pairwise fun a b => a.opTime ≤ b.opTime)
    (entries : ∀ op ∈ ops, ¬op.opTime ≤ ctx.options.beginApplyingOpTime → passesEntryChecks ctx op)
    (updates : ∀ sessionOps, ∀ op ∈ ctx.flushAll sessionOps,
      ¬op.opTime ≤ ctx.options.beginApplyingOpTime → passesEntryChecks ctx op ∧ isBuffered ctx op = false) :
    ∃ st', fillWriterVectors ctx (FillState.init ops writerVectors derivedOps) = .ok st' := by
  rw [fillWriterVectors_init]
  cases first : deriveOpsAndFillWriterVectors ctx true (batchRefs ops.length)
      (FillState.init ops writerVectors derivedOps) with
  | error e =>
      exfalso
      obtain ⟨rfl, -⟩ := deriveLoop_error_of_passes ctx (fun ref listed => by
        obtain ⟨i, inside, rfl⟩ := mem_batchRefs.mp listed
        exact ⟨ops[i], List.getElem?_eq_getElem inside, entries _ (List.getElem_mem inside)⟩) first
      exact @deriveLoop_batch_ne_partialTxnNumber ctx true
        { FillState.init ops writerVectors derivedOps with
          partialTxnOps := fun _ => [], collPropertiesCache := {} }
        grammar ordered (fun _ => rfl) ops.length le_rfl first
  | ok mid =>
      simp only [bind, Except.bind]
      split
      · exact ⟨mid, rfl⟩
      cases second : deriveOpsAndFillWriterVectors ctx false
          (derivedRefs mid.store.derivedOps.length (ctx.flushAll mid.sessionOps).length)
          { mid with
            store := mid.store.emplaceBack (ctx.flushAll mid.sessionOps)
            produced := mid.produced ++ [ctx.flushAll mid.sessionOps] } with
      | ok st' => exact ⟨st', rfl⟩
      | error e =>
          exfalso
          obtain ⟨-, ref, listed, op, found, above, buffered⟩ :=
            deriveLoop_error_of_passes ctx (fun ref listed => by
              obtain ⟨j, inside, rfl⟩ := mem_derivedRefs.mp listed
              refine ⟨_, (OpStore.get?_emplaceBack_new _ _ j).trans (List.getElem?_eq_getElem inside),
                fun above => (updates _ _ (List.getElem_mem inside) above).1⟩) second
          obtain ⟨j, -, rfl⟩ := mem_derivedRefs.mp listed
          rw [OpStore.get?_emplaceBack_new] at found
          simp [(updates _ op (List.getElem?_mem found) above).2] at buffered

/-- The sample batch, in which every transaction entry has a session id and the committing
`applyOps` a transaction number, passes the checks; its pass returns. -/
theorem fillWriterVectors_returns_sampleTxnBatch :
    TxnGrammar .kSecondary sampleTxnBatch ∧
      sampleTxnBatch.Pairwise (fun a b => a.opTime ≤ b.opTime) ∧
      (∀ op ∈ sampleTxnBatch, ¬op.opTime ≤ (sampleContext .kSecondary).options.beginApplyingOpTime →
        passesEntryChecks (sampleContext .kSecondary) op) ∧
      ∃ st', fillWriterVectors (sampleContext .kSecondary)
        (FillState.init sampleTxnBatch sampleWriters []) = .ok st' := by
  have entries : ∀ op ∈ sampleTxnBatch,
      ¬op.opTime ≤ (sampleContext .kSecondary).options.beginApplyingOpTime →
        passesEntryChecks (sampleContext .kSecondary) op := by decide
  exact ⟨txnGrammar_sampleTxnBatch, sampleTxnBatch_ordered, entries,
    fillWriterVectors_returns (sampleContext .kSecondary) txnGrammar_sampleTxnBatch
      sampleTxnBatch_ordered entries (fun _ op flushed => absurd flushed (List.not_mem_nil op))⟩

end Returns

end SyncTail
