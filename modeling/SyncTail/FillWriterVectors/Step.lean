import SyncTail.FillWriterVectors

/-!
# One step of the fill pass

What each piece of the loop body changes. Every later invariant is derived from
`routeEntry_cases`, which lists everything the loop body can do after the session-update
tracker, and from the frame lemmas of the pieces.
-/

namespace SyncTail

namespace OpStore

theorem get?_modify (store : OpStore) (f : OplogEntry → OplogEntry) (ref x : OpRef) :
    (store.modify f ref).get? x = if x = ref then (store.get? x).map f else store.get? x := by
  cases ref with
  | batch i =>
      cases x with
      | batch j => by_cases same : i = j <;> simp [modify, get?, List.getElem?_modify, same, Ne.symm]
      | derived k j => simp [modify, get?]
  | derived k i =>
      cases x with
      | batch j => simp [modify, get?]
      | derived k' j =>
          by_cases sameVector : k = k'
          · subst sameVector
            cases found : store.derivedOps[k]? <;>
              by_cases same : i = j <;> simp [modify, get?, List.getElem?_modify, found, same, Ne.symm]
          · simp [modify, get?, List.getElem?_modify, sameVector, Ne.symm sameVector]

theorem get?_emplaceBack_of_isSome {store : OpStore} {x : OpRef} (found : (store.get? x).isSome)
    (ops : List OplogEntry) : (store.emplaceBack ops).get? x = store.get? x := by
  cases x with
  | batch i => rfl
  | derived k j =>
      have inRange : k < store.derivedOps.length := by
        by_contra outside
        simp [get?, List.getElem?_eq_none (Nat.le_of_not_lt outside)] at found
      simp [emplaceBack, get?, List.getElem?_append_left inRange]

theorem get?_emplaceBack_new (store : OpStore) (ops : List OplogEntry) (index : Nat) :
    (store.emplaceBack ops).get? (.derived store.derivedOps.length index) = ops[index]? := by
  simp [emplaceBack, get?]

@[simp]
theorem modify_ops_length (store : OpStore) (f : OplogEntry → OplogEntry) (ref : OpRef) :
    (store.modify f ref).ops.length = store.ops.length := by
  cases ref <;> simp [modify]

@[simp]
theorem modify_derivedOps_length (store : OpStore) (f : OplogEntry → OplogEntry) (ref : OpRef) :
    (store.modify f ref).derivedOps.length = store.derivedOps.length := by
  cases ref <;> simp [modify]

@[simp]
theorem emplaceBack_ops (store : OpStore) (ops : List OplogEntry) :
    (store.emplaceBack ops).ops = store.ops := rfl

@[simp]
theorem emplaceBack_derivedOps (store : OpStore) (ops : List OplogEntry) :
    (store.emplaceBack ops).derivedOps = store.derivedOps ++ [ops] := rfl

end OpStore

section Frame

variable (ctx : FillContext)

@[simp]
theorem addToWriterVector_store (ref : OpRef) (hash : UInt32) (st : FillState) :
    (addToWriterVector ref hash st).store = st.store := rfl

@[simp]
theorem addToWriterVector_partialTxnOps (ref : OpRef) (hash : UInt32) (st : FillState) :
    (addToWriterVector ref hash st).partialTxnOps = st.partialTxnOps := rfl

@[simp]
theorem addToWriterVector_collPropertiesCache (ref : OpRef) (hash : UInt32) (st : FillState) :
    (addToWriterVector ref hash st).collPropertiesCache = st.collPropertiesCache := rfl

@[simp]
theorem addToWriterVector_sessionOps (ref : OpRef) (hash : UInt32) (st : FillState) :
    (addToWriterVector ref hash st).sessionOps = st.sessionOps := rfl

@[simp]
theorem addToWriterVector_routed (ref : OpRef) (hash : UInt32) (st : FillState) :
    (addToWriterVector ref hash st).routed = st.routed ++ [ref] := rfl

@[simp]
theorem addToWriterVector_produced (ref : OpRef) (hash : UInt32) (st : FillState) :
    (addToWriterVector ref hash st).produced = st.produced := rfl

@[simp]
theorem processCrudOp_partialTxnOps (ref : OpRef) (op : OplogEntry) (hash : UInt32)
    (st : FillState) : (processCrudOp ctx ref op hash st).2.partialTxnOps = st.partialTxnOps := rfl

@[simp]
theorem processCrudOp_sessionOps (ref : OpRef) (op : OplogEntry) (hash : UInt32)
    (st : FillState) : (processCrudOp ctx ref op hash st).2.sessionOps = st.sessionOps := rfl

@[simp]
theorem processCrudOp_routed (ref : OpRef) (op : OplogEntry) (hash : UInt32) (st : FillState) :
    (processCrudOp ctx ref op hash st).2.routed = st.routed := rfl

@[simp]
theorem processCrudOp_produced (ref : OpRef) (op : OplogEntry) (hash : UInt32)
    (st : FillState) : (processCrudOp ctx ref op hash st).2.produced = st.produced := rfl

@[simp]
theorem processCrudOp_writerVectors (ref : OpRef) (op : OplogEntry) (hash : UInt32)
    (st : FillState) :
    (processCrudOp ctx ref op hash st).2.writerVectors = st.writerVectors := rfl

@[simp]
theorem addToWriterVector_txnReads (ref : OpRef) (hash : UInt32) (st : FillState) :
    (addToWriterVector ref hash st).txnReads = st.txnReads := rfl

@[simp]
theorem processIfCrud_partialTxnOps (ref : OpRef) (op : OplogEntry) (st : FillState) :
    (processIfCrud ctx ref op st).2.partialTxnOps = st.partialTxnOps := by
  unfold processIfCrud; split <;> rfl

@[simp]
theorem processIfCrud_txnReads (ref : OpRef) (op : OplogEntry) (st : FillState) :
    (processIfCrud ctx ref op st).2.txnReads = st.txnReads := by
  unfold processIfCrud; split <;> rfl

@[simp]
theorem processIfCrud_routed (ref : OpRef) (op : OplogEntry) (st : FillState) :
    (processIfCrud ctx ref op st).2.routed = st.routed := by
  unfold processIfCrud; split <;> rfl

@[simp]
theorem processIfCrud_writerVectors (ref : OpRef) (op : OplogEntry) (st : FillState) :
    (processIfCrud ctx ref op st).2.writerVectors = st.writerVectors := by
  unfold processIfCrud; split <;> rfl

@[simp]
theorem processIfCrud_produced (ref : OpRef) (op : OplogEntry) (st : FillState) :
    (processIfCrud ctx ref op st).2.produced = st.produced := by
  unfold processIfCrud; split <;> rfl

/-- `processIfCrud` changes the store only by marking `ref`'s op. -/
theorem processIfCrud_store (ref : OpRef) (op : OplogEntry) (st : FillState) :
    (processIfCrud ctx ref op st).2.store = st.store ∨
      (processIfCrud ctx ref op st).2.store =
        st.store.modify (fun op => { op with isForCappedCollection := true }) ref := by
  unfold processIfCrud processCrudOp
  split
  · dsimp only
    split
    · exact .inr rfl
    · exact .inl rfl
  · exact .inl rfl

/-- `addDerivedOps` changes only the store, the writer vectors, the cache and the record of
routed handles. -/
theorem addDerivedOps_frame (vector index : Nat) (ops : List OplogEntry) (st : FillState) :
    ∃ store writerVectors cache routed, addDerivedOps ctx vector index ops st =
      { st with store := store, writerVectors := writerVectors, collPropertiesCache := cache,
                routed := routed } := by
  induction ops generalizing index st with
  | nil => exact ⟨_, _, _, _, rfl⟩
  | cons op rest ih =>
      obtain ⟨store, writerVectors, cache, routed, eq⟩ := ih (index + 1)
        (addToWriterVector (.derived vector index) (processIfCrud ctx (.derived vector index) op st).1
          (processIfCrud ctx (.derived vector index) op st).2)
      refine ⟨store, writerVectors, cache, routed, ?_⟩
      rw [addDerivedOps, eq]
      unfold processIfCrud; split <;> rfl

@[simp]
theorem addDerivedOps_partialTxnOps (vector index : Nat) (ops : List OplogEntry)
    (st : FillState) : (addDerivedOps ctx vector index ops st).partialTxnOps = st.partialTxnOps := by
  obtain ⟨_, _, _, _, eq⟩ := addDerivedOps_frame ctx vector index ops st
  rw [eq]

@[simp]
theorem addDerivedOps_sessionOps (vector index : Nat) (ops : List OplogEntry)
    (st : FillState) : (addDerivedOps ctx vector index ops st).sessionOps = st.sessionOps := by
  obtain ⟨_, _, _, _, eq⟩ := addDerivedOps_frame ctx vector index ops st
  rw [eq]

@[simp]
theorem addDerivedOps_produced (vector index : Nat) (ops : List OplogEntry)
    (st : FillState) : (addDerivedOps ctx vector index ops st).produced = st.produced := by
  obtain ⟨_, _, _, _, eq⟩ := addDerivedOps_frame ctx vector index ops st
  rw [eq]

@[simp]
theorem addDerivedOps_txnReads (vector index : Nat) (ops : List OplogEntry)
    (st : FillState) : (addDerivedOps ctx vector index ops st).txnReads = st.txnReads := by
  obtain ⟨_, _, _, _, eq⟩ := addDerivedOps_frame ctx vector index ops st
  rw [eq]

@[simp]
theorem emplaceDerivedOps_partialTxnOps (ops : List OplogEntry) (st : FillState) :
    (emplaceDerivedOps ctx ops st).partialTxnOps = st.partialTxnOps := by
  simp [emplaceDerivedOps]

@[simp]
theorem emplaceDerivedOps_txnReads (ops : List OplogEntry) (st : FillState) :
    (emplaceDerivedOps ctx ops st).txnReads = st.txnReads := by
  simp [emplaceDerivedOps]

@[simp]
theorem trackSession_partialTxnOps (op : OplogEntry) (st : FillState) :
    (trackSession ctx op st).partialTxnOps = st.partialTxnOps := by
  dsimp only [trackSession]; split <;> simp

@[simp]
theorem trackSession_txnReads (op : OplogEntry) (st : FillState) :
    (trackSession ctx op st).txnReads = st.txnReads := by
  dsimp only [trackSession]; split <;> simp

@[simp]
theorem clearPartialTxn_partialTxnOps (sessionId : LogicalSessionId) (st : FillState) :
    (clearPartialTxn sessionId st).partialTxnOps =
      Function.update st.partialTxnOps sessionId [] := rfl

@[simp]
theorem clearPartialTxn_txnReads (sessionId : LogicalSessionId) (st : FillState) :
    (clearPartialTxn sessionId st).txnReads = st.txnReads := rfl

@[simp]
theorem materializeTxn_partialTxnOps (ref : OpRef) (op : OplogEntry)
    (sessionId : LogicalSessionId) (st : FillState) :
    (materializeTxn ctx ref op sessionId st).partialTxnOps =
      Function.update st.partialTxnOps sessionId [] := by
  simp [materializeTxn]

@[simp]
theorem materializeTxn_txnReads (ref : OpRef) (op : OplogEntry)
    (sessionId : LogicalSessionId) (st : FillState) :
    (materializeTxn ctx ref op sessionId st).txnReads =
      st.txnReads ++ [(ref, st.partialTxnOps sessionId)] := by
  simp [materializeTxn]

end Frame

section Cases

variable (ctx : FillContext)

/-- The entries at which the loop materializes a transaction: a terminal `applyOps` with
a session and a transaction number, and a prepared commit in initial sync. -/
def materializes (op : OplogEntry) : Bool :=
  (op.isTerminalApplyOps && op.sessionId.isSome && op.txnNumber.isSome) ||
    (op.isPreparedCommit && ctx.options.mode == .kInitialSync)

/-- The entries the loop routes themselves: above the floor, neither buffered nor replaced
by the ops they carry. -/
def routesItself (op : OplogEntry) : Bool :=
  !decide (op.opTime ≤ ctx.options.beginApplyingOpTime) && !isBuffered ctx op &&
    !op.isTerminalApplyOps && !(op.isPreparedCommit && ctx.options.mode == .kInitialSync)

theorem abortPartialTxn_of_ne {op : OplogEntry} (notAbort : op.getCommandType ≠ .kAbortTransaction)
    (st : FillState) : abortPartialTxn op st = .ok st := by
  simp [abortPartialTxn, notAbort]

theorem processIfCrud_of_not_isCrudOpType {op : OplogEntry} (notCrud : ¬op.isCrudOpType)
    (ref : OpRef) (st : FillState) : processIfCrud ctx ref op st = (nsHash ctx op, st) := by
  simp [processIfCrud, notCrud]

/-- Everything the loop body can do after the session-update tracker. -/
theorem routeEntry_cases {ref : OpRef} {op : OplogEntry} {st st' : FillState}
    (stepped : routeEntry ctx ref op st = .ok st') :
    (isBuffered ctx op ∧ bufferPartialTxn ref op st = .ok st') ∨
    (¬isBuffered ctx op ∧ ¬op.isTerminalApplyOps ∧
      ¬(op.isPreparedCommit ∧ ctx.options.mode = .kInitialSync) ∧
      ∃ aborted, abortPartialTxn op st = .ok aborted ∧
        st' = addToWriterVector ref (processIfCrud ctx ref op aborted).1
          (processIfCrud ctx ref op aborted).2) ∨
    (∃ sessionId, op.sessionId = some sessionId ∧ materializes ctx op ∧
      st' = materializeTxn ctx ref op sessionId st) ∨
    (op.isTerminalApplyOps ∧ ¬(op.sessionId.isSome ∧ op.txnNumber.isSome) ∧
      op.prevWriteOpTimeInTransaction = none ∧
      st' = emplaceDerivedOps ctx (ctx.extractOperations op) st) := by
  unfold routeEntry at stepped
  by_cases buffered : isBuffered ctx op
  · simp only [buffered, if_true] at stepped
    exact .inl ⟨buffered, stepped⟩
  simp only [buffered, Bool.false_eq_true, if_false] at stepped
  cases aborted : abortPartialTxn op st with
  | error failure => simp [aborted] at stepped; cases stepped
  | ok u =>
    simp only [aborted, bind, Except.bind] at stepped
    unfold finishEntry at stepped
    by_cases terminal : op.isTerminalApplyOps
    · rw [abortPartialTxn_of_ne (by simp [op.getCommandType_of_isTerminalApplyOps terminal])]
        at aborted
      cases aborted
      rw [processIfCrud_of_not_isCrudOpType ctx (op.not_isCrudOpType_of_isTerminalApplyOps terminal)]
        at stepped
      simp only [terminal, if_true] at stepped
      split at stepped
      · rename_i sessionId txnNumber found txnFound
        cases stepped
        exact .inr (.inr (.inl ⟨sessionId, found, by simp [materializes, terminal, found, txnFound],
          rfl⟩))
      · rename_i notBoth
        split at stepped
        · cases stepped
        · rename_i noPrevWrite
          cases stepped
          refine .inr (.inr (.inr ⟨terminal, ?_, by simpa using noPrevWrite, rfl⟩))
          rintro ⟨sessionFound, txnFound⟩
          obtain ⟨sessionId, found⟩ := Option.isSome_iff_exists.mp sessionFound
          obtain ⟨txnNumber, txnFound⟩ := Option.isSome_iff_exists.mp txnFound
          exact notBoth sessionId txnNumber found txnFound
    by_cases prepared : op.isPreparedCommit ∧ ctx.options.mode = .kInitialSync
    · rw [abortPartialTxn_of_ne (by simp [op.getCommandType_of_isPreparedCommit prepared.1])]
        at aborted
      cases aborted
      rw [processIfCrud_of_not_isCrudOpType ctx (op.not_isCrudOpType_of_isPreparedCommit prepared.1)]
        at stepped
      simp only [terminal, prepared, Bool.false_eq_true, if_false, beq_self_eq_true, Bool.and_self,
        if_true] at stepped
      split at stepped
      · rename_i sessionId found
        cases stepped
        exact .inr (.inr (.inl ⟨sessionId, found, by simp [materializes, prepared], rfl⟩))
      · cases stepped
    · have notPrepared : (op.isPreparedCommit && ctx.options.mode == .kInitialSync) = false := by
        simpa using prepared
      simp only [terminal, notPrepared, Bool.false_eq_true, if_false] at stepped
      cases stepped
      exact .inr (.inl ⟨buffered, terminal, prepared, u, rfl, rfl⟩)

theorem deriveStep_of_get? {trackSessions : Bool} {st : FillState} {ref : OpRef} {op : OplogEntry}
    (found : st.store.get? ref = some op) :
    deriveStep ctx trackSessions st ref =
      if op.opTime ≤ ctx.options.beginApplyingOpTime then .ok st
      else routeEntry ctx ref op (if trackSessions then trackSession ctx op st else st) := by
  simp [deriveStep, found]

end Cases

/-! ### The store only gains ops and capped marks -/

namespace OpStore

/-- `after` holds every op of `before`, possibly with `isForCappedCollection` set. -/
def Extends (before after : OpStore) : Prop :=
  ∀ x op, before.get? x = some op →
    after.get? x = some op ∨ after.get? x = some { op with isForCappedCollection := true }

theorem Extends.refl (store : OpStore) : store.Extends store := fun _ _ found => .inl found

theorem Extends.trans {a b c : OpStore} (ab : a.Extends b) (bc : b.Extends c) : a.Extends c := by
  intro x op found
  rcases ab x op found with same | marked
  · exact bc x op same
  · exact .inr ((bc x _ marked).elim id id)

theorem extends_modify_setCapped (store : OpStore) (ref : OpRef) :
    store.Extends (store.modify (fun op => { op with isForCappedCollection := true }) ref) := by
  intro x op found
  rw [get?_modify]
  split <;> simp [found]

theorem extends_emplaceBack (store : OpStore) (ops : List OplogEntry) :
    store.Extends (store.emplaceBack ops) := fun x op found =>
  .inl ((get?_emplaceBack_of_isSome (by simp [found]) ops).trans found)

/-- A field the capped mark does not change keeps its value across an extension. -/
theorem Extends.map_eq {before after : OpStore} (ext : before.Extends after) {x : OpRef}
    {op : OplogEntry} (found : before.get? x = some op) {β : Type} (f : OplogEntry → β)
    (unmarked : ∀ op : OplogEntry, f { op with isForCappedCollection := true } = f op) :
    (after.get? x).map f = some (f op) := by
  rcases ext x op found with same | marked <;> simp [*]

theorem Extends.map_of_map {before after : OpStore} (ext : before.Extends after) {x : OpRef}
    {β : Type} (f : OplogEntry → β)
    (unmarked : ∀ op : OplogEntry, f { op with isForCappedCollection := true } = f op) {b : β}
    (mapped : (before.get? x).map f = some b) : (after.get? x).map f = some b := by
  obtain ⟨op, found, rfl⟩ := Option.map_eq_some'.mp mapped
  exact ext.map_eq found f unmarked

end OpStore

section StoreExtends

variable (ctx : FillContext)

theorem processCrudOp_extends (ref : OpRef) (op : OplogEntry) (hash : UInt32) (st : FillState) :
    st.store.Extends (processCrudOp ctx ref op hash st).2.store := by
  dsimp only [processCrudOp]
  split
  · exact OpStore.extends_modify_setCapped st.store ref
  · exact OpStore.Extends.refl st.store

theorem processIfCrud_extends (ref : OpRef) (op : OplogEntry) (st : FillState) :
    st.store.Extends (processIfCrud ctx ref op st).2.store := by
  unfold processIfCrud
  split
  · exact processCrudOp_extends ctx ref op _ st
  · exact OpStore.Extends.refl st.store

theorem addDerivedOps_extends (vector index : Nat) (ops : List OplogEntry) (st : FillState) :
    st.store.Extends (addDerivedOps ctx vector index ops st).store := by
  induction ops generalizing index st with
  | nil => exact OpStore.Extends.refl st.store
  | cons op rest ih =>
      rw [addDerivedOps]
      exact (processIfCrud_extends ctx (.derived vector index) op st).trans
        (ih (index + 1) (addToWriterVector _ (processIfCrud ctx (.derived vector index) op st).1
          (processIfCrud ctx (.derived vector index) op st).2))

theorem emplaceDerivedOps_extends (ops : List OplogEntry) (st : FillState) :
    st.store.Extends (emplaceDerivedOps ctx ops st).store :=
  (OpStore.extends_emplaceBack st.store ops).trans (addDerivedOps_extends ctx _ 0 ops
    { st with store := st.store.emplaceBack ops, produced := st.produced ++ [ops] })

theorem trackSession_extends (op : OplogEntry) (st : FillState) :
    st.store.Extends (trackSession ctx op st).store := by
  dsimp only [trackSession]
  split
  · exact emplaceDerivedOps_extends ctx _ { st with sessionOps := st.sessionOps ++ [op] }
  · exact OpStore.Extends.refl st.store

theorem bufferPartialTxn_eq {ref : OpRef} {op : OplogEntry} {st st' : FillState}
    (buffered : bufferPartialTxn ref op st = .ok st') :
    ∃ sessionId, op.sessionId = some sessionId ∧
      st' = { st with
        partialTxnOps := Function.update st.partialTxnOps sessionId (st.partialTxnOps sessionId ++ [ref]) } := by
  unfold bufferPartialTxn at buffered
  split at buffered
  · cases buffered
  · rename_i sessionId found
    refine ⟨sessionId, found, ?_⟩
    dsimp only at buffered
    split at buffered
    · cases buffered; rfl
    · split at buffered
      · cases buffered; rfl
      · cases buffered

theorem abortPartialTxn_eq {op : OplogEntry} {st u : FillState}
    (aborted : abortPartialTxn op st = .ok u) :
    (op.getCommandType = .kAbortTransaction →
      ∃ sessionId, op.sessionId = some sessionId ∧ u = clearPartialTxn sessionId st) ∧
    (op.getCommandType ≠ .kAbortTransaction → u = st) := by
  unfold abortPartialTxn at aborted
  split at aborted
  · rename_i abort
    split at aborted
    · rename_i sessionId found
      cases aborted
      exact ⟨fun _ => ⟨sessionId, found, rfl⟩, fun notAbort => absurd (by simpa using abort) notAbort⟩
    · cases aborted
  · rename_i notAbort
    cases aborted
    exact ⟨fun abort => absurd (by simpa using abort) notAbort, fun _ => rfl⟩

/-- `abortPartialTxn` changes only the buffered entries. -/
theorem abortPartialTxn_frame {op : OplogEntry} {st u : FillState}
    (aborted : abortPartialTxn op st = .ok u) : ∃ partialTxnOps, u = { st with partialTxnOps } := by
  by_cases abort : op.getCommandType = .kAbortTransaction
  · obtain ⟨_, _, rfl⟩ := (abortPartialTxn_eq aborted).1 abort
    exact ⟨_, rfl⟩
  · exact ⟨st.partialTxnOps, (abortPartialTxn_eq aborted).2 abort⟩

theorem routeEntry_extends {ref : OpRef} {op : OplogEntry} {st st' : FillState}
    (stepped : routeEntry ctx ref op st = .ok st') : st.store.Extends st'.store := by
  rcases routeEntry_cases ctx stepped with
    ⟨-, buffered⟩ | ⟨-, -, -, aborted, abortedOk, rfl⟩ | ⟨sessionId, -, -, rfl⟩ | ⟨-, -, -, rfl⟩
  · obtain ⟨_, _, rfl⟩ := bufferPartialTxn_eq buffered
    exact OpStore.Extends.refl st.store
  · obtain ⟨partialTxnOps, rfl⟩ := abortPartialTxn_frame abortedOk
    exact processIfCrud_extends ctx ref op { st with partialTxnOps }
  · exact emplaceDerivedOps_extends ctx _
      { clearPartialTxn sessionId st with txnReads := st.txnReads ++ [(ref, st.partialTxnOps sessionId)] }
  · exact emplaceDerivedOps_extends ctx _ st

theorem deriveStep_extends {trackSessions : Bool} {st st' : FillState} {ref : OpRef}
    (stepped : deriveStep ctx trackSessions st ref = .ok st') : st.store.Extends st'.store := by
  unfold deriveStep at stepped
  split at stepped
  · cases stepped; exact OpStore.Extends.refl _
  · split at stepped
    · cases stepped; exact OpStore.Extends.refl _
    · refine OpStore.Extends.trans ?_ (routeEntry_extends ctx stepped)
      split
      · exact trackSession_extends ctx _ st
      · exact OpStore.Extends.refl st.store

theorem deriveLoop_extends {trackSessions : Bool} (refs : List OpRef) {st st' : FillState}
    (ran : deriveLoop ctx trackSessions refs st = .ok st') : st.store.Extends st'.store := by
  induction refs generalizing st with
  | nil => cases ran; exact OpStore.Extends.refl _
  | cons ref rest ih =>
      simp only [deriveLoop, bind, Except.bind] at ran
      split at ran
      · cases ran
      · rename_i next stepped
        exact (deriveStep_extends ctx stepped).trans (ih ran)

end StoreExtends

/-! ### Runs over a prefix of the handles -/

section Runs

variable (ctx : FillContext)

theorem deriveLoop_snoc (trackSessions : Bool) (refs : List OpRef) (ref : OpRef)
    (st : FillState) :
    deriveLoop ctx trackSessions (refs ++ [ref]) st =
      deriveLoop ctx trackSessions refs st >>= fun st => deriveStep ctx trackSessions st ref := by
  induction refs generalizing st with
  | nil =>
      show (deriveStep ctx trackSessions st ref >>= fun st => .ok st) =
        deriveStep ctx trackSessions st ref
      cases deriveStep ctx trackSessions st ref <;> rfl
  | cons r rest ih =>
      rw [List.cons_append, deriveLoop, deriveLoop]
      cases deriveStep ctx trackSessions st r with
      | error failure => rfl
      | ok next => exact ih next

theorem batchRefs_succ (i : Nat) : batchRefs (i + 1) = batchRefs i ++ [.batch i] := by
  simp [batchRefs, List.range_succ]

/-- A run over the handles `h` of the first `i + 1` entries is a run over the first `i`
and one more step. -/
theorem deriveLoop_range_succ {trackSessions : Bool} {h : Nat → OpRef} {i : Nat}
    {st st' : FillState}
    (ran : deriveLoop ctx trackSessions ((List.range (i + 1)).map h) st = .ok st') :
    ∃ mid, deriveLoop ctx trackSessions ((List.range i).map h) st = .ok mid ∧
      deriveStep ctx trackSessions mid (h i) = .ok st' := by
  rw [List.range_succ, List.map_append, List.map_singleton, deriveLoop_snoc] at ran
  cases prefixRan : deriveLoop ctx trackSessions ((List.range i).map h) st with
  | error failure => rw [prefixRan] at ran; cases ran
  | ok mid => rw [prefixRan] at ran; exact ⟨mid, rfl, ran⟩

/-- A run over the first `i + 1` entries is a run over the first `i` and one more step. -/
theorem deriveLoop_batchRefs_succ {trackSessions : Bool} {i : Nat} {st st' : FillState}
    (ran : deriveLoop ctx trackSessions (batchRefs (i + 1)) st = .ok st') :
    ∃ mid, deriveLoop ctx trackSessions (batchRefs i) st = .ok mid ∧
      deriveStep ctx trackSessions mid (.batch i) = .ok st' :=
  deriveLoop_range_succ ctx ran

end Runs

end SyncTail
