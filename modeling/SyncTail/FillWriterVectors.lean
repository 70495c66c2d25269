import SyncTail.CollectionProperties

/-!
# Filling the writer vectors

`SyncTail::fillWriterVectors` partitions one batch of oplog entries into one vector of
op handles per worker. This file models it: the loop of
`_deriveOpsAndFillWriterVectors` over one vector of entries, `processCrudOp`,
`addToWriterVector`, `addDerivedOps`, and the second pass over the session updates that
`SessionUpdateTracker::flushAll` returns.

Writer vectors hold pointers: into the batch, or into one of the `derivedOps` vectors that
own the ops the pass derives. We model a pointer as an `OpRef` and the owning storage as
an `OpStore`. Collaborators the source only calls (the session-update tracker,
`readTransactionOperationsFromOplogChain`, `ApplyOps::extractOperations`, the hash
functions and the catalog) are fields of a `FillContext`; every result about the pass
holds for all of them. The tracker's state is the list of entries it has been given, so
that its answers may depend on everything it has seen.

Three fields of a `FillState` are not in the source and are never read by the model:
`routed` records the handles in the order `addToWriterVector` received them, `produced`
records each derived vector as its producer returned it, and `txnReads` records the
arguments of each call of `readTransactionOperationsFromOplogChain`. The specification
is stated over them.

The `invariant`s of the loop and the dereference of an empty `getSessionId()` end the
process; the model returns an `InvariantFailure` naming which.
-/

namespace SyncTail

/-- `BSONElementComparator` in `kIgnore` field-names mode, for each collator: its
equality, its hash, and the contract that equal elements hash alike. -/
structure BSONElementComparator where
  equal : Option Collator → BSONElement → BSONElement → Bool
  hash : Option Collator → BSONElement → UInt64
  hash_eq_of_equal : ∀ collator a b, equal collator a b = true → hash collator a = hash collator b

/-- What one `fillWriterVectors` call reads besides the batch: the options, the storage
engine and catalog, the hash functions, and the collaborators that derive ops. -/
structure FillContext where
  options : Options
  supportsDocLocking : Bool
  databaseHolder : DatabaseHolder
  /-- `StringMapHasher` on a namespace string. -/
  hashNs : String → UInt64
  elementComparator : BSONElementComparator
  /-- `MurmurHash3_x86_32` over the eight bytes of an `_id` hash, with a seed. -/
  murmurHash3 : UInt64 → UInt32 → UInt32
  /-- `SessionUpdateTracker::updateSession`, given the entries it was given before. -/
  updateSession : List OplogEntry → OplogEntry → Option (List OplogEntry)
  /-- `SessionUpdateTracker::flushAll`, given every entry it was given. -/
  flushAll : List OplogEntry → List OplogEntry
  readTransactionOperationsFromOplogChain : OplogEntry → List OplogEntry → List OplogEntry
  /-- `ApplyOps::extractOperations`. -/
  extractOperations : OplogEntry → List OplogEntry

/-- A handle to an op: an entry of the batch, or entry `index` of derived vector
`vector`. -/
inductive OpRef
  | batch (index : Nat)
  | derived (vector : Nat) (index : Nat)
  deriving DecidableEq, Repr

/-- The storage handles point into: the batch `ops` and the `derivedOps` vectors. -/
structure OpStore where
  ops : List OplogEntry
  derivedOps : List (List OplogEntry)
  deriving Repr

namespace OpStore

/-- Dereference a handle. -/
def get? (store : OpStore) : OpRef → Option OplogEntry
  | .batch index => store.ops[index]?
  | .derived vector index => store.derivedOps[vector]? >>= (·[index]?)

/-- Update the op a handle points to. -/
def modify (store : OpStore) (f : OplogEntry → OplogEntry) : OpRef → OpStore
  | .batch index => { store with ops := store.ops.modify f index }
  | .derived vector index =>
      { store with derivedOps := store.derivedOps.modify (·.modify f index) vector }

/-- `derivedOps->emplace_back(ops)`. -/
def emplaceBack (store : OpStore) (ops : List OplogEntry) : OpStore :=
  { store with derivedOps := store.derivedOps ++ [ops] }

end OpStore

/-- The writer vectors, one per worker. The source divides by `writerVectors->size()`
reduced to a `uint32_t`; a pool whose size reduces to zero would divide by zero. -/
structure WriterVectors where
  vectors : List (List OpRef)
  numWriters_ne_zero : vectors.length % 2 ^ 32 ≠ 0

namespace WriterVectors

/-- The vector `hash % numWriters` that `addToWriterVector` picks. -/
def writerIndex (writerVectors : WriterVectors) (hash : UInt32) : Nat :=
  (hash % UInt32.ofNat writerVectors.vectors.length).toNat

/-- `writer.push_back(op)` on the picked vector. -/
def pushBack (writerVectors : WriterVectors) (op : OpRef) (hash : UInt32) : WriterVectors where
  vectors := writerVectors.vectors.modify (· ++ [op]) (writerVectors.writerIndex hash)
  numWriters_ne_zero := by simpa using writerVectors.numWriters_ne_zero

end WriterVectors

/-- Why a pass stops: an `invariant` that failed, or an empty `getSessionId()`
dereferenced. -/
inductive InvariantFailure
  | emptySessionId
  | partialTxnNumber
  | prevWriteOpTimeInTransaction
  deriving DecidableEq, Repr

/-- The state `_deriveOpsAndFillWriterVectors` and `fillWriterVectors` change. -/
structure FillState where
  store : OpStore
  writerVectors : WriterVectors
  /-- `partialTxnOps`: the buffered entries of each session. -/
  partialTxnOps : LogicalSessionId → List OpRef
  collPropertiesCache : CachedCollectionProperties
  /-- The entries given to the session-update tracker: its state. -/
  sessionOps : List OplogEntry
  /-- The handles in the order `addToWriterVector` received them. -/
  routed : List OpRef
  /-- The derived vectors as their producers returned them. -/
  produced : List (List OplogEntry)
  /-- The calls of `readTransactionOperationsFromOplogChain`: the handle of the entry being
  committed and the buffered handles passed with it. -/
  txnReads : List (OpRef × List OpRef)

/-- The state a `fillWriterVectors` call starts from. -/
def FillState.init (ops : List OplogEntry) (writerVectors : WriterVectors)
    (derivedOps : List (List OplogEntry)) : FillState where
  store := ⟨ops, derivedOps⟩
  writerVectors := writerVectors
  partialTxnOps := fun _ => []
  collPropertiesCache := {}
  sessionOps := []
  routed := []
  produced := derivedOps
  txnReads := []

section Pass

variable (ctx : FillContext)

/-- The entries the loop holds back until their transaction commits: partial-transaction
entries, and prepare entries in initial sync. -/
def isBuffered (op : OplogEntry) : Bool :=
  op.isPartialTransaction || (op.shouldPrepare && ctx.options.mode == .kInitialSync)

/-- The hash of a namespace, reduced to 32 bits. -/
def nsHash (op : OplogEntry) : UInt32 :=
  (ctx.hashNs op.nss.ns).toUInt32

/-- `processCrudOp`: mix the `_id` into the hash unless the collection is capped or the
engine lacks document locking, and mark inserts into capped collections. -/
def processCrudOp (ref : OpRef) (op : OplogEntry) (hash : UInt32) (st : FillState) :
    UInt32 × FillState :=
  let lookup := st.collPropertiesCache.getCollectionProperties ctx.databaseHolder op.nss.ns
  let collProperties := lookup.1
  let hash :=
    if ctx.supportsDocLocking && !collProperties.isCapped then
      ctx.murmurHash3 (ctx.elementComparator.hash collProperties.collator op.idElement) hash
    else hash
  let store :=
    if op.opType = .kInsert && collProperties.isCapped then
      st.store.modify (fun op => { op with isForCappedCollection := true }) ref
    else st.store
  (hash, { st with collPropertiesCache := lookup.2, store := store })

/-- `processCrudOp` on CRUD ops; other ops keep the namespace hash. -/
def processIfCrud (ref : OpRef) (op : OplogEntry) (st : FillState) : UInt32 × FillState :=
  if op.isCrudOpType then processCrudOp ctx ref op (nsHash ctx op) st else (nsHash ctx op, st)

/-- `addToWriterVector`. -/
def addToWriterVector (ref : OpRef) (hash : UInt32) (st : FillState) : FillState :=
  { st with writerVectors := st.writerVectors.pushBack ref hash, routed := st.routed ++ [ref] }

/-- `addDerivedOps` on derived vector `vector`, from its entry `index` on. -/
def addDerivedOps (vector : Nat) : Nat → List OplogEntry → FillState → FillState
  | _, [], st => st
  | index, op :: rest, st =>
      let processed := processIfCrud ctx (.derived vector index) op st
      addDerivedOps vector (index + 1) rest
        (addToWriterVector (.derived vector index) processed.1 processed.2)

/-- `derivedOps->emplace_back(ops)` followed by `addDerivedOps` on the new vector. -/
def emplaceDerivedOps (ops : List OplogEntry) (st : FillState) : FillState :=
  addDerivedOps ctx st.store.derivedOps.length 0 ops
    { st with store := st.store.emplaceBack ops, produced := st.produced ++ [ops] }

/-- `sessionUpdateTracker->updateSession(op)` and the routing of what it returns. -/
def trackSession (op : OplogEntry) (st : FillState) : FillState :=
  let tracked := { st with sessionOps := st.sessionOps ++ [op] }
  match ctx.updateSession st.sessionOps op with
  | some newOplogWrites => emplaceDerivedOps ctx newOplogWrites tracked
  | none => tracked

/-- Buffer a partial-transaction entry, after checking that the session's buffered
entries belong to its transaction. -/
def bufferPartialTxn (ref : OpRef) (op : OplogEntry) (st : FillState) :
    Except InvariantFailure FillState :=
  match op.sessionId with
  | none => .error .emptySessionId
  | some sessionId =>
      let partialTxnList := st.partialTxnOps sessionId
      let buffered :=
        { st with partialTxnOps := Function.update st.partialTxnOps sessionId (partialTxnList ++ [ref]) }
      match partialTxnList with
      | [] => .ok buffered
      | front :: _ =>
          if (st.store.get? front).map (·.txnNumber) = some op.txnNumber then .ok buffered
          else .error .partialTxnNumber

/-- `partialTxnOps[sessionId].clear()`. -/
def clearPartialTxn (sessionId : LogicalSessionId) (st : FillState) : FillState :=
  { st with partialTxnOps := Function.update st.partialTxnOps sessionId [] }

/-- An `abortTransaction` discards its session's buffered entries. -/
def abortPartialTxn (op : OplogEntry) (st : FillState) : Except InvariantFailure FillState :=
  if op.getCommandType = .kAbortTransaction then
    match op.sessionId with
    | some sessionId => .ok (clearPartialTxn sessionId st)
    | none => .error .emptySessionId
  else .ok st

/-- Read a transaction's ops from its oplog chain and the session's buffered entries,
clear the buffer, and route the ops. -/
def materializeTxn (ref : OpRef) (op : OplogEntry) (sessionId : LogicalSessionId)
    (st : FillState) : FillState :=
  let partialTxnList := st.partialTxnOps sessionId
  emplaceDerivedOps ctx
    (ctx.readTransactionOperationsFromOplogChain op (partialTxnList.filterMap st.store.get?))
    { clearPartialTxn sessionId st with txnReads := st.txnReads ++ [(ref, partialTxnList)] }

/-- The end of the loop body, after `processCrudOp`: materialize a terminal `applyOps`
or, in initial sync, a prepared commit; route any other entry. -/
def finishEntry (ref : OpRef) (op : OplogEntry) (hash : UInt32) (st : FillState) :
    Except InvariantFailure FillState :=
  if op.isTerminalApplyOps then
    match op.sessionId, op.txnNumber with
    | some sessionId, some _ => .ok (materializeTxn ctx ref op sessionId st)
    | _, _ =>
        if op.prevWriteOpTimeInTransaction.isSome then .error .prevWriteOpTimeInTransaction
        else .ok (emplaceDerivedOps ctx (ctx.extractOperations op) st)
  else if op.isPreparedCommit && ctx.options.mode == .kInitialSync then
    match op.sessionId with
    | some sessionId => .ok (materializeTxn ctx ref op sessionId st)
    | none => .error .emptySessionId
  else .ok (addToWriterVector ref hash st)

/-- The loop body after the session-update tracker: buffer, materialize or route the
entry. -/
def routeEntry (ref : OpRef) (op : OplogEntry) (st : FillState) :
    Except InvariantFailure FillState :=
  if isBuffered ctx op then bufferPartialTxn ref op st
  else do
    let st ← abortPartialTxn op st
    let processed := processIfCrud ctx ref op st
    finishEntry ctx ref op processed.1 processed.2

/-- The loop body of `_deriveOpsAndFillWriterVectors` for the entry `ref` points to.
`trackSessions` says whether a session-update tracker was passed. -/
def deriveStep (trackSessions : Bool) (st : FillState) (ref : OpRef) :
    Except InvariantFailure FillState :=
  match st.store.get? ref with
  | none => .ok st
  | some op =>
      if op.opTime ≤ ctx.options.beginApplyingOpTime then .ok st
      else routeEntry ctx ref op (if trackSessions then trackSession ctx op st else st)

/-- The loop of `_deriveOpsAndFillWriterVectors` over the remaining handles. -/
def deriveLoop (trackSessions : Bool) : List OpRef → FillState → Except InvariantFailure FillState
  | [], st => .ok st
  | ref :: rest, st => do
      let st ← deriveStep ctx trackSessions st ref
      deriveLoop trackSessions rest st

/-- `_deriveOpsAndFillWriterVectors` over the entries `refs` point to, with a fresh
`partialTxnOps` map and a fresh properties cache. -/
def deriveOpsAndFillWriterVectors (trackSessions : Bool) (refs : List OpRef) (st : FillState) :
    Except InvariantFailure FillState :=
  deriveLoop ctx trackSessions refs { st with partialTxnOps := fun _ => [], collPropertiesCache := {} }

/-- Handles to the entries of the batch. -/
def batchRefs (length : Nat) : List OpRef :=
  (List.range length).map .batch

/-- Handles to the entries of derived vector `vector`. -/
def derivedRefs (vector length : Nat) : List OpRef :=
  (List.range length).map (.derived vector)

/-- `SyncTail::fillWriterVectors`: a pass over the batch with a session-update tracker,
then a pass over what the tracker flushes, without one. -/
def fillWriterVectors (st : FillState) : Except InvariantFailure FillState := do
  let st ← deriveOpsAndFillWriterVectors ctx true (batchRefs st.store.ops.length)
    { st with sessionOps := [] }
  let newOplogWrites := ctx.flushAll st.sessionOps
  if newOplogWrites.isEmpty then .ok st
  else
    let vector := st.store.derivedOps.length
    deriveOpsAndFillWriterVectors ctx false (derivedRefs vector newOplogWrites.length)
      { st with
        store := st.store.emplaceBack newOplogWrites
        produced := st.produced ++ [newOplogWrites] }

end Pass

/-- Collaborators for running the pass on small batches: an empty catalog, hashes that
send everything to the first worker, no session updates, and a transaction reader that
returns the buffered entries it is given. -/
def sampleContext (mode : OplogApplication.Mode) : FillContext where
  options := { mode := mode, beginApplyingOpTime := ⟨1, 0⟩,
               allowNamespaceNotFoundErrorsOnCrudOps := false }
  supportsDocLocking := true
  databaseHolder := ⟨fun _ => none⟩
  hashNs := fun _ => 0
  elementComparator := ⟨fun _ a b => a == b, fun _ _ => 0, fun _ _ _ _ => rfl⟩
  murmurHash3 := fun _ seed => seed
  updateSession := fun _ _ => none
  flushAll := fun _ => []
  readTransactionOperationsFromOplogChain := fun _ ops => ops
  extractOperations := fun _ => []

/-- Two empty writer vectors. -/
def sampleWriters : WriterVectors := ⟨[[], []], by decide⟩

end SyncTail
