import SyncTail.FillWriterVectors.Partition

/-!
# The pass as the specification describes it

This file says which derived lists a `fillWriterVectors` call appends, and in which
order it routes handles. It says so in the terms of the batch and of what the collaborators
return, with no store, writer vector or cache. `Refinement` proves that the code's pass
appends and routes exactly these.

The loop skips an entry at or below `beginApplyingOpTime`. Any other entry first gets
the session-update tracker's answer, given the entries the loop did not skip before it
(`trackedBefore`). The entry is then buffered, replaced by a derived list
(`replacement`), or routed itself. A transaction it commits is read from the entries
its session buffered since the session's last clearing entry (`partialTxnEntries`, the
entries `expectedPartialTxnList` names). The ops of an `applyOps` outside a transaction
are extracted from it.

`expectedDerived` lists what a pass over a vector of entries appends, entry by entry.
`expectedRouted` is the pass's routing order. For each entry it takes the handles of the
lists the entry derives, list by list and in list order, then the entry itself if it
routes itself. A whole call makes this pass over the batch with the tracker. Unless
`flushAll` returns nothing, it then appends what `flushAll` returns and makes the pass over
it without the tracker (`expectedFillDerived`, `expectedFillRouted`). `selects` says which
handles that routing order holds.
-/

namespace SyncTail

section Entry

variable (ctx : FillContext)

/-- The derived list the loop appends in place of `op`, given the entries each session has
buffered. For a transaction `op` commits, it is the ops `readTransactionOperationsFromOplogChain`
reads. For an `applyOps` outside a transaction, it is the ops `ApplyOps::extractOperations`
finds. -/
def replacement (partialTxnEntries : LogicalSessionId → List OplogEntry) (op : OplogEntry) :
    List (List OplogEntry) :=
  if materializes ctx op then
    (op.sessionId.map fun S =>
      ctx.readTransactionOperationsFromOplogChain op (partialTxnEntries S)).toList
  else if op.isTerminalApplyOps then [ctx.extractOperations op]
  else []

/-- The derived lists the loop appends at `op`, in order. First comes what the
session-update tracker returns, given the entries `tracked` it was given before; then
`op`'s replacement. -/
def entryDerived (trackSessions : Bool) (tracked : List OplogEntry)
    (partialTxnEntries : LogicalSessionId → List OplogEntry) (op : OplogEntry) :
    List (List OplogEntry) :=
  if op.opTime ≤ ctx.options.beginApplyingOpTime then []
  else (if trackSessions then (ctx.updateSession tracked op).toList else []) ++
    replacement ctx partialTxnEntries op

theorem entryDerived_untracked (tracked tracked' : List OplogEntry)
    (partialTxnEntries : LogicalSessionId → List OplogEntry) (op : OplogEntry) :
    entryDerived ctx false tracked partialTxnEntries op =
      entryDerived ctx false tracked' partialTxnEntries op := by
  simp [entryDerived]

end Entry

/-- The handles of derived vectors `start`, `start + 1`, … holding `lists`, vector by
vector. -/
def vectorRefs : Nat → List (List OplogEntry) → List OpRef
  | _, [] => []
  | start, ops :: rest => derivedRefs start ops.length ++ vectorRefs (start + 1) rest

theorem vectorRefs_append : ∀ (start : Nat) (lists more : List (List OplogEntry)),
    vectorRefs start (lists ++ more) = vectorRefs start lists ++ vectorRefs (start + lists.length) more
  | start, [], more => by simp [vectorRefs]
  | start, ops :: rest, more => by
      rw [List.cons_append, vectorRefs, vectorRefs, vectorRefs_append (start + 1) rest more,
        List.length_cons, Nat.add_right_comm, Nat.add_assoc, List.append_assoc]

theorem batch_not_mem_vectorRefs (i : Nat) :
    ∀ (start : Nat) (lists : List (List OplogEntry)), OpRef.batch i ∉ vectorRefs start lists
  | _, [] => by simp [vectorRefs]
  | start, ops :: rest => by
      simp [vectorRefs, mem_derivedRefs, batch_not_mem_vectorRefs i (start + 1) rest]

theorem derived_mem_vectorRefs {k j : Nat} : ∀ {start : Nat} {lists : List (List OplogEntry)},
    OpRef.derived k j ∈ vectorRefs start lists ↔
      start ≤ k ∧ lists[k - start]?.any fun ops => decide (j < ops.length)
  | start, [] => by simp [vectorRefs]
  | start, ops :: rest => by
      rw [vectorRefs, List.mem_append, mem_derivedRefs, derived_mem_vectorRefs]
      rcases Nat.lt_or_ge k start with before | after
      · simp only [Nat.not_le.mpr before, false_and, iff_false, not_or, not_exists, not_and]
        exact ⟨fun _ _ same => Nat.ne_of_lt before (OpRef.derived.inj same).1, by omega⟩
      · obtain ⟨d, rfl⟩ := Nat.exists_eq_add_of_le after
        cases d with
        | zero => simp
        | succ d =>
            have shifted : start + (d + 1) - start = d + 1 := by omega
            have shifted' : start + (d + 1) - (start + 1) = d := by omega
            simp [shifted, shifted']

section Pass

variable (ctx : FillContext) (trackSessions : Bool) (entries : List OplogEntry)

/-- The positions of the entries `expectedPartialTxnList` names. -/
def bufferedPositions (S : LogicalSessionId) (i : Nat) : List Nat :=
  (List.range i).filter fun j =>
    entries[j]?.any (buffersFor ctx S) && !clearedBetween ctx entries S j i

theorem expectedPartialTxnList_eq_map (S : LogicalSessionId) (i : Nat) :
    expectedPartialTxnList ctx entries S i = (bufferedPositions ctx entries S i).map .batch :=
  rfl

theorem bufferedPositions_succ (S : LogicalSessionId) (i : Nat) :
    bufferedPositions ctx entries S (i + 1) =
      if entries[i]?.any (clearsFor ctx S) then []
      else if entries[i]?.any (buffersFor ctx S) then bufferedPositions ctx entries S i ++ [i]
      else bufferedPositions ctx entries S i := by
  have lists := expectedPartialTxnList_succ ctx entries S i
  simp only [expectedPartialTxnList_eq_map] at lists
  refine List.map_injective_iff.mpr (fun _ _ same => OpRef.batch.inj same) ?_
  rw [lists]
  split_ifs <;> simp

theorem lt_of_mem_bufferedPositions {S : LogicalSessionId} {i j : Nat}
    (mem : j ∈ bufferedPositions ctx entries S i) : j < i :=
  List.mem_range.mp (List.mem_filter.mp mem).1

theorem lt_length_of_mem_bufferedPositions {S : LogicalSessionId} {i j : Nat}
    (mem : j ∈ bufferedPositions ctx entries S i) : j < entries.length :=
  lt_length_of_any (Bool.and_eq_true_iff.mp (List.mem_filter.mp mem).2).1

/-- The entries session `S` has buffered when the loop reaches entry `i`. -/
def partialTxnEntries (S : LogicalSessionId) (i : Nat) : List OplogEntry :=
  (bufferedPositions ctx entries S i).filterMap (entries[·]?)

/-- The entries before position `i` that the loop does not skip: what the session-update
tracker has been given when the loop reaches entry `i`. -/
def trackedBefore (i : Nat) : List OplogEntry :=
  (entries.take i).filter fun op => !decide (op.opTime ≤ ctx.options.beginApplyingOpTime)

/-- The derived lists the loop appends at entry `i`. -/
def derivedAt (i : Nat) : List (List OplogEntry) :=
  (entries[i]?.map (entryDerived ctx trackSessions (trackedBefore ctx entries i)
    (partialTxnEntries ctx entries · i))).getD []

/-- The derived lists a pass over the first `n` entries appends, in order. -/
def expectedDerived (n : Nat) : List (List OplogEntry) :=
  (List.range n).flatMap (derivedAt ctx trackSessions entries)

/-- The routing order of a pass over the first `n` entries, whose handles are `h` and
whose derived vectors are numbered from `start`. It goes entry by entry: the ops of the
lists the entry derives, in list order, then the entry itself if it routes itself. -/
def expectedRouted (h : Nat → OpRef) (start n : Nat) : List OpRef :=
  (List.range n).flatMap fun i =>
    vectorRefs (start + (expectedDerived ctx trackSessions entries i).length)
        (derivedAt ctx trackSessions entries i) ++
      if entries[i]?.any (routesItself ctx) then [h i] else []

@[simp]
theorem expectedDerived_zero : expectedDerived ctx trackSessions entries 0 = [] := rfl

theorem expectedDerived_succ (n : Nat) :
    expectedDerived ctx trackSessions entries (n + 1) =
      expectedDerived ctx trackSessions entries n ++ derivedAt ctx trackSessions entries n := by
  simp [expectedDerived, List.range_succ]

@[simp]
theorem expectedRouted_zero (h : Nat → OpRef) (start : Nat) :
    expectedRouted ctx trackSessions entries h start 0 = [] := rfl

theorem expectedRouted_succ (h : Nat → OpRef) (start n : Nat) :
    expectedRouted ctx trackSessions entries h start (n + 1) =
      expectedRouted ctx trackSessions entries h start n ++
        (vectorRefs (start + (expectedDerived ctx trackSessions entries n).length)
            (derivedAt ctx trackSessions entries n) ++
          if entries[n]?.any (routesItself ctx) then [h n] else []) := by
  simp [expectedRouted, List.range_succ]

/-- A pass routes the entries that route themselves and every op of every list it
derives. -/
theorem mem_expectedRouted {h : Nat → OpRef} {start : Nat} {r : OpRef} :
    ∀ {n : Nat}, r ∈ expectedRouted ctx trackSessions entries h start n ↔
      (∃ i < n, entries[i]?.any (routesItself ctx) ∧ r = h i) ∨
        r ∈ vectorRefs start (expectedDerived ctx trackSessions entries n)
  | 0 => by simp [vectorRefs]
  | n + 1 => by
      have own : r ∈ (if entries[n]?.any (routesItself ctx) then [h n] else []) ↔
          entries[n]?.any (routesItself ctx) ∧ r = h n := by
        split <;> simp_all
      rw [expectedRouted_succ, expectedDerived_succ, vectorRefs_append, List.mem_append,
        mem_expectedRouted, List.mem_append, List.mem_append, Nat.exists_lt_succ, own]
      constructor
      · rintro ((before | derived) | derivedHere | routedHere)
        exacts [.inl (.inl before), .inr (.inl derived), .inr (.inr derivedHere),
          .inl (.inr routedHere)]
      · rintro ((before | routedHere) | derived | derivedHere)
        exacts [.inl (.inl before), .inr (.inr routedHere), .inl (.inr derived),
          .inr (.inl derivedHere)]

end Pass

section Call

variable (ctx : FillContext) (ops : List OplogEntry)

/-- What `flushAll` returns after the pass over `ops`: the tracker has been given the
entries the pass did not skip. -/
def expectedFlushed : List OplogEntry :=
  ctx.flushAll (ops.filter fun op => !decide (op.opTime ≤ ctx.options.beginApplyingOpTime))

/-- The derived lists a `fillWriterVectors` call over `ops` appends, in order. First come
those of the pass over the batch. Then, unless `flushAll` returns nothing, come the flushed
session updates and the lists of the pass over them. -/
def expectedFillDerived : List (List OplogEntry) :=
  expectedDerived ctx true ops ops.length ++
    if (expectedFlushed ctx ops).isEmpty then []
    else expectedFlushed ctx ops ::
      expectedDerived ctx false (expectedFlushed ctx ops) (expectedFlushed ctx ops).length

/-- The routing order of a `fillWriterVectors` call over `ops` whose derived vectors are
numbered from `start`. It is that of the pass over the batch, then that of the pass over
the flushed session updates, whose handles point into the vector after the first pass's
vectors. -/
def expectedFillRouted (start : Nat) : List OpRef :=
  let flushVector := start + (expectedDerived ctx true ops ops.length).length
  expectedRouted ctx true ops .batch start ops.length ++
    if (expectedFlushed ctx ops).isEmpty then []
    else expectedRouted ctx false (expectedFlushed ctx ops) (.derived flushVector)
      (flushVector + 1) (expectedFlushed ctx ops).length

/-- The handles a `fillWriterVectors` call over `ops` routes, its derived vectors numbered
from `start`. They are the batch entries that route themselves, every op of each list the
pass over the batch derives, the flushed session updates that route themselves, and every
op of each list the pass over them derives. -/
def selects (start : Nat) : OpRef → Bool
  | .batch i => ops[i]?.any (routesItself ctx)
  | .derived k j =>
      let first := expectedDerived ctx true ops ops.length
      let flushed := expectedFlushed ctx ops
      let flushVector := start + first.length
      (decide (start ≤ k) && first[k - start]?.any fun l => decide (j < l.length)) ||
        (k == flushVector && flushed[j]?.any (routesItself ctx)) ||
        (decide (flushVector < k) &&
          (expectedDerived ctx false flushed flushed.length)[k - (flushVector + 1)]?.any
            fun l => decide (j < l.length))

/-- The expected routing order holds exactly the handles `selects` names. -/
theorem mem_expectedFillRouted {start : Nat} {r : OpRef} :
    r ∈ expectedFillRouted ctx ops start ↔ selects ctx ops start r := by
  unfold expectedFillRouted
  cases r with
  | batch i =>
      split <;> simpa [mem_expectedRouted, batch_not_mem_vectorRefs, selects] using
        @lt_length_of_any _ ops (routesItself ctx) i
  | derived k j =>
      have own : ∀ (vector : Nat) (flushed : List OplogEntry),
          (∃ i < flushed.length, flushed[i]?.any (routesItself ctx) ∧ k = vector ∧ j = i) ↔
            k = vector ∧ flushed[j]?.any (routesItself ctx) := fun _ _ =>
        ⟨fun ⟨_, _, routes, same, index⟩ => ⟨same, index ▸ routes⟩,
          fun ⟨same, routes⟩ => ⟨j, lt_length_of_any routes, routes, same, rfl⟩⟩
      split
      case isTrue nothing =>
        simp [List.isEmpty_iff.mp nothing, mem_expectedRouted, derived_mem_vectorRefs, selects]
      case isFalse something =>
        simp [something, mem_expectedRouted, derived_mem_vectorRefs, selects, own,
          Nat.add_one_le_iff, or_assoc]

end Call

end SyncTail
