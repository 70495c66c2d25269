import SyncTail.FillWriterVectors.Expected
import SyncTail.FillWriterVectors.Sessions

/-!
# The code's pass is the expected pass

`Appends st st' lists` says that a change from `st` to `st'` appends the derived vectors
`lists`. `appends_deriveStep` says that one step of the loop appends what `entryDerived`
names: the tracker's answer, then the entry's replacement, read from the buffered entries
the store holds.

`PassAt` is the invariant of a pass over a vector of entries, through the handles `h`,
once it has reached entry `i`:
* each session's list holds the handles at `bufferedPositions`, and each still points to
  its entry;
* the tracker has been given `trackedBefore`;
* the pass has appended `expectedDerived` and routed `expectedRouted`.

`PassAt.step` keeps it over one step. `deriveLoop_passAt` proves it by induction over the
entries, and `fillWriterVectors_expected` composes the two passes of a call.

The two guarantees of the partition follow, stated against the expected lists.
`fillWriterVectors_routes_selected_once` says that the store holds the expected derived
lists up to capped marks. It also says that every handle `selects` names is in exactly one
writer vector, once, and that nothing else is. `fillWriterVectors_same_document_order` says
that two CRUD ops on one document share a vector. After `stableSortByNamespace` they stand
there in the expected routing order.
-/

namespace SyncTail

/-- A change from `st` to `st'` appends the derived vectors `lists`. The record of produced
vectors grows by `lists`, and the store by vectors of their lengths. -/
structure Appends (st st' : FillState) (lists : List (List OplogEntry)) : Prop where
  produced_eq : st'.produced = st.produced ++ lists
  lengths_eq : derivedLengths st'.store = derivedLengths st.store ++ lists.map List.length

section Appends

variable {st mid st' : FillState}

theorem Appends.frame (produced : st'.produced = st.produced)
    (lengths : derivedLengths st'.store = derivedLengths st.store) : Appends st st' [] :=
  ⟨by simp [produced], by simp [lengths]⟩

theorem Appends.trans {lists more : List (List OplogEntry)} (first : Appends st mid lists)
    (second : Appends mid st' more) : Appends st st' (lists ++ more) :=
  ⟨by rw [second.produced_eq, first.produced_eq, List.append_assoc],
    by rw [second.lengths_eq, first.lengths_eq, List.map_append, List.append_assoc]⟩

/-- What is appended depends on the start only through the record of produced vectors and
the store. -/
theorem Appends.of_eq_left {lists : List (List OplogEntry)} (appends : Appends mid st' lists)
    (produced : mid.produced = st.produced) (store : mid.store = st.store) :
    Appends st st' lists :=
  ⟨produced ▸ appends.produced_eq, store ▸ appends.lengths_eq⟩

/-- Over derived vectors of the lengths of `lists` appended to the store, the handles from
the first new vector on are those `vectorRefs` lists. -/
theorem derivedRefsFrom_append_map_length (lengths : List Nat) :
    ∀ lists : List (List OplogEntry),
      derivedRefsFrom (lengths ++ lists.map List.length) lengths.length =
        vectorRefs lengths.length lists
  | [] => by simp [derivedRefsFrom_length, vectorRefs]
  | ops :: rest => by
      have split := @derivedRefsFrom_append (lengths ++ [ops.length]) lengths.length (by simp)
        (rest.map List.length)
      have later := derivedRefsFrom_append_map_length (lengths ++ [ops.length]) rest
      rw [List.length_append, List.length_singleton] at split later
      rw [derivedRefsFrom_singleton] at split
      rw [List.map_cons, ← List.singleton_append, ← List.append_assoc, split, later, vectorRefs]

end Appends

section Pieces

variable (ctx : FillContext)

theorem appends_emplaceDerivedOps (ops : List OplogEntry) (st : FillState) :
    Appends st (emplaceDerivedOps ctx ops st) [ops] :=
  ⟨by simp [emplaceDerivedOps], by simp [emplaceDerivedOps_derivedLengths]⟩

theorem appends_trackSession (op : OplogEntry) (st : FillState) :
    Appends st (trackSession ctx op st) (ctx.updateSession st.sessionOps op).toList := by
  dsimp only [trackSession]
  split
  · rename_i newOplogWrites answered
    rw [answered]
    exact (appends_emplaceDerivedOps ctx newOplogWrites _).of_eq_left rfl rfl
  · rename_i answered
    rw [answered]
    exact Appends.frame rfl rfl

/-- The loop body after the tracker appends `op`'s replacement, read from the buffered
entries that `st`'s store holds. -/
theorem appends_routeEntry {ref : OpRef} {op : OplogEntry} {st st' : FillState}
    (stepped : routeEntry ctx ref op st = .ok st') :
    Appends st st' (replacement ctx (fun S => (st.partialTxnOps S).filterMap st.store.get?) op) := by
  rcases routeEntry_cases ctx stepped with
    ⟨buffered, bufferedOk⟩ | ⟨-, notTerminal, notPrepared, aborted, abortedOk, rfl⟩ |
      ⟨sessionId, sessionFound, materialized, rfl⟩ | ⟨terminal, notBoth, -, rfl⟩
  · obtain ⟨_, _, rfl⟩ := bufferPartialTxn_eq bufferedOk
    have notTerminal : op.isTerminalApplyOps = false := by
      cases terminal : op.isTerminalApplyOps
      · rfl
      · simp [not_isBuffered_of_isTerminalApplyOps ctx terminal] at buffered
    rw [replacement, if_neg (by simp [not_materializes_of_isBuffered ctx buffered]),
      if_neg (by simp [notTerminal])]
    exact Appends.frame rfl rfl
  · obtain ⟨_, rfl⟩ := abortPartialTxn_frame abortedOk
    rw [replacement, if_neg (by simp [not_materializes_of_routed ctx notTerminal notPrepared]),
      if_neg notTerminal]
    exact Appends.frame (by simp) (processIfCrud_derivedLengths ctx ref op _)
  · rw [replacement, if_pos materialized, sessionFound]
    exact (appends_emplaceDerivedOps ctx _ _).of_eq_left rfl rfl
  · rw [replacement, if_neg (by simp [not_materializes_of_extracted ctx terminal notBoth]),
      if_pos terminal]
    exact appends_emplaceDerivedOps ctx (ctx.extractOperations op) st

/-- A step that buffers its entry leaves the entry's op as it is. -/
theorem deriveStep_get?_of_isBuffered {trackSessions : Bool} {st st' : FillState} {ref : OpRef}
    {op : OplogEntry} (found : st.store.get? ref = some op) (buffered : isBuffered ctx op)
    (stepped : deriveStep ctx trackSessions st ref = .ok st') : st'.store.get? ref = some op := by
  rw [deriveStep_of_get? ctx found] at stepped
  split at stepped
  · cases stepped
    exact found
  · have tracked : (if trackSessions then trackSession ctx op st else st).store.get? ref = some op := by
      split
      · rw [trackSession_get?_of_isSome ctx (by simp [found]) op, found]
      · exact found
    unfold routeEntry at stepped
    rw [if_pos buffered] at stepped
    obtain ⟨_, _, rfl⟩ := bufferPartialTxn_eq stepped
    exact tracked

/-- One step appends what `entryDerived` names, given the tracker's input and the buffered
entries the store holds. -/
theorem appends_deriveStep {trackSessions : Bool} {st st' : FillState} {ref : OpRef}
    {op : OplogEntry} (found : st.store.get? ref = some op)
    (partialFound : ∀ S, ∀ r ∈ st.partialTxnOps S, (st.store.get? r).isSome)
    (stepped : deriveStep ctx trackSessions st ref = .ok st') :
    Appends st st' (entryDerived ctx trackSessions st.sessionOps
      (fun S => (st.partialTxnOps S).filterMap st.store.get?) op) := by
  rw [deriveStep_of_get? ctx found] at stepped
  split at stepped
  · rename_i below
    cases stepped
    rw [entryDerived, if_pos below]
    exact Appends.frame rfl rfl
  rename_i above
  set tracked := if trackSessions then trackSession ctx op st else st
  have trackedAppends : Appends st tracked
      (if trackSessions then (ctx.updateSession st.sessionOps op).toList else []) := by
    simp only [tracked]
    split
    · exact appends_trackSession ctx op st
    · exact Appends.frame rfl rfl
  have sameEntries : (fun S => (tracked.partialTxnOps S).filterMap tracked.store.get?) =
      fun S => (st.partialTxnOps S).filterMap st.store.get? := by
    funext S
    have lists : tracked.partialTxnOps = st.partialTxnOps := by
      simp only [tracked]; split <;> simp
    rw [lists]
    refine List.filterMap_congr fun r mem => ?_
    simp only [tracked]
    split
    · exact trackSession_get?_of_isSome ctx (partialFound S r mem) op
    · rfl
  have routed := appends_routeEntry ctx stepped
  rw [sameEntries] at routed
  simpa [entryDerived, above] using trackedAppends.trans routed

end Pieces

section Run

variable (ctx : FillContext) (trackSessions : Bool) (entries : List OplogEntry) (h : Nat → OpRef)

/-- What a pass over `entries`, through the handles `h`, from `st₀` has done once it has
reached entry `i`. -/
structure PassAt (st₀ st : FillState) (i : Nat) : Prop where
  partialTxnOps_eq : ∀ S, st.partialTxnOps S = (bufferedPositions ctx entries S i).map h
  buffered_found : ∀ S, ∀ j ∈ bufferedPositions ctx entries S i, st.store.get? (h j) = entries[j]?
  sessionOps_eq : trackSessions → st.sessionOps = trackedBefore ctx entries i
  appends : Appends st₀ st (expectedDerived ctx trackSessions entries i)
  routed_eq : st.routed =
    st₀.routed ++ expectedRouted ctx trackSessions entries h st₀.store.derivedOps.length i
  agrees : CachedCollectionProperties.Agrees ctx.databaseHolder st.collPropertiesCache

variable {ctx trackSessions entries h}

/-- A pass starts with fresh lists, with a tracker that has been given nothing, and with a
cache of the catalog's answers. -/
theorem PassAt.start {st₀ : FillState} (fresh : ∀ S, st₀.partialTxnOps S = [])
    (untracked : trackSessions → st₀.sessionOps = [])
    (agrees : CachedCollectionProperties.Agrees ctx.databaseHolder st₀.collPropertiesCache) :
    PassAt ctx trackSessions entries h st₀ st₀ 0 :=
  ⟨fun S => by simp [fresh, bufferedPositions], by simp [bufferedPositions],
    fun tracking => by simp [untracked tracking, trackedBefore], Appends.frame rfl rfl,
    by simp, agrees⟩

/-- The handles a pass has buffered point into the store. -/
theorem PassAt.buffered_isSome {st₀ st : FillState} {i : Nat}
    (pass : PassAt ctx trackSessions entries h st₀ st i) {S : LogicalSessionId} {j : Nat}
    (mem : j ∈ bufferedPositions ctx entries S i) : (st.store.get? (h j)).isSome := by
  rw [pass.buffered_found S j mem]
  exact isSome_getElem?_iff.mpr (lt_length_of_mem_bufferedPositions ctx entries mem)

theorem PassAt.partialTxnOps_isSome {st₀ st : FillState} {i : Nat}
    (pass : PassAt ctx trackSessions entries h st₀ st i) :
    ∀ S, ∀ r ∈ st.partialTxnOps S, (st.store.get? r).isSome := by
  intro S r mem
  rw [pass.partialTxnOps_eq] at mem
  obtain ⟨j, buffered, rfl⟩ := List.mem_map.mp mem
  exact pass.buffered_isSome buffered

/-- The ops a session's handles point to are the entries the session buffered. -/
theorem PassAt.partialTxnEntries_eq {st₀ st : FillState} {i : Nat}
    (pass : PassAt ctx trackSessions entries h st₀ st i) (S : LogicalSessionId) :
    (st.partialTxnOps S).filterMap st.store.get? = partialTxnEntries ctx entries S i := by
  rw [pass.partialTxnOps_eq, List.filterMap_map, partialTxnEntries]
  exact List.filterMap_congr fun j mem => pass.buffered_found S j mem

theorem PassAt.derivedOps_length {st₀ st : FillState} {i : Nat}
    (pass : PassAt ctx trackSessions entries h st₀ st i) :
    st.store.derivedOps.length =
      st₀.store.derivedOps.length + (expectedDerived ctx trackSessions entries i).length := by
  simpa [derivedLengths_length] using congrArg List.length pass.appends.lengths_eq

/-- The step at entry `i` appends the lists `derivedAt` names. -/
theorem PassAt.appends_step {st₀ mid st' : FillState} {i : Nat} {op : OplogEntry}
    (pass : PassAt ctx trackSessions entries h st₀ mid i)
    (found : mid.store.get? (h i) = some op) (entry : entries[i]? = some op)
    (stepped : deriveStep ctx trackSessions mid (h i) = .ok st') :
    Appends mid st' (derivedAt ctx trackSessions entries i) := by
  have tracker : entryDerived ctx trackSessions mid.sessionOps (partialTxnEntries ctx entries · i)
      op = derivedAt ctx trackSessions entries i := by
    cases trackSessions with
    | false => simpa [derivedAt, entry] using entryDerived_untracked ctx _ _ _ op
    | true => simp [derivedAt, entry, pass.sessionOps_eq rfl]
  simpa only [pass.partialTxnEntries_eq, tracker] using
    appends_deriveStep ctx found pass.partialTxnOps_isSome stepped

/-- One more step, at a handle that points to entry `i` and to no entry before it, keeps the
invariant. -/
theorem PassAt.step {st₀ mid st' : FillState} {i : Nat} {op : OplogEntry}
    (pass : PassAt ctx trackSessions entries h st₀ mid i) (injective : Function.Injective h)
    (found : mid.store.get? (h i) = some op) (entry : entries[i]? = some op)
    (stepped : deriveStep ctx trackSessions mid (h i) = .ok st') :
    PassAt ctx trackSessions entries h st₀ st' (i + 1) := by
  have stepAppends := pass.appends_step found entry stepped
  have grows := grows_deriveStep ctx pass.agrees found stepped
  have kept : ∀ S, ∀ j ∈ bufferedPositions ctx entries S i, st'.store.get? (h j) = entries[j]? :=
    fun S j old => by
      rw [deriveStep_get?_of_ne ctx stepped (pass.buffered_isSome old)
        (injective.ne (Nat.ne_of_lt (lt_of_mem_bufferedPositions ctx entries old))),
        pass.buffered_found S j old]
  refine ⟨fun S => ?_, fun S j mem => ?_, fun tracking => ?_, ?_, ?_, grows.agrees⟩
  · rw [deriveStep_partialTxnOps ctx found stepped, pass.partialTxnOps_eq,
      bufferedPositions_succ, entry]
    split_ifs <;> simp_all
  · rw [bufferedPositions_succ, entry] at mem
    simp only [Option.any_some] at mem
    split_ifs at mem with clears buffers
    · cases mem
    · rcases List.mem_append.mp mem with old | new
      · exact kept S j old
      · rw [List.mem_singleton.mp new, entry]
        exact deriveStep_get?_of_isBuffered ctx found
          (Bool.and_eq_true_iff.mp (Bool.and_eq_true_iff.mp buffers).1).2 stepped
    · exact kept S j mem
  · rw [deriveStep_sessionOps ctx stepped, pass.sessionOps_eq tracking, found, trackedBefore,
      trackedBefore, List.take_succ, entry, List.filter_append]
    by_cases below : op.opTime ≤ ctx.options.beginApplyingOpTime <;>
      simp [below, tracking, Option.filter_some]
  · rw [expectedDerived_succ]
    exact pass.appends.trans stepAppends
  · rw [grows.routed_eq, pass.routed_eq, expectedRouted_succ, newRefs, stepAppends.lengths_eq,
      ← derivedLengths_length mid.store, derivedRefsFrom_append_map_length, derivedLengths_length,
      pass.derivedOps_length, entry, Option.any_some, List.append_assoc]

/-- A pass over the first `i` entries keeps the invariant, when its handles `h` point in the
starting store to the entries, one each. -/
theorem deriveLoop_passAt {st₀ st : FillState} {i : Nat}
    (start : PassAt ctx trackSessions entries h st₀ st₀ 0) (injective : Function.Injective h)
    (over : ∀ j < entries.length, st₀.store.get? (h j) = entries[j]?) (inside : i ≤ entries.length)
    (ran : deriveLoop ctx trackSessions ((List.range i).map h) st₀ = .ok st) :
    PassAt ctx trackSessions entries h st₀ st i := by
  induction i generalizing st with
  | zero =>
      cases ran
      exact start
  | succ i ih =>
      obtain ⟨mid, prefixRan, stepped⟩ := deriveLoop_range_succ ctx ran
      have below : i < entries.length := by omega
      have entry : entries[i]? = some entries[i] := List.getElem?_eq_getElem below
      have found : mid.store.get? (h i) = some entries[i] := by
        rw [deriveLoop_get?_of_not_mem ctx prefixRan (by simp [over i below, entry])
          (by simp [injective.eq_iff]), over i below, entry]
      exact (ih (by omega) prefixRan).step injective found entry stepped

end Run

section Call

variable (ctx : FillContext)

/-- A `fillWriterVectors` call appends exactly the expected derived lists after those it is
given, and routes handles in exactly the expected order. -/
theorem fillWriterVectors_expected {ops : List OplogEntry} {writerVectors : WriterVectors}
    {derivedOps : List (List OplogEntry)} {st' : FillState}
    (ran : fillWriterVectors ctx (FillState.init ops writerVectors derivedOps) = .ok st') :
    st'.produced = derivedOps ++ expectedFillDerived ctx ops ∧
      st'.routed = expectedFillRouted ctx ops derivedOps.length := by
  rw [fillWriterVectors_init] at ran
  cases first : deriveOpsAndFillWriterVectors ctx true (batchRefs ops.length)
      (FillState.init ops writerVectors derivedOps) with
  | error failure => rw [first] at ran; cases ran
  | ok mid =>
  rw [first] at ran
  simp only [bind, Except.bind] at ran
  have batchPass : PassAt ctx true ops .batch
      { FillState.init ops writerVectors derivedOps with
        partialTxnOps := fun _ => [], collPropertiesCache := {} } mid ops.length :=
    deriveLoop_passAt (PassAt.start (fun _ => rfl) (fun _ => rfl)
      (CachedCollectionProperties.agrees_empty _)) (fun _ _ same => OpRef.batch.inj same)
      (fun _ _ => rfl) le_rfl first
  have flushed : ctx.flushAll mid.sessionOps = expectedFlushed ctx ops := by
    rw [batchPass.sessionOps_eq rfl, trackedBefore, List.take_length]
    rfl
  split at ran
  case isTrue nothing =>
    cases ran
    rw [flushed] at nothing
    simp [expectedFillDerived, expectedFillRouted, nothing, batchPass.appends.produced_eq,
      batchPass.routed_eq, FillState.init]
  case isFalse something =>
    rw [flushed] at something ran
    have flushPass : PassAt ctx false (expectedFlushed ctx ops) (.derived mid.store.derivedOps.length)
        { { mid with
            store := mid.store.emplaceBack (expectedFlushed ctx ops)
            produced := mid.produced ++ [expectedFlushed ctx ops] } with
          partialTxnOps := fun _ => [], collPropertiesCache := {} }
        st' (expectedFlushed ctx ops).length :=
      deriveLoop_passAt (PassAt.start (fun _ => rfl) (fun untracked => nomatch untracked)
        (CachedCollectionProperties.agrees_empty _)) (fun _ _ same => (OpRef.derived.inj same).2)
        (fun j _ => OpStore.get?_emplaceBack_new _ _ j) le_rfl ran
    simp [expectedFillDerived, expectedFillRouted, something, flushPass.appends.produced_eq,
      flushPass.routed_eq, batchPass.appends.produced_eq, batchPass.routed_eq,
      batchPass.derivedOps_length, FillState.init]

/-- `MarkedFrom` holds every op of the original store, unchanged or marked. -/
theorem MarkedFrom.extends {orig store : OpStore} {routed : List OpRef}
    (marked : MarkedFrom ctx orig store routed) : orig.Extends store := by
  intro x op found
  rcases marked x with same | ⟨op', found', set, -, -⟩
  · exact .inl (same.trans found)
  · rw [found, Option.some.injEq] at found'
    exact .inr (found' ▸ set)

theorem refNss_of_extends_get? {orig store : OpStore} (ext : orig.Extends store) {x : OpRef}
    {op : OplogEntry} (found : orig.get? x = some op) : refNss store x = op.nss := by
  rcases ext x op found with same | marked <;> simp [refNss, *]

/-- Each handle `selects` names is in exactly one writer vector, once, and no other handle is
in any. The store holds the batch and, after the derived vectors it was given, the expected
derived lists. Each op is as its producer returned it or, if it is a routed insert into a
capped collection, has the capped mark set. -/
theorem fillWriterVectors_routes_selected_once {ops : List OplogEntry}
    {writerVectors : WriterVectors} {derivedOps : List (List OplogEntry)} {st' : FillState}
    (empty : ∀ v ∈ writerVectors.vectors, v = [])
    (ran : fillWriterVectors ctx (FillState.init ops writerVectors derivedOps) = .ok st') :
    MarkedFrom ctx ⟨ops, derivedOps ++ expectedFillDerived ctx ops⟩ st'.store
        (expectedFillRouted ctx ops derivedOps.length) ∧
      ∀ r, st'.writerVectors.vectors.flatten.count r =
        if selects ctx ops derivedOps.length r then 1 else 0 := by
  obtain ⟨produced, routed⟩ := fillWriterVectors_expected ctx ran
  have inv := fillWriterVectors_routes ctx ran
  have marks := ((CappedInv.initial ops writerVectors derivedOps).fillWriterVectors ran).marked
  rw [produced, routed] at marks
  refine ⟨marks, fun r => ?_⟩
  rw [inv.flatten_perm.count_eq, List.count_append, List.flatten_eq_nil_iff.mpr empty,
    List.count_nil, Nat.zero_add]
  by_cases selected : selects ctx ops derivedOps.length r
  · rw [if_pos selected, List.count_eq_one_of_mem inv.routed_nodup
      (routed ▸ (mem_expectedFillRouted ctx ops).mpr selected)]
  · rw [if_neg selected, List.count_eq_zero_of_not_mem
      fun mem => selected ((mem_expectedFillRouted ctx ops).mp (routed ▸ mem))]

theorem fillWriterVectors_routes_selected_once_sampleTxnBatch :
    (∀ v ∈ sampleWriters.vectors, v = []) ∧
      ∃ st', fillWriterVectors (sampleContext .kSecondary)
          (FillState.init sampleTxnBatch sampleWriters []) = .ok st' ∧
        MarkedFrom (sampleContext .kSecondary)
            ⟨sampleTxnBatch, expectedFillDerived (sampleContext .kSecondary) sampleTxnBatch⟩ st'.store
            (expectedFillRouted (sampleContext .kSecondary) sampleTxnBatch 0) ∧
          ∀ r, st'.writerVectors.vectors.flatten.count r =
            if selects (sampleContext .kSecondary) sampleTxnBatch 0 r then 1 else 0 := by
  have empty : ∀ v ∈ sampleWriters.vectors, v = [] := by decide
  obtain ⟨st', ran⟩ : ∃ st', fillWriterVectors (sampleContext .kSecondary)
      (FillState.init sampleTxnBatch sampleWriters []) = .ok st' := ⟨_, rfl⟩
  exact ⟨empty, st', ran, fillWriterVectors_routes_selected_once (sampleContext .kSecondary) empty ran⟩

/-- Two CRUD ops on the same document that the call routes are in one writer vector. After
the `stableSortByNamespace` of `multiSyncApply`, the first comes before the second there
exactly when it comes first in the expected routing order. -/
theorem fillWriterVectors_same_document_order {ops : List OplogEntry}
    {writerVectors : WriterVectors} {derivedOps : List (List OplogEntry)} {st' : FillState}
    (empty : ∀ v ∈ writerVectors.vectors, v = [])
    (ran : fillWriterVectors ctx (FillState.init ops writerVectors derivedOps) = .ok st')
    {a b : OpRef} {opA opB : OplogEntry}
    (routedA : a ∈ expectedFillRouted ctx ops derivedOps.length)
    (routedB : b ∈ expectedFillRouted ctx ops derivedOps.length) (distinct : a ≠ b)
    (foundA : (OpStore.mk ops (derivedOps ++ expectedFillDerived ctx ops)).get? a = some opA)
    (foundB : (OpStore.mk ops (derivedOps ++ expectedFillDerived ctx ops)).get? b = some opB)
    (crudA : opA.isCrudOpType) (crudB : opB.isCrudOpType) (same : sameDocument ctx opA opB) :
    ∃ (w : Nat) (v : List OpRef), st'.writerVectors.vectors[w]? = some v ∧ a ∈ v ∧ b ∈ v ∧
      ([a, b].Sublist (stableSortByNamespace (refNss st'.store) v) ↔
        [a, b].Sublist (expectedFillRouted ctx ops derivedOps.length)) := by
  obtain ⟨produced, routed⟩ := fillWriterVectors_expected ctx ran
  have inv := fillWriterVectors_routes ctx ran
  have marks := ((CappedInv.initial ops writerVectors derivedOps).fillWriterVectors ran).marked
  rw [produced] at marks
  have ext := MarkedFrom.extends ctx marks
  rw [← routed] at routedA routedB ⊢
  set w := writerOf writerVectors.vectors.length (routingHash ctx opA)
  have inside : w < writerVectors.vectors.length :=
    writerOf_lt writerVectors.numWriters_ne_zero _
  have routesA : routesTo ctx st'.store writerVectors.vectors.length w a := by
    rw [routesTo_of_extends ctx ext (Option.isSome_iff_exists.mpr ⟨_, foundA⟩),
      routesTo_of_get? ctx foundA]
    simp [w]
  have routesB : routesTo ctx st'.store writerVectors.vectors.length w b := by
    rw [routesTo_of_extends ctx ext (Option.isSome_iff_exists.mpr ⟨_, foundB⟩),
      routesTo_of_get? ctx foundB]
    simp [w, routingHash_eq_of_sameDocument ctx crudA crudB same]
  have vector := inv.vectors_eq w
  rw [List.getElem?_eq_getElem inside, empty _ (List.getElem_mem inside)] at vector
  set v := st'.routed.filter (routesTo ctx st'.store writerVectors.vectors.length w)
  have memA : a ∈ v := List.mem_filter.mpr ⟨routedA, routesA⟩
  have memB : b ∈ v := List.mem_filter.mpr ⟨routedB, routesB⟩
  refine ⟨w, v, by simpa using vector, memA, memB, ?_⟩
  rw [pair_sublist_stableSortByNamespace_iff (refNss st'.store) (inv.routed_nodup.filter _)
    (by rw [refNss_of_extends_get? ext foundA, refNss_of_extends_get? ext foundB, same.1])
    distinct memA memB]
  exact pair_sublist_filter_iff routesA routesB

/-- The two inserts of document `a` keep their order in their worker's sorted vector. -/
theorem fillWriterVectors_same_document_order_sampleInserts :
    (∀ v ∈ sampleWriters.vectors, v = []) ∧
      ∃ st', fillWriterVectors (sampleContext .kSecondary)
          (FillState.init sampleInserts sampleWriters []) = .ok st' ∧
        OpRef.batch 0 ∈ expectedFillRouted (sampleContext .kSecondary) sampleInserts 0 ∧
        OpRef.batch 2 ∈ expectedFillRouted (sampleContext .kSecondary) sampleInserts 0 ∧
        OpRef.batch 0 ≠ .batch 2 ∧
        (OpStore.mk sampleInserts (expectedFillDerived (sampleContext .kSecondary) sampleInserts)).get?
          (.batch 0) = some (insertEntry "a" 1) ∧
        (OpStore.mk sampleInserts (expectedFillDerived (sampleContext .kSecondary) sampleInserts)).get?
          (.batch 2) = some (insertEntry "a" 3) ∧
        (insertEntry "a" 1).isCrudOpType ∧ (insertEntry "a" 3).isCrudOpType ∧
        sameDocument (sampleContext .kSecondary) (insertEntry "a" 1) (insertEntry "a" 3) ∧
        ∃ (w : Nat) (v : List OpRef), st'.writerVectors.vectors[w]? = some v ∧
          OpRef.batch 0 ∈ v ∧ OpRef.batch 2 ∈ v ∧
          ([OpRef.batch 0, .batch 2].Sublist (stableSortByNamespace (refNss st'.store) v) ↔
            [OpRef.batch 0, .batch 2].Sublist
              (expectedFillRouted (sampleContext .kSecondary) sampleInserts 0)) := by
  have empty : ∀ v ∈ sampleWriters.vectors, v = [] := by decide
  obtain ⟨st', ran⟩ : ∃ st', fillWriterVectors (sampleContext .kSecondary)
      (FillState.init sampleInserts sampleWriters []) = .ok st' := ⟨_, rfl⟩
  have routed : expectedFillRouted (sampleContext .kSecondary) sampleInserts 0 =
      [.batch 0, .batch 1, .batch 2] := by decide
  have same : sameDocument (sampleContext .kSecondary) (insertEntry "a" 1) (insertEntry "a" 3) :=
    ⟨rfl, fun _ => by decide⟩
  have routed0 : OpRef.batch 0 ∈ expectedFillRouted (sampleContext .kSecondary) sampleInserts 0 := by
    simp [routed]
  have routed2 : OpRef.batch 2 ∈ expectedFillRouted (sampleContext .kSecondary) sampleInserts 0 := by
    simp [routed]
  exact ⟨empty, st', ran, routed0, routed2, by decide, rfl, rfl, rfl, rfl, same,
    fillWriterVectors_same_document_order (sampleContext .kSecondary) empty ran routed0 routed2
      (by decide) rfl rfl rfl rfl same⟩

end Call

end SyncTail
