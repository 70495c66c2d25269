import SyncTail.FillWriterVectors.Capped

/-!
# The session-update tracker's input

`_deriveOpsAndFillWriterVectors` hands every entry it does not skip to
`SessionUpdateTracker::updateSession` before it looks at the entry's role, so buffered
transaction entries, aborts and `applyOps` entries are tracked too. Derived ops are never
tracked: `addDerivedOps` routes them directly, and the second pass of `fillWriterVectors`,
over what the tracker flushes, runs without a tracker.

`fillWriterVectors_tracks_batch` says so over a whole call: when `flushAll` is called, the
tracker has been given exactly the batch entries above `beginApplyingOpTime`, each once, in
batch order and as the batch holds them, before `processCrudOp` marks any of them; the
second pass gives it nothing. The last point rests on a frame lemma,
`deriveLoop_get?_of_not_mem`: a pass changes no stored op at a handle it has not reached.
-/

namespace SyncTail

section Frame

variable (ctx : FillContext)

theorem processIfCrud_sessionOps (ref : OpRef) (op : OplogEntry) (st : FillState) :
    (processIfCrud ctx ref op st).2.sessionOps = st.sessionOps := by
  unfold processIfCrud; split <;> rfl

theorem emplaceDerivedOps_sessionOps (ops : List OplogEntry) (st : FillState) :
    (emplaceDerivedOps ctx ops st).sessionOps = st.sessionOps := by
  simp [emplaceDerivedOps]

theorem trackSession_sessionOps (op : OplogEntry) (st : FillState) :
    (trackSession ctx op st).sessionOps = st.sessionOps ++ [op] := by
  dsimp only [trackSession]
  split
  · exact emplaceDerivedOps_sessionOps ctx _ _
  · rfl

/-- The loop body after the tracker leaves the tracker's input as it is. -/
theorem routeEntry_sessionOps {ref : OpRef} {op : OplogEntry} {st st' : FillState}
    (stepped : routeEntry ctx ref op st = .ok st') : st'.sessionOps = st.sessionOps := by
  rcases routeEntry_cases ctx stepped with
    ⟨-, buffered⟩ | ⟨-, -, -, aborted, abortedOk, rfl⟩ | ⟨sessionId, -, -, rfl⟩ | ⟨-, -, -, rfl⟩
  · obtain ⟨_, _, rfl⟩ := bufferPartialTxn_eq buffered
    rfl
  · obtain ⟨_, rfl⟩ := abortPartialTxn_frame abortedOk
    exact processIfCrud_sessionOps ctx _ _ _
  · exact emplaceDerivedOps_sessionOps ctx _ _
  · exact emplaceDerivedOps_sessionOps ctx _ _

/-- The loop body changes no stored op but `ref`'s. -/
theorem routeEntry_get?_of_ne {ref x : OpRef} {op : OplogEntry} {st st' : FillState}
    (stepped : routeEntry ctx ref op st = .ok st') (found : (st.store.get? x).isSome)
    (other : x ≠ ref) : st'.store.get? x = st.store.get? x := by
  rcases routeEntry_cases ctx stepped with
    ⟨-, buffered⟩ | ⟨-, -, -, aborted, abortedOk, rfl⟩ | ⟨sessionId, -, -, rfl⟩ | ⟨-, -, -, rfl⟩
  · obtain ⟨_, _, rfl⟩ := bufferPartialTxn_eq buffered
    rfl
  · obtain ⟨_, rfl⟩ := abortPartialTxn_frame abortedOk
    exact route_get?_of_ne ctx other op
  · exact @emplaceDerivedOps_get?_of_isSome ctx
      { clearPartialTxn sessionId st with txnReads := st.txnReads ++ [(ref, st.partialTxnOps sessionId)] }
      x found _
  · exact emplaceDerivedOps_get?_of_isSome ctx found _

end Frame

section Run

variable (ctx : FillContext)

/-- A step gives the tracker the entry `ref` points to when it tracks sessions and the entry
is above the floor, and nothing otherwise. -/
theorem deriveStep_sessionOps {trackSessions : Bool} {st st' : FillState} {ref : OpRef}
    (stepped : deriveStep ctx trackSessions st ref = .ok st') :
    st'.sessionOps = st.sessionOps ++
      ((st.store.get? ref).filter fun op =>
        trackSessions && !decide (op.opTime ≤ ctx.options.beginApplyingOpTime)).toList := by
  unfold deriveStep at stepped
  split at stepped
  · rename_i missing
    cases stepped
    simp [missing]
  · rename_i op found
    split at stepped
    · rename_i below
      cases stepped
      simp [found, below, Option.filter_some]
    · rename_i above
      rw [routeEntry_sessionOps ctx stepped]
      cases trackSessions <;> simp [found, above, trackSession_sessionOps, Option.filter_some]

/-- A step changes no stored op at another handle. -/
theorem deriveStep_get?_of_ne {trackSessions : Bool} {st st' : FillState} {ref x : OpRef}
    (stepped : deriveStep ctx trackSessions st ref = .ok st') (found : (st.store.get? x).isSome)
    (other : x ≠ ref) : st'.store.get? x = st.store.get? x := by
  unfold deriveStep at stepped
  split at stepped
  · cases stepped
    rfl
  · rename_i op _
    split at stepped
    · cases stepped
      rfl
    · have tracked : (if trackSessions then trackSession ctx op st else st).store.get? x =
          st.store.get? x := by
        split
        · exact trackSession_get?_of_isSome ctx found op
        · rfl
      rw [routeEntry_get?_of_ne ctx stepped (tracked ▸ found) other, tracked]

/-- A pass changes no stored op at a handle it does not visit. -/
theorem deriveLoop_get?_of_not_mem {trackSessions : Bool} {x : OpRef} :
    ∀ {refs : List OpRef} {st st' : FillState}, deriveLoop ctx trackSessions refs st = .ok st' →
      (st.store.get? x).isSome → x ∉ refs → st'.store.get? x = st.store.get? x
  | [], _, _, ran, _, _ => by
      cases ran
      rfl
  | ref :: rest, st, st', ran, found, notVisited => by
      simp only [deriveLoop, bind, Except.bind] at ran
      split at ran
      · cases ran
      · rename_i mid stepped
        have same := deriveStep_get?_of_ne ctx stepped found
          fun visited => notVisited (visited ▸ List.mem_cons_self ref rest)
        rw [deriveLoop_get?_of_not_mem ran (same ▸ found)
          fun visited => notVisited (List.mem_cons_of_mem ref visited), same]

/-- Over the first `i` entries of the batch, a tracking pass gives the tracker the entries
above the floor, in batch order, as the batch holds them. -/
theorem deriveLoop_batch_sessionOps {st₀ st : FillState} {i : Nat}
    (ran : deriveLoop ctx true (batchRefs i) st₀ = .ok st) (inBatch : i ≤ st₀.store.ops.length) :
    st.sessionOps = st₀.sessionOps ++
      (st₀.store.ops.take i).filter fun op => !decide (op.opTime ≤ ctx.options.beginApplyingOpTime) := by
  induction i generalizing st with
  | zero =>
      cases ran
      simp
  | succ i ih =>
      obtain ⟨mid, prefixRan, stepped⟩ := deriveLoop_batchRefs_succ ctx ran
      have inside : i < st₀.store.ops.length := by omega
      have entry : mid.store.get? (.batch i) = some st₀.store.ops[i] := by
        rw [deriveLoop_get?_of_not_mem ctx prefixRan (by simp [OpStore.get?, inside])
          (by simp [mem_batchRefs])]
        exact List.getElem?_eq_getElem inside
      rw [deriveStep_sessionOps ctx stepped, ih prefixRan (by omega), entry, List.append_assoc,
        List.take_succ, List.getElem?_eq_getElem inside, List.filter_append]
      by_cases below : st₀.store.ops[i].opTime ≤ ctx.options.beginApplyingOpTime <;>
        simp [below, Option.filter_some]

/-- A pass without a tracker gives it nothing. -/
theorem deriveLoop_untracked_sessionOps :
    ∀ {refs : List OpRef} {st st' : FillState}, deriveLoop ctx false refs st = .ok st' →
      st'.sessionOps = st.sessionOps
  | [], _, _, ran => by
      cases ran
      rfl
  | ref :: rest, st, st', ran => by
      simp only [deriveLoop, bind, Except.bind] at ran
      split at ran
      · cases ran
      · rename_i mid stepped
        rw [deriveLoop_untracked_sessionOps ran, deriveStep_sessionOps ctx stepped]
        rcases st.store.get? ref with _ | op <;> simp [Option.filter_some]

/-- `fillWriterVectors` gives the session-update tracker exactly the batch entries above
`beginApplyingOpTime`, in batch order and as the batch holds them: that is the tracker's
input when `flushAll` is called after the pass over the batch, and the pass over what it
flushes adds nothing to it. -/
theorem fillWriterVectors_tracks_batch {ops : List OplogEntry} {writerVectors : WriterVectors}
    {derivedOps : List (List OplogEntry)} {st' : FillState}
    (ran : fillWriterVectors ctx (FillState.init ops writerVectors derivedOps) = .ok st') :
    ∃ mid, deriveOpsAndFillWriterVectors ctx true (batchRefs ops.length)
        (FillState.init ops writerVectors derivedOps) = .ok mid ∧
      mid.sessionOps = ops.filter (fun op => !decide (op.opTime ≤ ctx.options.beginApplyingOpTime)) ∧
      st'.sessionOps = mid.sessionOps := by
  rw [fillWriterVectors_init] at ran
  cases first : deriveOpsAndFillWriterVectors ctx true (batchRefs ops.length)
      (FillState.init ops writerVectors derivedOps) with
  | error failure => rw [first] at ran; cases ran
  | ok mid =>
  rw [first] at ran
  simp only [bind, Except.bind] at ran
  refine ⟨mid, rfl, by simpa [FillState.init] using deriveLoop_batch_sessionOps ctx first le_rfl, ?_⟩
  split at ran
  · cases ran
    rfl
  · exact (deriveLoop_untracked_sessionOps ctx ran :)

theorem fillWriterVectors_tracks_batch_sampleTxnBatch :
    ∃ st', fillWriterVectors (sampleContext .kSecondary)
        (FillState.init sampleTxnBatch sampleWriters []) = .ok st' ∧
      ∃ mid, deriveOpsAndFillWriterVectors (sampleContext .kSecondary) true
          (batchRefs sampleTxnBatch.length) (FillState.init sampleTxnBatch sampleWriters []) =
            .ok mid ∧
        mid.sessionOps = sampleTxnBatch.filter (fun op =>
          !decide (op.opTime ≤ (sampleContext .kSecondary).options.beginApplyingOpTime)) ∧
        st'.sessionOps = mid.sessionOps := by
  obtain ⟨st', ran⟩ : ∃ st', fillWriterVectors (sampleContext .kSecondary)
      (FillState.init sampleTxnBatch sampleWriters []) = .ok st' := ⟨_, rfl⟩
  exact ⟨st', ran, fillWriterVectors_tracks_batch (sampleContext .kSecondary) ran⟩

end Run

end SyncTail
