import SyncTail.FillWriterVectors.Routing
import SyncTail.FillWriterVectors.Transactions

/-!
# The partition `fillWriterVectors` computes

`fillWriterVectors_routes` carries the routing invariant through the two passes of
`fillWriterVectors`: over the batch with the session-update tracker, then over the
session updates it flushes. Every routed handle is in the writer vector of its op's
routing hash, in routing order, once. `fillWriterVectors_places_by_hash` states this for a
whole call. `Refinement` adds which handles are routed and in which order.

`sameDocument` says when two ops touch one document. CRUD ops on one document hash alike
(`routingHash_eq_of_sameDocument`), so they share a writer vector.
-/

namespace SyncTail

section Selection

variable (ctx : FillContext)

theorem fillWriterVectors_init (ops : List OplogEntry) (writerVectors : WriterVectors)
    (derivedOps : List (List OplogEntry)) :
    fillWriterVectors ctx (FillState.init ops writerVectors derivedOps) =
      deriveOpsAndFillWriterVectors ctx true (batchRefs ops.length)
          (FillState.init ops writerVectors derivedOps) >>= fun mid =>
        if (ctx.flushAll mid.sessionOps).isEmpty then .ok mid
        else deriveOpsAndFillWriterVectors ctx false
          (derivedRefs mid.store.derivedOps.length (ctx.flushAll mid.sessionOps).length)
          { mid with
            store := mid.store.emplaceBack (ctx.flushAll mid.sessionOps)
            produced := mid.produced ++ [ctx.flushAll mid.sessionOps] } := rfl

theorem lt_length_of_any {α : Type} {l : List α} {p : α → Bool} {i : Nat} (any : l[i]?.any p) :
    i < l.length := by
  cases found : l[i]? with
  | none => rw [found] at any; cases any
  | some a => exact isSome_getElem?_iff.mp (by simp [found])

theorem batchRefs_nodup (length : Nat) : (batchRefs length).Nodup :=
  (List.nodup_range length).map fun _ _ same => OpRef.batch.inj same

theorem derivedRefs_nodup (vector length : Nat) : (derivedRefs vector length).Nodup :=
  (List.nodup_range length).map fun _ _ same => (OpRef.derived.inj same).2

theorem mem_batchRefs {length : Nat} {ref : OpRef} :
    ref ∈ batchRefs length ↔ ∃ i < length, ref = .batch i := by
  simp [batchRefs, eq_comm]

theorem mem_derivedRefs {vector length : Nat} {ref : OpRef} :
    ref ∈ derivedRefs vector length ↔ ∃ j < length, ref = .derived vector j := by
  simp [derivedRefs, eq_comm]

/-- The pass over the batch keeps the routing invariant. -/
theorem deriveOps_batch_routes {ops : List OplogEntry} {writerVectors : WriterVectors}
    {derivedOps : List (List OplogEntry)} {mid : FillState}
    (first : deriveOpsAndFillWriterVectors ctx true (batchRefs ops.length)
      (FillState.init ops writerVectors derivedOps) = .ok mid) :
    RoutingInv ctx writerVectors.vectors mid :=
  (deriveLoop_routes ctx (RoutingInv.initial ops writerVectors derivedOps) (batchRefs_nodup _)
    (fun r mem => by
      obtain ⟨i, inside, rfl⟩ := mem_batchRefs.mp mem
      simp [FillState.init, OpStore.get?, inside]) first)

/-- The pass over the flushed session updates, appended as the derived vector after those
of `mid`, keeps the routing invariant: none of their handles is routed yet. -/
theorem deriveOps_flushed_routes {init : List (List OpRef)} {flushed : List OplogEntry}
    {mid st' : FillState} (inv : RoutingInv ctx init mid)
    (ran : deriveOpsAndFillWriterVectors ctx false
      (derivedRefs mid.store.derivedOps.length flushed.length)
      { mid with store := mid.store.emplaceBack flushed, produced := mid.produced ++ [flushed] } =
        .ok st') :
    RoutingInv ctx init st' := by
  have framed : RoutingInv ctx init
      { { mid with store := mid.store.emplaceBack flushed, produced := mid.produced ++ [flushed] } with
        partialTxnOps := fun _ => [], collPropertiesCache := {} } :=
    inv.frame (OpStore.extends_emplaceBack _ _) rfl rfl (CachedCollectionProperties.agrees_empty _)
  refine deriveLoop_routes ctx framed (derivedRefs_nodup _ _) (fun r listed => ?_) ran
  obtain ⟨j, inside, rfl⟩ := mem_derivedRefs.mp listed
  refine ⟨fun routed => ?_, by simp [OpStore.get?_emplaceBack_new, inside]⟩
  exact Nat.lt_irrefl _ (lt_length_of_get?_derived_isSome (inv.routed_found _ routed))

/-- `fillWriterVectors` keeps the routing invariant. -/
theorem fillWriterVectors_routes {ops : List OplogEntry} {writerVectors : WriterVectors}
    {derivedOps : List (List OplogEntry)} {st' : FillState}
    (ran : fillWriterVectors ctx (FillState.init ops writerVectors derivedOps) = .ok st') :
    RoutingInv ctx writerVectors.vectors st' := by
  rw [fillWriterVectors_init] at ran
  cases first : deriveOpsAndFillWriterVectors ctx true (batchRefs ops.length)
      (FillState.init ops writerVectors derivedOps) with
  | error failure => rw [first] at ran; cases ran
  | ok mid =>
  rw [first] at ran
  simp only [bind, Except.bind] at ran
  split at ran
  case isTrue => cases ran; exact deriveOps_batch_routes ctx first
  case isFalse => exact deriveOps_flushed_routes ctx (deriveOps_batch_routes ctx first) ran

/-- Two ops touch the same document: the same namespace and, on a document-locking engine
and an uncapped collection, `_id`s equal under the namespace's default collator. -/
def sameDocument (ctx : FillContext) (a b : OplogEntry) : Prop :=
  a.nss = b.nss ∧
    let collProperties := getCollectionPropertiesImpl ctx.databaseHolder a.nss
    (ctx.supportsDocLocking && !collProperties.isCapped) = true →
      ctx.elementComparator.equal collProperties.collator a.idElement b.idElement = true

/-- CRUD ops on the same document hash alike. -/
theorem routingHash_eq_of_sameDocument {a b : OplogEntry} (crudA : a.isCrudOpType)
    (crudB : b.isCrudOpType) (same : sameDocument ctx a b) : routingHash ctx a = routingHash ctx b := by
  obtain ⟨sameNss, sameId⟩ := same
  unfold routingHash nsHash
  rw [← sameNss]
  simp only [crudA, crudB, Bool.true_and]
  split
  · rename_i hashed
    rw [ctx.elementComparator.hash_eq_of_equal _ _ _ (sameId hashed)]
  · rfl

/-- The namespace of the op a handle points to: the key `stableSortByNamespace` sorts a
worker's handles by. -/
def refNss (store : OpStore) (ref : OpRef) : NamespaceString :=
  ((store.get? ref).map (·.nss)).getD default

theorem pair_sublist_filter_iff {α : Type} {l : List α} {p : α → Bool} {a b : α} (pa : p a)
    (pb : p b) : [a, b].Sublist (l.filter p) ↔ [a, b].Sublist l :=
  ⟨fun sub => sub.trans (List.filter_sublist l), fun sub => by
    simpa [pa, pb] using sub.filter p⟩

/-- Two inserts of document `a` around one of document `b`. -/
def sampleInserts : List OplogEntry := [insertEntry "a" 1, insertEntry "b" 2, insertEntry "a" 3]

/-- `fillWriterVectors` keeps the number of writer vectors and each vector's initial
contents, and every handle it adds to vector `w` points to an op whose routing hash picks
`w`: the worker of an op is a function of the op and the catalog, not of the cache or of
the ops routed before it. -/
theorem fillWriterVectors_places_by_hash {ops : List OplogEntry} {writerVectors : WriterVectors}
    {derivedOps : List (List OplogEntry)} {st' : FillState}
    (ran : fillWriterVectors ctx (FillState.init ops writerVectors derivedOps) = .ok st') :
    st'.writerVectors.vectors.length = writerVectors.vectors.length ∧
      ∀ w, ∃ added, st'.writerVectors.vectors[w]? = writerVectors.vectors[w]?.map (· ++ added) ∧
        ∀ r ∈ added, ∃ op, st'.store.get? r = some op ∧
          writerOf writerVectors.vectors.length (routingHash ctx op) = w := by
  have inv := fillWriterVectors_routes ctx ran
  refine ⟨inv.length_eq, fun w => ⟨_, inv.vectors_eq w, fun r added => ?_⟩⟩
  obtain ⟨routed, routes⟩ := List.mem_filter.mp added
  obtain ⟨op, found⟩ := Option.isSome_iff_exists.mp (inv.routed_found r routed)
  rw [routesTo_of_get? ctx found] at routes
  exact ⟨op, found, by simpa using routes⟩

theorem fillWriterVectors_places_by_hash_sampleInserts :
    ∃ st', fillWriterVectors (sampleContext .kSecondary)
        (FillState.init sampleInserts sampleWriters []) = .ok st' ∧
      st'.writerVectors.vectors.length = sampleWriters.vectors.length ∧
      ∀ w, ∃ added, st'.writerVectors.vectors[w]? = sampleWriters.vectors[w]?.map (· ++ added) ∧
        ∀ r ∈ added, ∃ op, st'.store.get? r = some op ∧
          writerOf sampleWriters.vectors.length (routingHash (sampleContext .kSecondary) op) = w := by
  obtain ⟨st', ran⟩ : ∃ st', fillWriterVectors (sampleContext .kSecondary)
      (FillState.init sampleInserts sampleWriters []) = .ok st' := ⟨_, rfl⟩
  exact ⟨st', ran, fillWriterVectors_places_by_hash (sampleContext .kSecondary) ran⟩

end Selection

end SyncTail
