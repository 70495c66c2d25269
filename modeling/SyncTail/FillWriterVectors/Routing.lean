import SyncTail.FillWriterVectors.Step

/-!
# Routing

Against a catalog that does not change during the pass, the hash an op is routed by is a
function of the op: `routingHash`. The cache then only ever holds the catalog's answers
(`CachedCollectionProperties.Agrees`), and `processIfCrud` returns `routingHash`.

`RoutingInv` is the invariant of the pass: each writer vector is its initial contents
followed by the routed handles whose op hashes to it, in routing order, and no handle is
routed twice. `Grows` says what a step adds to the routing record: the handles of the
derived vectors it appends, in order, then possibly its own handle. Every piece of the
loop body keeps `Grows`, so one step does (`grows_deriveStep`), and a whole loop keeps
the invariant (`deriveLoop_routes`).
-/

namespace SyncTail

section Hash

variable (ctx : FillContext)

/-- The hash `_deriveOpsAndFillWriterVectors` routes `op` by when the cached properties are
the catalog's: the namespace hash, mixed with the `_id` hash for a CRUD op on a
document-locking engine and an uncapped collection. -/
def routingHash (op : OplogEntry) : UInt32 :=
  let collProperties := getCollectionPropertiesImpl ctx.databaseHolder op.nss
  if op.isCrudOpType && ctx.supportsDocLocking && !collProperties.isCapped then
    ctx.murmurHash3 (ctx.elementComparator.hash collProperties.collator op.idElement) (nsHash ctx op)
  else nsHash ctx op

/-- The worker `hash % numWriters` of `addToWriterVector`. -/
def writerOf (numWriters : Nat) (hash : UInt32) : Nat :=
  (hash % UInt32.ofNat numWriters).toNat

/-- The handle `ref` points to an op that hashes to worker `w`. -/
def routesTo (store : OpStore) (numWriters w : Nat) (ref : OpRef) : Bool :=
  (store.get? ref).any fun op => writerOf numWriters (routingHash ctx op) == w

@[simp]
theorem routingHash_setCapped (op : OplogEntry) :
    routingHash ctx { op with isForCappedCollection := true } = routingHash ctx op := rfl

theorem writerIndex_eq (writerVectors : WriterVectors) (hash : UInt32) :
    writerVectors.writerIndex hash = writerOf writerVectors.vectors.length hash := rfl

theorem writerOf_lt {numWriters : Nat} (nonzero : numWriters % 2 ^ 32 ≠ 0) (hash : UInt32) :
    writerOf numWriters hash < numWriters :=
  UInt32.toNat_mod_lt hash (by omega)

theorem routesTo_of_get? {store : OpStore} {ref : OpRef} {op : OplogEntry}
    (found : store.get? ref = some op) (numWriters w : Nat) :
    routesTo ctx store numWriters w ref = (writerOf numWriters (routingHash ctx op) == w) := by
  simp [routesTo, found]

theorem routesTo_of_extends {store store' : OpStore} (ext : store.Extends store') {ref : OpRef}
    (found : (store.get? ref).isSome) (numWriters w : Nat) :
    routesTo ctx store' numWriters w ref = routesTo ctx store numWriters w ref := by
  obtain ⟨op, found⟩ := Option.isSome_iff_exists.mp found
  rcases ext ref op found with same | marked <;> simp [routesTo, found, *]

/-- With a cache of the catalog's answers, `processIfCrud` returns `routingHash` and keeps
the cache the catalog's. -/
theorem processIfCrud_of_agrees {st : FillState}
    (agrees : CachedCollectionProperties.Agrees ctx.databaseHolder st.collPropertiesCache)
    (ref : OpRef) (op : OplogEntry) :
    (processIfCrud ctx ref op st).1 = routingHash ctx op ∧
      CachedCollectionProperties.Agrees ctx.databaseHolder
        (processIfCrud ctx ref op st).2.collPropertiesCache := by
  unfold processIfCrud
  split
  · rename_i crud
    obtain ⟨catalog, agrees'⟩ :=
      CachedCollectionProperties.getCollectionProperties_of_agrees agrees op.nss.ns
    refine ⟨?_, agrees'⟩
    simp only [processCrudOp, catalog, routingHash, crud, Bool.true_and]
  · rename_i notCrud
    exact ⟨by simp [routingHash, notCrud], agrees⟩

end Hash

/-! ### The derived vectors a step appends -/

/-- The lengths of the derived vectors. -/
def derivedLengths (store : OpStore) : List Nat :=
  store.derivedOps.map List.length

/-- The handles of the derived vectors from `start` on, vector by vector. -/
def derivedRefsFrom (lengths : List Nat) (start : Nat) : List OpRef :=
  (List.range' start (lengths.length - start)).flatMap fun k => derivedRefs k (lengths.getD k 0)

@[simp]
theorem derivedLengths_emplaceBack (store : OpStore) (ops : List OplogEntry) :
    derivedLengths (store.emplaceBack ops) = derivedLengths store ++ [ops.length] := by
  simp [derivedLengths]

@[simp]
theorem derivedLengths_modify (store : OpStore) (f : OplogEntry → OplogEntry) (ref : OpRef) :
    derivedLengths (store.modify f ref) = derivedLengths store := by
  cases ref with
  | batch i => rfl
  | derived k i =>
      refine List.ext_getElem? fun n => ?_
      by_cases same : k = n <;>
        simp [derivedLengths, OpStore.modify, List.getElem?_modify, same, Function.comp_def]

theorem derivedRefsFrom_length (lengths : List Nat) :
    derivedRefsFrom lengths lengths.length = [] := by
  simp [derivedRefsFrom]

theorem derivedRefsFrom_append {lengths : List Nat} {start : Nat} (below : start ≤ lengths.length)
    (more : List Nat) :
    derivedRefsFrom (lengths ++ more) start =
      derivedRefsFrom lengths start ++ derivedRefsFrom (lengths ++ more) lengths.length := by
  have split : (lengths ++ more).length - start =
      ((lengths ++ more).length - lengths.length) + (lengths.length - start) := by
    simp only [List.length_append]; omega
  unfold derivedRefsFrom
  rw [split, ← List.range'_append_1, List.flatMap_append, Nat.add_sub_cancel' below]
  congr 1
  refine List.flatMap_congr fun k mem => ?_
  rw [List.mem_range'_1] at mem
  simp [List.getElem?_append_left (show k < lengths.length by omega)]

theorem derivedRefsFrom_singleton (lengths : List Nat) (length : Nat) :
    derivedRefsFrom (lengths ++ [length]) lengths.length = derivedRefs lengths.length length := by
  simp [derivedRefsFrom]

theorem mem_derivedRefsFrom {lengths : List Nat} {start : Nat} {ref : OpRef} :
    ref ∈ derivedRefsFrom lengths start ↔
      ∃ k j, ref = .derived k j ∧ start ≤ k ∧ k < lengths.length ∧ j < lengths.getD k 0 := by
  simp only [derivedRefsFrom, derivedRefs, List.mem_flatMap, List.mem_range'_1, List.mem_map,
    List.mem_range]
  constructor
  · rintro ⟨k, ⟨above, below⟩, j, inVector, rfl⟩
    exact ⟨k, j, rfl, above, by omega, inVector⟩
  · rintro ⟨k, j, rfl, above, below, inVector⟩
    exact ⟨k, ⟨above, by omega⟩, j, inVector, rfl⟩

theorem isSome_getElem?_iff {α : Type} {l : List α} {j : Nat} : l[j]?.isSome ↔ j < l.length := by
  constructor
  · intro found
    by_contra outside
    rw [List.getElem?_eq_none (Nat.le_of_not_lt outside)] at found
    cases found
  · intro inside
    rw [List.getElem?_eq_getElem inside]
    rfl

theorem get?_derived_isSome {store : OpStore} {k j : Nat} :
    (store.get? (.derived k j)).isSome ↔
      k < (derivedLengths store).length ∧ j < (derivedLengths store).getD k 0 := by
  cases found : store.derivedOps[k]? with
  | none =>
      have outside : store.derivedOps.length ≤ k := List.getElem?_eq_none_iff.mp found
      simp [OpStore.get?, derivedLengths, found]
  | some ops =>
      obtain ⟨inside, rfl⟩ := List.getElem?_eq_some_iff.mp found
      simp [OpStore.get?, derivedLengths, inside, isSome_getElem?_iff]

/-- The derived handles of a store are the handles of its vectors. -/
theorem mem_derivedRefsFrom_store {store : OpStore} {start : Nat} {ref : OpRef} :
    ref ∈ derivedRefsFrom (derivedLengths store) start ↔
      ∃ k j, ref = .derived k j ∧ start ≤ k ∧ (store.get? ref).isSome := by
  rw [mem_derivedRefsFrom]
  constructor
  · rintro ⟨k, j, rfl, above, inside⟩
    exact ⟨k, j, rfl, above, get?_derived_isSome.mpr inside⟩
  · rintro ⟨k, j, rfl, above, found⟩
    exact ⟨k, j, rfl, above, get?_derived_isSome.mp found⟩

theorem derivedLengths_length (store : OpStore) :
    (derivedLengths store).length = store.derivedOps.length :=
  List.length_map _ _

/-- A handle found in the store points into one of its derived vectors. -/
theorem lt_length_of_get?_derived_isSome {store : OpStore} {k j : Nat}
    (found : (store.get? (.derived k j)).isSome) : k < store.derivedOps.length :=
  derivedLengths_length store ▸ (get?_derived_isSome.mp found).1

/-! ### What a step adds to the routing record -/

/-- The handles a step from `st` to `st'` routes: those of the derived vectors it appends,
vector by vector, then `own`. -/
def newRefs (st st' : FillState) (own : List OpRef) : List OpRef :=
  derivedRefsFrom (derivedLengths st'.store) st.store.derivedOps.length ++ own

/-- A step from `st` to `st'` appends derived vectors, routes all their handles in order
and then the handles `own`, and pushes each routed handle onto the vector of its worker. -/
structure Grows (ctx : FillContext) (st st' : FillState) (own : List OpRef) : Prop where
  extends_store : st.store.Extends st'.store
  lengths_append : ∃ more, derivedLengths st'.store = derivedLengths st.store ++ more
  routed_eq : st'.routed = st.routed ++ newRefs st st' own
  vectors_eq : ∀ w, st'.writerVectors.vectors[w]? = st.writerVectors.vectors[w]?.map
    (· ++ (newRefs st st' own).filter (routesTo ctx st'.store st.writerVectors.vectors.length w))
  flatten_perm :
    st'.writerVectors.vectors.flatten.Perm (st.writerVectors.vectors.flatten ++ newRefs st st' own)
  own_found : ∀ r ∈ own, (st'.store.get? r).isSome
  agrees : CachedCollectionProperties.Agrees ctx.databaseHolder st'.collPropertiesCache

section Grows

variable {ctx : FillContext}

theorem newRefs_found {st st' : FillState} {own : List OpRef} (grows : Grows ctx st st' own)
    {r : OpRef} (mem : r ∈ newRefs st st' own) : (st'.store.get? r).isSome := by
  rcases List.mem_append.mp mem with derived | owned
  · obtain ⟨k, j, rfl, -, found⟩ := mem_derivedRefsFrom_store.mp derived
    exact found
  · exact grows.own_found r owned

theorem Grows.length_eq {st st' : FillState} {own : List OpRef} (grows : Grows ctx st st' own) :
    st'.writerVectors.vectors.length = st.writerVectors.vectors.length := by
  have absent : ∀ w, st'.writerVectors.vectors[w]? = none ↔ st.writerVectors.vectors[w]? = none :=
    fun w => by rw [grows.vectors_eq w, Option.map_eq_none']
  exact Nat.le_antisymm
    (List.getElem?_eq_none_iff.mp ((absent _).mpr (List.getElem?_eq_none_iff.mpr le_rfl)))
    (List.getElem?_eq_none_iff.mp ((absent _).mp (List.getElem?_eq_none_iff.mpr le_rfl)))

/-- Two steps, with no derived vector appended after handles of the first step's own. -/
theorem newRefs_trans {st mid st' : FillState} {own own' : List OpRef}
    (lengths : ∃ more, derivedLengths mid.store = derivedLengths st.store ++ more)
    (lengths' : ∃ more, derivedLengths st'.store = derivedLengths mid.store ++ more)
    (ordered : own = [] ∨ derivedLengths st'.store = derivedLengths mid.store) :
    newRefs st mid own ++ newRefs mid st' own' = newRefs st st' (own ++ own') := by
  obtain ⟨more, midLengths⟩ := lengths
  obtain ⟨more', lengthsEq⟩ := lengths'
  have below : st.store.derivedOps.length ≤ (derivedLengths mid.store).length := by
    simp [midLengths, derivedLengths_length]
  have split := derivedRefsFrom_append below more'
  rw [← lengthsEq, derivedLengths_length] at split
  unfold newRefs
  rcases ordered with rfl | same
  · simp [split]
  · rw [same] at split ⊢
    simp only [← derivedLengths_length, derivedRefsFrom_length, List.nil_append,
      List.append_assoc]

theorem Grows.trans {st mid st' : FillState} {own own' : List OpRef} (first : Grows ctx st mid own)
    (second : Grows ctx mid st' own')
    (ordered : own = [] ∨ derivedLengths st'.store = derivedLengths mid.store) :
    Grows ctx st st' (own ++ own') := by
  have refs : newRefs st mid own ++ newRefs mid st' own' = newRefs st st' (own ++ own') :=
    newRefs_trans first.lengths_append second.lengths_append ordered
  have sameRoutes : ∀ w, (newRefs st mid own).filter (routesTo ctx mid.store
      st.writerVectors.vectors.length w) = (newRefs st mid own).filter
        (routesTo ctx st'.store st.writerVectors.vectors.length w) := fun w =>
    List.filter_congr fun r mem =>
      (routesTo_of_extends ctx second.extends_store (newRefs_found first mem) _ _).symm
  obtain ⟨more, lengths⟩ := first.lengths_append
  obtain ⟨more', lengths'⟩ := second.lengths_append
  refine ⟨first.extends_store.trans second.extends_store, ⟨more ++ more', by simp [lengths', lengths]⟩,
    by rw [second.routed_eq, first.routed_eq, List.append_assoc, refs], fun w => ?_, ?_,
    fun r mem => ?_, second.agrees⟩
  · rw [second.vectors_eq, first.vectors_eq, first.length_eq, Option.map_map, ← refs]
    simp [Function.comp_def, sameRoutes, List.filter_append]
  · rw [← refs, ← List.append_assoc]
    exact second.flatten_perm.trans (first.flatten_perm.append_right _)
  · rcases List.mem_append.mp mem with owned | owned'
    · have found := first.own_found r owned
      obtain ⟨op, found⟩ := Option.isSome_iff_exists.mp found
      rcases second.extends_store r op found with same | marked <;> simp [*]
    · exact second.own_found r owned'

/-- A step that routes nothing and appends no derived vector. -/
theorem Grows.frame {st st' : FillState} (ext : st.store.Extends st'.store)
    (lengths : derivedLengths st'.store = derivedLengths st.store) (routed : st'.routed = st.routed)
    (writerVectors : st'.writerVectors = st.writerVectors)
    (agrees : CachedCollectionProperties.Agrees ctx.databaseHolder st'.collPropertiesCache) :
    Grows ctx st st' [] := by
  have none : newRefs st st' [] = [] := by
    simp [newRefs, lengths, ← derivedLengths_length, derivedRefsFrom_length]
  refine ⟨ext, ⟨[], by simp [lengths]⟩, by simp [routed, none], fun w => ?_, ?_, by simp, agrees⟩
  · simp [writerVectors, none]
  · simp [writerVectors, none]

/-- A step's growth depends on its start only through the store, the record of routed
handles and the writer vectors. -/
theorem Grows.of_eq_left {st₁ st₂ st' : FillState} {own : List OpRef} (grows : Grows ctx st₁ st' own)
    (store : st₁.store = st₂.store) (routed : st₁.routed = st₂.routed)
    (writerVectors : st₁.writerVectors = st₂.writerVectors) : Grows ctx st₂ st' own := by
  have same : newRefs st₁ st' own = newRefs st₂ st' own := by simp [newRefs, store]
  refine ⟨store ▸ grows.extends_store, store ▸ grows.lengths_append, ?_, fun w => ?_, ?_,
    grows.own_found, grows.agrees⟩
  · rw [← routed, ← same]; exact grows.routed_eq
  · rw [← writerVectors, ← same]; exact grows.vectors_eq w
  · rw [← writerVectors, ← same]; exact grows.flatten_perm

end Grows

/-- Appending to one vector appends to their concatenation, up to order. -/
theorem flatten_modify_append_perm {α : Type} (vectors : List (List α)) (x : α) {i : Nat}
    (inside : i < vectors.length) :
    (vectors.modify (· ++ [x]) i).flatten.Perm (vectors.flatten ++ [x]) := by
  induction vectors generalizing i with
  | nil => simp at inside
  | cons v rest ih =>
      cases i with
      | zero =>
          simp only [List.modify_zero_cons, List.flatten_cons, List.append_assoc]
          exact List.perm_append_comm.append_left v
      | succ i =>
          simp only [List.modify_succ_cons, List.flatten_cons, List.append_assoc]
          exact (ih (by simpa using inside)).append_left v

section Pieces

variable (ctx : FillContext)

theorem grows_addToWriterVector {st : FillState} {ref : OpRef} {hash : UInt32}
    (agrees : CachedCollectionProperties.Agrees ctx.databaseHolder st.collPropertiesCache)
    (found : (st.store.get? ref).map (routingHash ctx) = some hash) :
    Grows ctx st (addToWriterVector ref hash st) [ref] := by
  obtain ⟨op, opFound, rfl⟩ := Option.map_eq_some'.mp found
  have only : newRefs st (addToWriterVector ref (routingHash ctx op) st) [ref] = [ref] := by
    simp [newRefs, ← derivedLengths_length, derivedRefsFrom_length]
  refine ⟨OpStore.Extends.refl _, ⟨[], by simp⟩, by simp [only], fun w => ?_, ?_,
    by simp [opFound], agrees⟩
  · rw [only]
    by_cases same : writerOf st.writerVectors.vectors.length (routingHash ctx op) = w <;>
      simp [addToWriterVector, WriterVectors.pushBack, writerIndex_eq, List.getElem?_modify,
        routesTo_of_get? ctx opFound, same]
  · rw [only]
    exact flatten_modify_append_perm _ ref
      (writerOf_lt st.writerVectors.numWriters_ne_zero (routingHash ctx op))

theorem processIfCrud_derivedLengths (ref : OpRef) (op : OplogEntry) (st : FillState) :
    derivedLengths (processIfCrud ctx ref op st).2.store = derivedLengths st.store := by
  rcases processIfCrud_store ctx ref op st with same | marked <;> simp [*]

theorem grows_processIfCrud {st : FillState}
    (agrees : CachedCollectionProperties.Agrees ctx.databaseHolder st.collPropertiesCache)
    (ref : OpRef) (op : OplogEntry) : Grows ctx st (processIfCrud ctx ref op st).2 [] :=
  Grows.frame (processIfCrud_extends ctx ref op st) (processIfCrud_derivedLengths ctx ref op st)
    (processIfCrud_routed ctx ref op st) (processIfCrud_writerVectors ctx ref op st)
    (processIfCrud_of_agrees ctx agrees ref op).2

theorem addDerivedOps_derivedLengths (vector : Nat) (ops : List OplogEntry) :
    ∀ (index : Nat) (st : FillState),
      derivedLengths (addDerivedOps ctx vector index ops st).store = derivedLengths st.store := by
  induction ops with
  | nil => intro index st; rfl
  | cons op rest ih =>
      intro index st
      rw [addDerivedOps, ih, addToWriterVector_store, processIfCrud_derivedLengths]

/-- `addDerivedOps` routes every op of the vector, in order, each by its `routingHash`. -/
theorem grows_addDerivedOps (vector : Nat) (ops : List OplogEntry) :
    ∀ (index : Nat) (st : FillState),
      CachedCollectionProperties.Agrees ctx.databaseHolder st.collPropertiesCache →
      (∀ m (inside : m < ops.length),
        (st.store.get? (.derived vector (index + m))).map (routingHash ctx) =
          some (routingHash ctx ops[m])) →
      Grows ctx st (addDerivedOps ctx vector index ops st)
        ((List.range' index ops.length).map (.derived vector)) := by
  induction ops with
  | nil =>
      intro index st agrees _
      exact Grows.frame (OpStore.Extends.refl _) rfl rfl rfl agrees
  | cons op rest ih =>
      intro index st agrees found
      set processed := processIfCrud ctx (.derived vector index) op st
      have processedGrows : Grows ctx st processed.2 [] := grows_processIfCrud ctx agrees _ op
      have hash : processed.1 = routingHash ctx op :=
        (processIfCrud_of_agrees ctx agrees (.derived vector index) op).1
      have pushed : Grows ctx processed.2
          (addToWriterVector (.derived vector index) processed.1 processed.2) [.derived vector index] :=
        grows_addToWriterVector ctx processedGrows.agrees (by
          rw [hash]
          exact processedGrows.extends_store.map_of_map (routingHash ctx) (fun _ => rfl)
            (found 0 (by simp)))
      have routedHead := processedGrows.trans pushed (.inl rfl)
      have routedRest := ih (index + 1) _ pushed.agrees fun m inside => by
        have later := found (m + 1) (by simp [inside])
        rw [show index + (m + 1) = index + 1 + m by omega] at later
        exact (processedGrows.extends_store.trans pushed.extends_store).map_of_map
          (routingHash ctx) (fun _ => rfl) later
      have whole := routedHead.trans routedRest (.inr (addDerivedOps_derivedLengths ctx _ _ _ _))
      simpa [addDerivedOps, List.range'_succ] using whole

theorem emplaceDerivedOps_derivedLengths (ops : List OplogEntry) (st : FillState) :
    derivedLengths (emplaceDerivedOps ctx ops st).store = derivedLengths st.store ++ [ops.length] := by
  rw [emplaceDerivedOps, addDerivedOps_derivedLengths, derivedLengths_emplaceBack]

/-- `emplaceDerivedOps` appends one derived vector and routes all its handles. -/
theorem grows_emplaceDerivedOps {st : FillState}
    (agrees : CachedCollectionProperties.Agrees ctx.databaseHolder st.collPropertiesCache)
    (ops : List OplogEntry) : Grows ctx st (emplaceDerivedOps ctx ops st) [] := by
  set emplaced : FillState :=
    { st with store := st.store.emplaceBack ops, produced := st.produced ++ [ops] }
  have routes := grows_addDerivedOps ctx st.store.derivedOps.length ops 0 emplaced agrees
    fun m inside => by simp [emplaced, OpStore.get?_emplaceBack_new, inside]
  have lengths := addDerivedOps_derivedLengths ctx st.store.derivedOps.length ops 0 emplaced
  have same : newRefs emplaced (emplaceDerivedOps ctx ops st)
      ((List.range' 0 ops.length).map (.derived st.store.derivedOps.length)) =
        newRefs st (emplaceDerivedOps ctx ops st) [] := by
    simp only [newRefs, emplaceDerivedOps, lengths, emplaced, OpStore.emplaceBack_derivedOps,
      derivedLengths_emplaceBack, List.length_append, List.length_singleton, List.append_nil]
    rw [← derivedLengths_length, derivedRefsFrom_singleton, ← List.length_singleton (a := ops.length),
      ← List.length_append, derivedRefsFrom_length]
    simp [derivedRefs, List.range_eq_range']
  refine ⟨(OpStore.extends_emplaceBack st.store ops).trans routes.extends_store,
    ⟨[ops.length], emplaceDerivedOps_derivedLengths ctx ops st⟩, ?_, fun w => ?_, ?_, by simp,
    routes.agrees⟩
  · rw [← same]; exact routes.routed_eq
  · rw [← same]; exact routes.vectors_eq w
  · rw [← same]; exact routes.flatten_perm

theorem grows_trackSession {st : FillState}
    (agrees : CachedCollectionProperties.Agrees ctx.databaseHolder st.collPropertiesCache)
    (op : OplogEntry) : Grows ctx st (trackSession ctx op st) [] := by
  dsimp only [trackSession]
  split
  · exact (@grows_emplaceDerivedOps ctx { st with sessionOps := st.sessionOps ++ [op] } agrees
      _).of_eq_left rfl rfl rfl
  · exact Grows.frame (OpStore.Extends.refl _) rfl rfl rfl agrees

theorem grows_materializeTxn {st : FillState}
    (agrees : CachedCollectionProperties.Agrees ctx.databaseHolder st.collPropertiesCache)
    (ref : OpRef) (op : OplogEntry) (sessionId : LogicalSessionId) :
    Grows ctx st (materializeTxn ctx ref op sessionId st) [] :=
  (@grows_emplaceDerivedOps ctx
    { clearPartialTxn sessionId st with txnReads := st.txnReads ++ [(ref, st.partialTxnOps sessionId)] }
    agrees _).of_eq_left rfl rfl rfl

theorem grows_bufferPartialTxn {st st' : FillState} {ref : OpRef} {op : OplogEntry}
    (agrees : CachedCollectionProperties.Agrees ctx.databaseHolder st.collPropertiesCache)
    (buffered : bufferPartialTxn ref op st = .ok st') : Grows ctx st st' [] := by
  obtain ⟨_, _, rfl⟩ := bufferPartialTxn_eq buffered
  exact Grows.frame (OpStore.Extends.refl _) rfl rfl rfl agrees

theorem grows_abortPartialTxn {st st' : FillState} {op : OplogEntry}
    (agrees : CachedCollectionProperties.Agrees ctx.databaseHolder st.collPropertiesCache)
    (aborted : abortPartialTxn op st = .ok st') : Grows ctx st st' [] := by
  obtain ⟨_, rfl⟩ := abortPartialTxn_frame aborted
  exact Grows.frame (OpStore.Extends.refl _) rfl rfl rfl agrees

/-- The loop body after the tracker routes the entry itself exactly when it neither
buffers nor materializes nor extracts it. -/
theorem grows_routeEntry {st st' : FillState} {ref : OpRef} {op : OplogEntry}
    (agrees : CachedCollectionProperties.Agrees ctx.databaseHolder st.collPropertiesCache)
    (found : (st.store.get? ref).map (routingHash ctx) = some (routingHash ctx op))
    (stepped : routeEntry ctx ref op st = .ok st') :
    Grows ctx st st'
      (if !isBuffered ctx op && !op.isTerminalApplyOps &&
          !(op.isPreparedCommit && ctx.options.mode == .kInitialSync) then [ref] else []) := by
  rcases routeEntry_cases ctx stepped with
    ⟨buffered, bufferedOk⟩ | ⟨notBuffered, notTerminal, notPrepared, aborted, abortedOk, rfl⟩ |
      ⟨sessionId, -, materialized, rfl⟩ | ⟨terminal, -, -, rfl⟩
  · simpa [buffered] using grows_bufferPartialTxn ctx agrees bufferedOk
  · have abortGrows := grows_abortPartialTxn ctx agrees abortedOk
    have processed := grows_processIfCrud ctx abortGrows.agrees ref op
    have pushed := @grows_addToWriterVector ctx _ ref (processIfCrud ctx ref op aborted).1
      processed.agrees (by
        rw [(processIfCrud_of_agrees ctx abortGrows.agrees ref op).1]
        exact (abortGrows.extends_store.trans processed.extends_store).map_of_map (routingHash ctx)
          (fun _ => rfl) found)
    have notPrepared' : (op.isPreparedCommit && ctx.options.mode == .kInitialSync) = false := by
      simpa using notPrepared
    simpa [notBuffered, notTerminal, notPrepared'] using
      (abortGrows.trans processed (.inl rfl)).trans pushed (.inl rfl)
  · have notRouted : (!isBuffered ctx op && !op.isTerminalApplyOps &&
        !(op.isPreparedCommit && ctx.options.mode == .kInitialSync)) = false := by
      simp only [materializes, Bool.or_eq_true, Bool.and_eq_true] at materialized
      rcases materialized with ⟨⟨terminal, -⟩, -⟩ | prepared <;> simp [*]
    rw [notRouted]
    exact grows_materializeTxn ctx agrees ref op sessionId
  · simpa [terminal] using grows_emplaceDerivedOps ctx agrees (ctx.extractOperations op)

/-- One step of the loop routes the derived vectors it appends and then, if the entry
routes itself, the entry. -/
theorem grows_deriveStep {trackSessions : Bool} {st st' : FillState} {ref : OpRef} {op : OplogEntry}
    (agrees : CachedCollectionProperties.Agrees ctx.databaseHolder st.collPropertiesCache)
    (found : st.store.get? ref = some op)
    (stepped : deriveStep ctx trackSessions st ref = .ok st') :
    Grows ctx st st' (if routesItself ctx op then [ref] else []) := by
  rw [deriveStep_of_get? ctx found] at stepped
  split at stepped
  · rename_i below
    cases stepped
    simpa [routesItself, below] using Grows.frame (OpStore.Extends.refl _) rfl rfl rfl agrees
  rename_i above
  have tracked : Grows ctx st (if trackSessions then trackSession ctx op st else st) [] := by
    split
    · exact grows_trackSession ctx agrees op
    · exact Grows.frame (OpStore.Extends.refl _) rfl rfl rfl agrees
  have routed := grows_routeEntry ctx tracked.agrees
    (tracked.extends_store.map_of_map (routingHash ctx) (fun _ => rfl) (by simp [found])) stepped
  simpa [routesItself, above] using tracked.trans routed (.inl rfl)

end Pieces

/-! ### The invariant of the pass -/

theorem derivedRefsFrom_nodup (lengths : List Nat) (start : Nat) :
    (derivedRefsFrom lengths start).Nodup := by
  refine List.nodup_flatMap.mpr ⟨fun k _ => ?_, (List.nodup_range' _ _).imp fun {k k'} differ => ?_⟩
  · exact (List.nodup_range _).map fun _ _ same => (OpRef.derived.inj same).2
  · simp only [Function.onFun, List.disjoint_left, derivedRefs, List.mem_map, List.mem_range]
    rintro _ ⟨j, -, rfl⟩ ⟨j', -, same⟩
    exact differ (OpRef.derived.inj same).1.symm

theorem not_mem_derivedRefsFrom_of_found {store : OpStore} {ref : OpRef}
    (found : (store.get? ref).isSome) (lengths : List Nat) :
    ref ∉ derivedRefsFrom lengths store.derivedOps.length := by
  intro mem
  obtain ⟨k, j, rfl, above, -⟩ := mem_derivedRefsFrom.mp mem
  exact Nat.not_lt.mpr above (lt_length_of_get?_derived_isSome found)

/-- The invariant of the pass: each writer vector is its initial contents followed by the
routed handles whose op hashes to it, in routing order; all handles in the vectors are the
initial ones and the routed ones; no handle is routed twice. -/
structure RoutingInv (ctx : FillContext) (init : List (List OpRef)) (st : FillState) : Prop where
  agrees : CachedCollectionProperties.Agrees ctx.databaseHolder st.collPropertiesCache
  length_eq : st.writerVectors.vectors.length = init.length
  vectors_eq : ∀ w, st.writerVectors.vectors[w]? =
    init[w]?.map (· ++ st.routed.filter (routesTo ctx st.store init.length w))
  flatten_perm : st.writerVectors.vectors.flatten.Perm (init.flatten ++ st.routed)
  routed_found : ∀ r ∈ st.routed, (st.store.get? r).isSome
  routed_nodup : st.routed.Nodup

section Invariant

variable {ctx : FillContext} {init : List (List OpRef)}

theorem RoutingInv.initial (ops : List OplogEntry) (writerVectors : WriterVectors)
    (derivedOps : List (List OplogEntry)) :
    RoutingInv ctx writerVectors.vectors (FillState.init ops writerVectors derivedOps) :=
  ⟨CachedCollectionProperties.agrees_empty _, rfl, fun w => by simp [FillState.init],
    by simp [FillState.init], by simp [FillState.init], List.nodup_nil⟩

/-- A step keeps the invariant when the handles it routes itself are new. -/
theorem RoutingInv.grows {st st' : FillState} {own : List OpRef} (inv : RoutingInv ctx init st)
    (grows : Grows ctx st st' own) (fresh : (st.routed ++ own).Nodup)
    (ownFound : ∀ r ∈ own, (st.store.get? r).isSome) : RoutingInv ctx init st' := by
  have sameRoutes : ∀ w, st.routed.filter (routesTo ctx st.store init.length w) =
      st.routed.filter (routesTo ctx st'.store init.length w) := fun w =>
    List.filter_congr fun r mem =>
      (routesTo_of_extends ctx grows.extends_store (inv.routed_found r mem) _ _).symm
  refine ⟨grows.agrees, grows.length_eq.trans inv.length_eq, fun w => ?_, ?_, fun r mem => ?_, ?_⟩
  · rw [grows.vectors_eq, inv.vectors_eq, inv.length_eq, Option.map_map, grows.routed_eq]
    simp [Function.comp_def, sameRoutes, List.filter_append]
  · rw [grows.routed_eq, ← List.append_assoc]
    exact grows.flatten_perm.trans (inv.flatten_perm.append_right _)
  · rw [grows.routed_eq] at mem
    rcases List.mem_append.mp mem with old | new
    · obtain ⟨op, found⟩ := Option.isSome_iff_exists.mp (inv.routed_found r old)
      rcases grows.extends_store r op found with same | marked <;> simp [*]
    · exact newRefs_found grows new
  · rw [grows.routed_eq, newRefs, ← List.append_assoc]
    refine (List.perm_append_comm.append_right own).nodup_iff.mpr ?_
    rw [List.append_assoc]
    refine List.nodup_append.mpr ⟨derivedRefsFrom_nodup _ _, fresh, fun r derived old => ?_⟩
    have found : (st.store.get? r).isSome := by
      rcases List.mem_append.mp old with routed | owned
      · exact inv.routed_found r routed
      · exact ownFound r owned
    exact not_mem_derivedRefsFrom_of_found found _ derived

/-- A change that routes nothing keeps the invariant. -/
theorem RoutingInv.frame {st st' : FillState} (inv : RoutingInv ctx init st)
    (ext : st.store.Extends st'.store) (routed : st'.routed = st.routed)
    (writerVectors : st'.writerVectors = st.writerVectors)
    (agrees : CachedCollectionProperties.Agrees ctx.databaseHolder st'.collPropertiesCache) :
    RoutingInv ctx init st' := by
  refine ⟨agrees, writerVectors ▸ inv.length_eq, fun w => ?_, ?_, fun r mem => ?_, routed ▸ inv.routed_nodup⟩
  · rw [writerVectors, inv.vectors_eq, routed]
    congr 2
    funext v
    congr 1
    exact List.filter_congr fun r mem =>
      (routesTo_of_extends ctx ext (inv.routed_found r mem) _ _).symm
  · rw [writerVectors, routed]; exact inv.flatten_perm
  · rw [routed] at mem
    obtain ⟨op, found⟩ := Option.isSome_iff_exists.mp (inv.routed_found r mem)
    rcases ext r op found with same | marked <;> simp [*]

end Invariant

section Run

variable (ctx : FillContext) {init : List (List OpRef)}

/-- A loop over handles to distinct ops of the store that are not yet routed keeps the
invariant. -/
theorem deriveLoop_routes {trackSessions : Bool} :
    ∀ {refs : List OpRef} {st st' : FillState}, RoutingInv ctx init st → refs.Nodup →
      (∀ r ∈ refs, r ∉ st.routed ∧ (st.store.get? r).isSome) →
      deriveLoop ctx trackSessions refs st = .ok st' → RoutingInv ctx init st'
  | [], st, st', inv, _, _, ran => by
      cases ran
      exact inv
  | ref :: rest, st, st', inv, nodup, fresh, ran => by
      rw [deriveLoop] at ran
      cases stepped : deriveStep ctx trackSessions st ref with
      | error failure => rw [stepped] at ran; cases ran
      | ok mid =>
      rw [stepped] at ran
      obtain ⟨notRouted, found⟩ := fresh ref (List.mem_cons_self ref rest)
      obtain ⟨op, opFound⟩ := Option.isSome_iff_exists.mp found
      have grows := grows_deriveStep ctx inv.agrees opFound stepped
      have owned : ∀ r ∈ (if routesItself ctx op then [ref] else []), r = ref := fun r mem => by
        split at mem <;> simp_all
      have midInv := inv.grows grows
        (by by_cases routes : routesItself ctx op <;> simp [routes, inv.routed_nodup, notRouted,
          List.nodup_append])
        (fun r own => owned r own ▸ found)
      have restFresh : ∀ r ∈ rest, r ∉ mid.routed ∧ (mid.store.get? r).isSome := by
        intro r mem
        obtain ⟨notRouted', found'⟩ := fresh r (List.mem_cons_of_mem ref mem)
        have differs : r ≠ ref := fun same => (List.nodup_cons.mp nodup).1 (same ▸ mem)
        refine ⟨?_, ?_⟩
        · rw [grows.routed_eq, newRefs]
          simp only [List.mem_append, not_or]
          exact ⟨notRouted', not_mem_derivedRefsFrom_of_found found' _,
            fun own => differs (owned r own)⟩
        · obtain ⟨op', found''⟩ := Option.isSome_iff_exists.mp found'
          rcases grows.extends_store r op' found'' with same | marked <;> simp [*]
      exact deriveLoop_routes midInv (List.nodup_cons.mp nodup).2 restFresh ran

end Run

end SyncTail
