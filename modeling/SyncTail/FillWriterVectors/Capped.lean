import SyncTail.FillWriterVectors.Partition

/-!
# Capped-insert marks

`processCrudOp` sets `isForCappedCollection` on every insert into a capped collection,
so that the applier never groups it with other inserts, and the doc comment of
`_deriveOpsAndFillWriterVectors` says the pass changes no other field of any op. This
file proves both over a whole `fillWriterVectors` call against a catalog that does not
change during it.

The ops as they were given are the batch and the derived vectors as their producers
returned them (the ghost field `produced`). `CappedInv` says that the store holds these
ops, each either unchanged or a routed insert into a capped collection with the mark set,
and that every routed capped insert is marked. Each piece of the loop body keeps it.
-/

namespace SyncTail

section Marks

variable (ctx : FillContext)

/-- An insert into a collection the catalog reports as capped: the ops `processCrudOp`
marks. -/
def isCappedInsert (op : OplogEntry) : Bool :=
  op.opType = .kInsert && (getCollectionPropertiesImpl ctx.databaseHolder op.nss).isCapped

@[simp]
theorem isCappedInsert_setCapped (op : OplogEntry) :
    isCappedInsert ctx { op with isForCappedCollection := true } = isCappedInsert ctx op := rfl

/-- `store` holds the ops of `orig`, each unchanged or a routed capped insert with the mark
set. -/
def MarkedFrom (orig store : OpStore) (routed : List OpRef) : Prop :=
  ∀ x, store.get? x = orig.get? x ∨
    ∃ op, orig.get? x = some op ∧ store.get? x = some { op with isForCappedCollection := true } ∧
      x ∈ routed ∧ isCappedInsert ctx op

theorem MarkedFrom.mono {orig store : OpStore} {routed routed' : List OpRef}
    (marked : MarkedFrom ctx orig store routed) (more : routed ⊆ routed') :
    MarkedFrom ctx orig store routed' := fun x =>
  (marked x).imp_right fun ⟨op, found, set, mem, capped⟩ => ⟨op, found, set, more mem, capped⟩

/-- Appending one vector to both stores keeps the relation: the new ops are as given. -/
theorem MarkedFrom.emplaceBack {orig store : OpStore} {routed : List OpRef}
    (marked : MarkedFrom ctx orig store routed) (sameShape : orig.derivedOps.length = store.derivedOps.length)
    (ops : List OplogEntry) : MarkedFrom ctx (orig.emplaceBack ops) (store.emplaceBack ops) routed := by
  intro x
  cases x with
  | batch i => exact marked (.batch i)
  | derived k j =>
      by_cases old : k < store.derivedOps.length
      · simpa [OpStore.get?, OpStore.emplaceBack, List.getElem?_append_left old,
          List.getElem?_append_left (sameShape ▸ old)] using marked (.derived k j)
      · left
        simp [OpStore.get?, OpStore.emplaceBack, List.getElem?_append_right (Nat.le_of_not_lt old),
          List.getElem?_append_right (sameShape ▸ Nat.le_of_not_lt old), sameShape]

/-- The invariant of the pass over `batch`: the store is the given ops up to capped marks on
routed inserts, every routed handle points to an op that is marked if it is a capped
insert, and the cache holds the catalog's answers. -/
structure CappedInv (batch : List OplogEntry) (st : FillState) : Prop where
  shape : st.produced.length = st.store.derivedOps.length
  marked : MarkedFrom ctx ⟨batch, st.produced⟩ st.store st.routed
  routed_marked : ∀ x ∈ st.routed, ∃ op, st.store.get? x = some op ∧
    (isCappedInsert ctx op → op.isForCappedCollection)
  agrees : CachedCollectionProperties.Agrees ctx.databaseHolder st.collPropertiesCache

/-- With the catalog's answers in the cache, `processIfCrud` marks exactly the capped
inserts. -/
theorem processIfCrud_store_of_agrees {st : FillState}
    (agrees : CachedCollectionProperties.Agrees ctx.databaseHolder st.collPropertiesCache)
    (ref : OpRef) (op : OplogEntry) :
    (processIfCrud ctx ref op st).2.store =
      if isCappedInsert ctx op then
        st.store.modify (fun op => { op with isForCappedCollection := true }) ref
      else st.store := by
  unfold processIfCrud
  split
  · obtain ⟨catalog, -⟩ :=
      CachedCollectionProperties.getCollectionProperties_of_agrees agrees op.nss.ns
    simp only [processCrudOp, catalog, isCappedInsert]
  · rename_i notCrud
    have notInsert : op.opType ≠ .kInsert := fun insert =>
      notCrud (by simp [OplogEntry.isCrudOpType, insert])
    simp [isCappedInsert, notInsert]

/-- Routing a handle changes no other handle's op. -/
theorem route_get?_of_ne {st : FillState} {ref x : OpRef} (other : x ≠ ref) (op : OplogEntry) :
    (addToWriterVector ref (processIfCrud ctx ref op st).1 (processIfCrud ctx ref op st).2).store.get? x =
      st.store.get? x := by
  rcases processIfCrud_store ctx ref op st with same | marked <;>
    simp [*, OpStore.get?_modify]

theorem addDerivedOps_get?_of_ne {vector : Nat} {x : OpRef} (other : ∀ j, x ≠ .derived vector j)
    (ops : List OplogEntry) :
    ∀ (index : Nat) (st : FillState), (addDerivedOps ctx vector index ops st).store.get? x = st.store.get? x := by
  induction ops with
  | nil => intro index st; rfl
  | cons op rest ih =>
      intro index st
      rw [addDerivedOps, ih, route_get?_of_ne ctx (other index)]

/-- `emplaceDerivedOps` leaves the ops already stored as they are. -/
theorem emplaceDerivedOps_get?_of_isSome {st : FillState} {x : OpRef}
    (found : (st.store.get? x).isSome) (ops : List OplogEntry) :
    (emplaceDerivedOps ctx ops st).store.get? x = st.store.get? x := by
  have other : ∀ j, x ≠ .derived st.store.derivedOps.length j := by
    rintro j rfl
    simp [OpStore.get?] at found
  rw [emplaceDerivedOps, addDerivedOps_get?_of_ne ctx other]
  exact OpStore.get?_emplaceBack_of_isSome found ops

theorem trackSession_get?_of_isSome {st : FillState} {x : OpRef}
    (found : (st.store.get? x).isSome) (op : OplogEntry) :
    (trackSession ctx op st).store.get? x = st.store.get? x := by
  dsimp only [trackSession]
  split
  · exact @emplaceDerivedOps_get?_of_isSome ctx { st with sessionOps := st.sessionOps ++ [op] } _
      found _
  · rfl

end Marks

section Invariant

variable {ctx : FillContext} {batch : List OplogEntry}

theorem CappedInv.congr {st st' : FillState} (inv : CappedInv ctx batch st)
    (store : st'.store = st.store) (produced : st'.produced = st.produced)
    (routed : st'.routed = st.routed) (cache : st'.collPropertiesCache = st.collPropertiesCache) :
    CappedInv ctx batch st' := by
  obtain ⟨shape, marked, routedMarked, agrees⟩ := inv
  rw [← store, ← produced, ← routed] at *
  rw [← cache] at agrees
  exact ⟨shape, marked, routedMarked, agrees⟩

theorem CappedInv.initial (ops : List OplogEntry) (writerVectors : WriterVectors)
    (derivedOps : List (List OplogEntry)) :
    CappedInv ctx ops (FillState.init ops writerVectors derivedOps) :=
  ⟨rfl, fun _ => .inl rfl, fun _ mem => absurd mem (List.not_mem_nil _),
    CachedCollectionProperties.agrees_empty _⟩

/-- Routing `ref`, whose op is `op`, keeps the invariant: `processCrudOp` marks `op` if it
is a capped insert, and `addToWriterVector` records `ref`. -/
theorem CappedInv.route {st : FillState} (inv : CappedInv ctx batch st) {ref : OpRef}
    {op : OplogEntry} (found : st.store.get? ref = some op) :
    CappedInv ctx batch
      (addToWriterVector ref (processIfCrud ctx ref op st).1 (processIfCrud ctx ref op st).2) := by
  set marked := if isCappedInsert ctx op then { op with isForCappedCollection := true } else op
  have stored : ∀ x, (processIfCrud ctx ref op st).2.store.get? x =
      if x = ref then some marked else st.store.get? x := by
    intro x
    rw [processIfCrud_store_of_agrees ctx inv.agrees ref op]
    by_cases capped : isCappedInsert ctx op <;> by_cases same : x = ref <;>
      simp [OpStore.get?_modify, marked, capped, same, found]
  have grown : st.routed ⊆ st.routed ++ [ref] := List.subset_append_left _ _
  refine ⟨by simp [processIfCrud_store_of_agrees ctx inv.agrees ref op, apply_ite, inv.shape],
    fun x => ?_, fun x mem => ?_, (processIfCrud_of_agrees ctx inv.agrees ref op).2⟩
  · simp only [addToWriterVector_store, addToWriterVector_produced, processIfCrud_produced,
      addToWriterVector_routed, processIfCrud_routed, stored]
    split_ifs with same
    · subst same
      by_cases capped : isCappedInsert ctx op
      · rcases inv.marked x with unchanged | ⟨given, givenFound, setGiven, -, givenCapped⟩
        · exact .inr ⟨op, unchanged ▸ found, by simp [marked, capped], by simp, capped⟩
        · rw [found, Option.some.injEq] at setGiven
          subst setGiven
          exact .inr ⟨given, givenFound, by simp [marked, capped], by simp, givenCapped⟩
      · simpa [marked, capped, ← found] using inv.marked.mono ctx grown x
    · exact inv.marked.mono ctx grown x
  · simp only [addToWriterVector_routed, processIfCrud_routed, List.mem_append, List.mem_singleton]
      at mem
    simp only [addToWriterVector_store, stored]
    split_ifs with same
    · refine ⟨marked, rfl, fun capped => ?_⟩
      by_cases capped' : isCappedInsert ctx op <;> simp_all [marked]
    · exact inv.routed_marked x (mem.resolve_right same)

theorem CappedInv.addDerivedOps {vector : Nat} {ops : List OplogEntry} :
    ∀ {index : Nat} {st : FillState}, CappedInv ctx batch st →
      (∀ i, st.store.get? (.derived vector (index + i)) = ops[i]?) →
      CappedInv ctx batch (addDerivedOps ctx vector index ops st) := by
  induction ops with
  | nil => intro index st inv _; exact inv
  | cons op rest ih =>
      intro index st inv fresh
      refine ih (inv.route (by simpa using fresh 0)) fun i => ?_
      rw [route_get?_of_ne ctx (by simp; omega), show index + 1 + i = index + (i + 1) by omega, fresh,
        List.getElem?_cons_succ]

/-- Appending a derived vector as given keeps the invariant. -/
theorem CappedInv.emplaceBack {st : FillState} (inv : CappedInv ctx batch st) (ops : List OplogEntry) :
    CappedInv ctx batch
      { st with store := st.store.emplaceBack ops, produced := st.produced ++ [ops] } :=
  ⟨by simp [inv.shape], inv.marked.emplaceBack ctx inv.shape ops,
    fun x mem => by
      obtain ⟨op, found, capped⟩ := inv.routed_marked x mem
      exact ⟨op, by rw [OpStore.get?_emplaceBack_of_isSome (by simp [found]), found], capped⟩,
    inv.agrees⟩

theorem CappedInv.emplaceDerivedOps {st : FillState} (inv : CappedInv ctx batch st)
    (ops : List OplogEntry) : CappedInv ctx batch (emplaceDerivedOps ctx ops st) :=
  (inv.emplaceBack ops).addDerivedOps fun i => by
    simpa using OpStore.get?_emplaceBack_new st.store ops i

theorem CappedInv.trackSession {st : FillState} (inv : CappedInv ctx batch st) (op : OplogEntry) :
    CappedInv ctx batch (trackSession ctx op st) := by
  dsimp only [SyncTail.trackSession]
  split
  · exact (show CappedInv ctx batch { st with sessionOps := st.sessionOps ++ [op] } from
      inv.congr rfl rfl rfl rfl).emplaceDerivedOps _
  · exact inv.congr rfl rfl rfl rfl

theorem CappedInv.routeEntry {st st' : FillState} (inv : CappedInv ctx batch st) {ref : OpRef}
    {op : OplogEntry} (found : st.store.get? ref = some op)
    (stepped : routeEntry ctx ref op st = .ok st') : CappedInv ctx batch st' := by
  rcases routeEntry_cases ctx stepped with
    ⟨-, buffered⟩ | ⟨-, -, -, aborted, abortedOk, rfl⟩ | ⟨sessionId, -, -, rfl⟩ | ⟨-, -, -, rfl⟩
  · obtain ⟨_, _, rfl⟩ := bufferPartialTxn_eq buffered
    exact inv.congr rfl rfl rfl rfl
  · obtain ⟨partialTxnOps, rfl⟩ := abortPartialTxn_frame abortedOk
    exact (show CappedInv ctx batch { st with partialTxnOps } from
      inv.congr rfl rfl rfl rfl).route found
  · exact (show CappedInv ctx batch { clearPartialTxn sessionId st with
      txnReads := st.txnReads ++ [(ref, st.partialTxnOps sessionId)] } from
        inv.congr rfl rfl rfl rfl).emplaceDerivedOps _
  · exact inv.emplaceDerivedOps _

theorem CappedInv.deriveStep {trackSessions : Bool} {st st' : FillState} {ref : OpRef}
    (inv : CappedInv ctx batch st) (stepped : deriveStep ctx trackSessions st ref = .ok st') :
    CappedInv ctx batch st' := by
  unfold SyncTail.deriveStep at stepped
  split at stepped
  · cases stepped; exact inv
  rename_i op found
  split at stepped
  · cases stepped; exact inv
  refine CappedInv.routeEntry ?_ ?_ stepped
  · split
    · exact inv.trackSession op
    · exact inv
  · split
    · rw [trackSession_get?_of_isSome ctx (by simp [found]), found]
    · exact found

theorem CappedInv.deriveLoop {trackSessions : Bool} (refs : List OpRef) :
    ∀ {st st' : FillState}, CappedInv ctx batch st →
      SyncTail.deriveLoop ctx trackSessions refs st = .ok st' → CappedInv ctx batch st' := by
  induction refs with
  | nil => intro st st' inv ran; cases ran; exact inv
  | cons ref rest ih =>
      intro st st' inv ran
      simp only [SyncTail.deriveLoop, bind, Except.bind] at ran
      split at ran
      · cases ran
      · rename_i next stepped
        exact ih (inv.deriveStep stepped) ran

/-- A pass starts with a fresh cache, which holds no answer at all. -/
theorem CappedInv.deriveOps {trackSessions : Bool} {refs : List OpRef} {st st' : FillState}
    (inv : CappedInv ctx batch st)
    (ran : deriveOpsAndFillWriterVectors ctx trackSessions refs st = .ok st') :
    CappedInv ctx batch st' :=
  CappedInv.deriveLoop refs (show CappedInv ctx batch
    { st with partialTxnOps := fun _ => [], collPropertiesCache := {} } from
      ⟨inv.shape, inv.marked, inv.routed_marked,
        CachedCollectionProperties.agrees_empty _⟩) ran

theorem CappedInv.fillWriterVectors {st st' : FillState} (inv : CappedInv ctx batch st)
    (ran : SyncTail.fillWriterVectors ctx st = .ok st') : CappedInv ctx batch st' := by
  simp only [SyncTail.fillWriterVectors, bind, Except.bind] at ran
  split at ran
  · cases ran
  rename_i mid first
  have midInv : CappedInv ctx batch mid :=
    (show CappedInv ctx batch { st with sessionOps := [] } from inv.congr rfl rfl rfl rfl).deriveOps
      first
  split at ran
  · cases ran; exact midInv
  · exact (midInv.emplaceBack _).deriveOps ran

end Invariant

section Marking

variable (ctx : FillContext)

/-- After `fillWriterVectors`, every insert in a writer vector whose collection the catalog
reports as capped is marked; and every op of the batch and of the derived vectors, as
their producers returned them, is unchanged or is a routed capped insert that was only
marked. -/
theorem fillWriterVectors_marks_capped_inserts {ops : List OplogEntry}
    {writerVectors : WriterVectors} {derivedOps : List (List OplogEntry)} {st' : FillState}
    (empty : ∀ v ∈ writerVectors.vectors, v = [])
    (ran : fillWriterVectors ctx (FillState.init ops writerVectors derivedOps) = .ok st') :
    (∀ x ∈ st'.writerVectors.vectors.flatten, ∀ op, st'.store.get? x = some op →
      isCappedInsert ctx op → op.isForCappedCollection) ∧
    ∀ x, st'.store.get? x = (OpStore.mk ops st'.produced).get? x ∨
      ∃ op, (OpStore.mk ops st'.produced).get? x = some op ∧
        st'.store.get? x = some { op with isForCappedCollection := true } ∧
        x ∈ st'.writerVectors.vectors.flatten ∧ isCappedInsert ctx op := by
  have inv := (CappedInv.initial ops writerVectors derivedOps).fillWriterVectors ran
  have routing := fillWriterVectors_routes ctx ran
  have inVectors : ∀ x, x ∈ st'.writerVectors.vectors.flatten ↔ x ∈ st'.routed := fun x => by
    rw [routing.flatten_perm.mem_iff, List.flatten_eq_nil_iff.mpr empty, List.nil_append]
  refine ⟨fun x mem op found => ?_, fun x => ?_⟩
  · obtain ⟨op', found', marked⟩ := inv.routed_marked x ((inVectors x).mp mem)
    rw [found, Option.some.injEq] at found'
    exact found' ▸ marked
  simp only [inVectors]
  exact inv.marked x

/-- The sample collaborators over a catalog in which `test.capped` is the one collection,
and a capped one. -/
def cappedContext : FillContext :=
  { sampleContext .kSecondary with
    databaseHolder := ⟨fun _ => some ⟨fun nss => if nss.ns = "test.capped" then some ⟨true, none⟩ else none⟩⟩ }

/-- An insert into the capped collection, then one into `test.c`. -/
def sampleCappedBatch : List OplogEntry :=
  [{ insertEntry "a" 1 with nss := ⟨"test.capped"⟩ }, insertEntry "b" 2]

theorem fillWriterVectors_marks_capped_inserts_sampleCappedBatch :
    (∀ v ∈ sampleWriters.vectors, v = []) ∧
      ∃ st', fillWriterVectors cappedContext (FillState.init sampleCappedBatch sampleWriters []) =
          .ok st' ∧
        (∀ x ∈ st'.writerVectors.vectors.flatten, ∀ op, st'.store.get? x = some op →
          isCappedInsert cappedContext op → op.isForCappedCollection) ∧
        ∀ x, st'.store.get? x = (OpStore.mk sampleCappedBatch st'.produced).get? x ∨
          ∃ op, (OpStore.mk sampleCappedBatch st'.produced).get? x = some op ∧
            st'.store.get? x = some { op with isForCappedCollection := true } ∧
            x ∈ st'.writerVectors.vectors.flatten ∧ isCappedInsert cappedContext op := by
  have empty : ∀ v ∈ sampleWriters.vectors, v = [] := by decide
  obtain ⟨st', ran⟩ : ∃ st', fillWriterVectors cappedContext
      (FillState.init sampleCappedBatch sampleWriters []) = .ok st' := ⟨_, rfl⟩
  exact ⟨empty, st', ran, fillWriterVectors_marks_capped_inserts cappedContext empty ran⟩

end Marking

end SyncTail
