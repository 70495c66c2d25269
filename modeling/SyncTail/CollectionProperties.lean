import SyncTail.OplogEntry

/-!
# Cached collection properties

Routing reads two properties of an op's collection: whether it is capped, and its default
collator. `CachedCollectionProperties` memoizes them for one partitioning pass, keyed by
the namespace string, so that the catalog is read once per namespace.

The catalog is a `DatabaseHolder`; other threads may change it between two reads, so a
run of lookups pairs every key with the catalog as that lookup would see it. The
invariant `FirstAnswers` says that the cache holds, for each key looked up so far, what
`getCollectionPropertiesImpl` answered at the first lookup of that key.
-/

namespace SyncTail

/-- `CollatorInterface`, identified by its locale. -/
structure Collator where
  locale : String
  deriving DecidableEq, Repr, Inhabited

/-- A `Collection` as the catalog reports it. -/
structure Collection where
  isCapped : Bool
  defaultCollator : Option Collator

/-- A `Database`: its collections by namespace. -/
structure Database where
  getCollection : NamespaceString → Option Collection

/-- `DatabaseHolder`: the open databases by name. -/
structure DatabaseHolder where
  getDb : String → Option Database

/-- `CachedCollectionProperties::CollectionProperties`, with its defaults. -/
structure CollectionProperties where
  isCapped : Bool := false
  collator : Option Collator := none
  deriving DecidableEq, Repr, Inhabited

/-- `getCollectionPropertiesImpl`: the catalog's answer, or the defaults when the
database or the collection does not exist. -/
def getCollectionPropertiesImpl (databaseHolder : DatabaseHolder) (nss : NamespaceString) :
    CollectionProperties :=
  match databaseHolder.getDb nss.db with
  | none => {}
  | some db =>
      match db.getCollection nss with
      | none => {}
      | some collection =>
          { isCapped := collection.isCapped, collator := collection.defaultCollator }

/-- `CachedCollectionProperties`: the `StringMap` from namespace to properties. -/
structure CachedCollectionProperties where
  cache : List (String × CollectionProperties) := []

namespace CachedCollectionProperties

/-- `getCollectionProperties`: the cached answer, or the catalog's answer stored under
`ns`. -/
def getCollectionProperties (databaseHolder : DatabaseHolder) (cached : CachedCollectionProperties)
    (ns : String) : CollectionProperties × CachedCollectionProperties :=
  match cached.cache.lookup ns with
  | some collProperties => (collProperties, cached)
  | none =>
      let collProperties := getCollectionPropertiesImpl databaseHolder ⟨ns⟩
      (collProperties, ⟨(ns, collProperties) :: cached.cache⟩)

/-- A sequence of lookups, each against the catalog as it is at that lookup. -/
def lookupRun : List (DatabaseHolder × String) → CachedCollectionProperties →
    List CollectionProperties × CachedCollectionProperties
  | [], cached => ([], cached)
  | (databaseHolder, ns) :: rest, cached =>
      let (collProperties, cached) := cached.getCollectionProperties databaseHolder ns
      let (answers, cached) := lookupRun rest cached
      (collProperties :: answers, cached)

/-- The answer of the first of `lookups` with key `ns`. -/
def firstAnswer (lookups : List (DatabaseHolder × String)) (ns : String) :
    Option CollectionProperties :=
  (lookups.find? (·.2 == ns)).map fun first => getCollectionPropertiesImpl first.1 ⟨ns⟩

/-- The cache holds, for every key among `lookups`, the answer of its first lookup, and
nothing else. -/
def FirstAnswers (lookups : List (DatabaseHolder × String)) (cached : CachedCollectionProperties) :
    Prop :=
  ∀ ns, cached.cache.lookup ns = firstAnswer lookups ns

theorem firstAnswers_empty : FirstAnswers [] {} := fun _ => rfl

theorem firstAnswer_append_singleton (lookups : List (DatabaseHolder × String))
    (databaseHolder : DatabaseHolder) (key ns : String) :
    firstAnswer (lookups ++ [(databaseHolder, key)]) ns =
      (firstAnswer lookups ns).or
        (if key = ns then some (getCollectionPropertiesImpl databaseHolder ⟨ns⟩) else none) := by
  unfold firstAnswer
  rw [List.find?_append]
  generalize lookups.find? (·.2 == ns) = found
  cases found with
  | some first => rfl
  | none => by_cases same : key = ns <;> simp [same]

theorem firstAnswer_append_of_isSome {lookups : List (DatabaseHolder × String)} {ns : String}
    (found : (firstAnswer lookups ns).isSome) (later : List (DatabaseHolder × String)) :
    firstAnswer (lookups ++ later) ns = firstAnswer lookups ns := by
  unfold firstAnswer at *
  rw [List.find?_append, Option.or_of_isSome (by simpa using found)]

/-- One lookup keeps `FirstAnswers` and returns the first answer for its key. -/
theorem getCollectionProperties_firstAnswers {lookups : List (DatabaseHolder × String)}
    {cached : CachedCollectionProperties} (inv : FirstAnswers lookups cached)
    (databaseHolder : DatabaseHolder) (ns : String) :
    some (cached.getCollectionProperties databaseHolder ns).1 =
        firstAnswer (lookups ++ [(databaseHolder, ns)]) ns ∧
      FirstAnswers (lookups ++ [(databaseHolder, ns)])
        (cached.getCollectionProperties databaseHolder ns).2 := by
  unfold getCollectionProperties
  split <;> rename_i found
  · rw [inv ns] at found
    refine ⟨by simp [firstAnswer_append_singleton, found], fun key => ?_⟩
    rw [inv key, firstAnswer_append_singleton]
    by_cases same : ns = key
    · subst same; simp [found]
    · simp [same]
  · rw [inv ns] at found
    refine ⟨by simp [firstAnswer_append_singleton, found], fun key => ?_⟩
    rw [firstAnswer_append_singleton]
    by_cases same : ns = key
    · subst same; simp [found]
    · have differs : (key == ns) = false := beq_eq_false_iff_ne.mpr (Ne.symm same)
      simp [List.lookup_cons, differs, inv key, same, Option.or_none]

/-- A run of lookups answers each key with its first answer over everything looked up. -/
theorem lookupRun_firstAnswers (run : List (DatabaseHolder × String)) :
    ∀ {lookups cached}, FirstAnswers lookups cached →
      (lookupRun run cached).1.map some = run.map (fun x => firstAnswer (lookups ++ run) x.2) ∧
        FirstAnswers (lookups ++ run) (lookupRun run cached).2 := by
  induction run with
  | nil => intro lookups cached inv; simpa [lookupRun] using inv
  | cons x rest ih =>
      intro lookups cached inv
      obtain ⟨first, inv'⟩ := getCollectionProperties_firstAnswers inv x.1 x.2
      obtain ⟨answers, invRest⟩ := ih inv'
      have reassoc : lookups ++ [x] ++ rest = lookups ++ x :: rest := by simp
      rw [reassoc] at answers invRest
      refine ⟨?_, invRest⟩
      simp only [lookupRun, List.map_cons, answers, List.cons.injEq, and_true]
      rw [← reassoc, firstAnswer_append_of_isSome (by simp [← first]), first]

/-- Within one pass every lookup returns the answer of the first lookup of its key, the
catalog is read at a lookup exactly when its key was not looked up before, and against a
catalog that does not change the cached answers are the catalog's answers. -/
theorem lookupRun_answers_first_lookup (lookups : List (DatabaseHolder × String)) :
    (lookupRun lookups {}).1.map some = lookups.map (fun x => firstAnswer lookups x.2) ∧
      (∀ i (hi : i < lookups.length),
        ((lookupRun (lookups.take i) {}).2.cache.lookup lookups[i].2).isNone ↔
          lookups[i].2 ∉ (lookups.take i).map Prod.snd) ∧
      ∀ databaseHolder, (∀ x ∈ lookups, x.1 = databaseHolder) →
        (lookupRun lookups {}).1 =
          lookups.map (fun x => getCollectionPropertiesImpl databaseHolder ⟨x.2⟩) := by
  have first := (lookupRun_firstAnswers lookups firstAnswers_empty).1
  rw [List.nil_append] at first
  refine ⟨first, fun i hi => ?_, fun databaseHolder unchanged => ?_⟩
  · have cached := (lookupRun_firstAnswers (lookups.take i) firstAnswers_empty).2
    rw [List.nil_append] at cached
    rw [cached, firstAnswer]
    simp only [Option.isNone_iff_eq_none, Option.map_eq_none', List.find?_eq_none, List.mem_map,
      beq_iff_eq, not_exists, not_and]
  · have catalogAnswers : lookups.map (fun x => firstAnswer lookups x.2) =
        (lookups.map fun x => getCollectionPropertiesImpl databaseHolder ⟨x.2⟩).map some := by
      rw [List.map_map]
      refine List.map_congr_left fun x mem => ?_
      obtain ⟨y, found⟩ := Option.isSome_iff_exists.mp
        (List.find?_isSome.mpr ⟨x, mem, by simp⟩ : (lookups.find? (·.2 == x.2)).isSome)
      have sameKey : y.2 = x.2 := by simpa using List.find?_some found
      simp [firstAnswer, found, unchanged y (List.mem_of_find?_eq_some found)]
    exact List.map_injective_iff.mpr (Option.some_injective _) (first.trans catalogAnswers)

/-- Every cached answer is the catalog's answer: the cache of a pass run against a catalog
that does not change. -/
def Agrees (databaseHolder : DatabaseHolder) (cached : CachedCollectionProperties) : Prop :=
  ∀ ns collProperties, cached.cache.lookup ns = some collProperties →
    collProperties = getCollectionPropertiesImpl databaseHolder ⟨ns⟩

theorem agrees_empty (databaseHolder : DatabaseHolder) : Agrees databaseHolder {} := by
  intro ns collProperties found
  cases found

theorem getCollectionProperties_of_agrees {databaseHolder : DatabaseHolder}
    {cached : CachedCollectionProperties} (agrees : Agrees databaseHolder cached) (ns : String) :
    (cached.getCollectionProperties databaseHolder ns).1 =
        getCollectionPropertiesImpl databaseHolder ⟨ns⟩ ∧
      Agrees databaseHolder (cached.getCollectionProperties databaseHolder ns).2 := by
  unfold getCollectionProperties
  split <;> rename_i found
  · exact ⟨agrees ns _ found, agrees⟩
  · refine ⟨rfl, fun key collProperties cachedAt => ?_⟩
    by_cases same : ns = key
    · subst same
      simpa using cachedAt.symm
    · have differs : (key == ns) = false := beq_eq_false_iff_ne.mpr (Ne.symm same)
      simp only [List.lookup_cons, differs] at cachedAt
      exact agrees key collProperties cachedAt

end CachedCollectionProperties

end SyncTail
