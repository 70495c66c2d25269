import Mathlib.Data.String.Basic
import Mathlib.Data.List.Sort

/-!
# Oplog entries

The parts of an `OplogEntry` that `sync_tail.cpp` reads, and the orders it compares
entries by.

The class itself, its predicates and `OpTime` are declared in headers that are not part
of this development's source. We model them from the specification's data model: an
entry has an op type, a namespace, an optional collection UUID, an opTime, optional
session fields and the transaction flags of its payload. The predicates
`isPartialTransaction`, `shouldPrepare`, `isTerminalApplyOps` and `isPreparedCommit`
are computed from the command type and the payload's `partialTxn` and `prepare` flags,
so that an entry has at most one transaction role, as the oplog format has it.

`stableSortByNamespace` is modelled by `List.mergeSort` with the comparator
`l ≤ r ↔ ¬ r < l`: both are stable sorts, so they agree on every input.
-/

namespace SyncTail

/-- `OpTypeEnum`: the kind of write an oplog entry records. -/
inductive OpTypeEnum
  | kCommand
  | kInsert
  | kUpdate
  | kDelete
  | kNoop
  deriving DecidableEq, Repr, Inhabited

/-- `OplogEntry::CommandType`, with the command kinds this file never tells apart merged
into `kOther`. -/
inductive CommandType
  | kNotCommand
  | kApplyOps
  | kCommitTransaction
  | kAbortTransaction
  | kOther
  deriving DecidableEq, Repr, Inhabited

/-- `OplogApplication::Mode`. -/
inductive OplogApplication.Mode
  | kInitialSync
  | kRecovering
  | kSecondary
  deriving DecidableEq, Repr, Inhabited

/-- Modelled from the spec: `OpTime` (optime.h) is a logical timestamp `(term, ts)`,
ordered by term and then by timestamp. -/
structure OpTime where
  term : Int
  timestamp : Nat
  deriving DecidableEq, Repr, Inhabited

namespace OpTime

/-- The order of `(term, ts)` pairs. -/
def le (a b : OpTime) : Prop :=
  a.term < b.term ∨ (a.term = b.term ∧ a.timestamp ≤ b.timestamp)

instance : LE OpTime := ⟨le⟩

instance (a b : OpTime) : Decidable (a ≤ b) := inferInstanceAs (Decidable (_ ∨ _))

theorem le_def {a b : OpTime} :
    a ≤ b ↔ a.term < b.term ∨ (a.term = b.term ∧ a.timestamp ≤ b.timestamp) := Iff.rfl

theorem le_trans {a b c : OpTime} (hab : a ≤ b) (hbc : b ≤ c) : a ≤ c := by
  rw [le_def] at *
  omega

end OpTime

/-- `LogicalSessionId`, compared by its identity only. -/
structure LogicalSessionId where
  id : Nat
  deriving DecidableEq, Repr, Inhabited

/-- `TxnNumber`. -/
abbrev TxnNumber := Int

/-- `CollectionUUID`. -/
structure CollectionUUID where
  id : Nat
  deriving DecidableEq, Repr, Inhabited

/-- `NamespaceString`: a `db.collection` name. -/
structure NamespaceString where
  ns : String
  deriving DecidableEq, Repr, Inhabited

namespace NamespaceString

/-- `NamespaceString::db`: the part before the first dot. -/
def db (nss : NamespaceString) : String :=
  String.mk (nss.ns.data.takeWhile (· ≠ '.'))

/-- `NamespaceString::coll`: the part after the first dot. -/
def coll (nss : NamespaceString) : String :=
  String.mk ((nss.ns.data.dropWhile (· ≠ '.')).drop 1)

/-- `NamespaceString::isSystemDotViews`. -/
def isSystemDotViews (nss : NamespaceString) : Bool :=
  nss.coll == "system.views"

/-- `NamespaceString::operator<`: the byte order of the full names. -/
def lt (l r : NamespaceString) : Bool :=
  decide (l.ns.data < r.ns.data)

end NamespaceString

/-- `NamespaceStringOrUUID`: what `AutoGetCollection` locks. -/
inductive NamespaceStringOrUUID
  | nss (nss : NamespaceString)
  | dbAndUUID (db : String) (uuid : CollectionUUID)
  deriving DecidableEq, Repr

/-- A BSON element: the `_id` of a CRUD op. Its value is compared only through a
`BSONElementComparator`. -/
structure BSONElement where
  fieldName : String
  value : String
  deriving DecidableEq, Repr, Inhabited

/-- The fields of an `OplogEntry` that oplog application reads. `command`, `partialTxn`
and `prepare` are read from the payload; `isForCappedCollection` is the one field the
applier writes. -/
structure OplogEntry where
  opType : OpTypeEnum
  nss : NamespaceString
  uuid : Option CollectionUUID
  opTime : OpTime
  sessionId : Option LogicalSessionId
  txnNumber : Option TxnNumber
  prevWriteOpTimeInTransaction : Option OpTime
  command : CommandType
  partialTxn : Bool
  prepare : Bool
  idElement : BSONElement
  isForCappedCollection : Bool
  deriving DecidableEq, Repr, Inhabited

namespace OplogEntry

variable (op : OplogEntry)

/-- Modelled from the spec: `OplogEntry::getCommandType` is the payload's command for a
command entry and `kNotCommand` otherwise. -/
def getCommandType : CommandType :=
  if op.opType = .kCommand then op.command else .kNotCommand

/-- `OplogEntry::isCrudOpType`. -/
def isCrudOpType : Bool :=
  op.opType = .kInsert || op.opType = .kUpdate || op.opType = .kDelete

/-- Modelled from the spec: `OplogEntry::isPartialTransaction`, an `applyOps` entry that
is not the last of its transaction. -/
def isPartialTransaction : Bool :=
  op.getCommandType = .kApplyOps && op.partialTxn

/-- Modelled from the spec: `OplogEntry::shouldPrepare`, the `applyOps` entry that
prepares a transaction. -/
def shouldPrepare : Bool :=
  op.getCommandType = .kApplyOps && op.prepare

/-- Modelled from the spec: `OplogEntry::isTerminalApplyOps`, an `applyOps` that ends its
oplog chain. -/
def isTerminalApplyOps : Bool :=
  op.getCommandType = .kApplyOps && !op.shouldPrepare && !op.isPartialTransaction

/-- Modelled from the spec: `OplogEntry::isPreparedCommit`, the `commitTransaction` of a
prepared transaction. -/
def isPreparedCommit : Bool :=
  op.getCommandType = .kCommitTransaction

theorem getCommandType_of_isTerminalApplyOps (terminal : op.isTerminalApplyOps) :
    op.getCommandType = .kApplyOps := by
  simp_all [isTerminalApplyOps]

theorem getCommandType_of_isPreparedCommit (commit : op.isPreparedCommit) :
    op.getCommandType = .kCommitTransaction := by
  simpa [isPreparedCommit] using commit

theorem not_isCrudOpType_of_isTerminalApplyOps (terminal : op.isTerminalApplyOps) :
    ¬op.isCrudOpType := by
  cases h : op.opType <;>
    simp_all [isTerminalApplyOps, getCommandType, isCrudOpType]

theorem not_isCrudOpType_of_isPreparedCommit (commit : op.isPreparedCommit) :
    ¬op.isCrudOpType := by
  cases h : op.opType <;> simp_all [isPreparedCommit, getCommandType, isCrudOpType]

/-- Setting `isForCappedCollection` changes none of the fields the applier decides by. -/
@[simp]
theorem setCapped_nss : { op with isForCappedCollection := true }.nss = op.nss := rfl

@[simp]
theorem setCapped_opType : { op with isForCappedCollection := true }.opType = op.opType := rfl

@[simp]
theorem setCapped_idElement :
    { op with isForCappedCollection := true }.idElement = op.idElement := rfl

@[simp]
theorem setCapped_isCrudOpType :
    { op with isForCappedCollection := true }.isCrudOpType = op.isCrudOpType := rfl

end OplogEntry

/-- `OplogApplier::Options`: the settings oplog application reads. -/
structure Options where
  mode : OplogApplication.Mode
  beginApplyingOpTime : OpTime
  allowNamespaceNotFoundErrorsOnCrudOps : Bool
  deriving DecidableEq, Repr

/-- `getNsOrUUID`: lock a collection by UUID when the entry carries one. -/
def getNsOrUUID (nss : NamespaceString) (op : OplogEntry) : NamespaceStringOrUUID :=
  match op.uuid with
  | some ui => .dbAndUUID nss.db ui
  | none => .nss nss

/-! ### Sorting a worker's ops by namespace -/

/-- The comparator `std::stable_sort` receives, as the total preorder `!(r < l)` that
`List.mergeSort` takes. -/
def nssLe {α : Type} (getNss : α → NamespaceString) (l r : α) : Bool :=
  !(getNss r).lt (getNss l)

/-- `stableSortByNamespace`: sort a worker's ops by namespace, keeping the order of ops
with equal namespaces. The source sorts `OplogEntry*` by the pointed entry's namespace;
`getNss` is that dereference. -/
def stableSortByNamespace {α : Type} (getNss : α → NamespaceString) (ops : List α) :
    List α :=
  if ops.length < 1 then ops else ops.mergeSort (nssLe getNss)

section NamespaceOrder

variable {α : Type} (getNss : α → NamespaceString)

theorem nssLe_trans (a b c : α) (hab : nssLe getNss a b) (hbc : nssLe getNss b c) :
    nssLe getNss a c := by
  simp only [nssLe, NamespaceString.lt, Bool.not_eq_true', decide_eq_false_iff_not,
    not_lt] at *
  exact le_trans hab hbc

theorem nssLe_total (a b : α) : (nssLe getNss a b || nssLe getNss b a) = true := by
  simp only [nssLe, NamespaceString.lt, Bool.or_eq_true, Bool.not_eq_true',
    decide_eq_false_iff_not, not_lt]
  exact le_total _ _

theorem stableSortByNamespace_perm (ops : List α) :
    (stableSortByNamespace getNss ops).Perm ops := by
  unfold stableSortByNamespace
  split
  · exact List.Perm.refl ops
  · exact List.mergeSort_perm ops _

@[simp]
theorem mem_stableSortByNamespace {ops : List α} {a : α} :
    a ∈ stableSortByNamespace getNss ops ↔ a ∈ ops :=
  (stableSortByNamespace_perm getNss ops).mem_iff

/-- Stability: two ops of one namespace keep their relative order. -/
theorem pair_sublist_stableSortByNamespace {ops : List α} {a b : α}
    (sameNss : getNss a = getNss b) (ordered : [a, b].Sublist ops) :
    [a, b].Sublist (stableSortByNamespace getNss ops) := by
  unfold stableSortByNamespace
  split
  · exact ordered
  · refine List.pair_sublist_mergeSort (nssLe_trans getNss) (nssLe_total getNss) ?_ ordered
    simp [nssLe, NamespaceString.lt, sameNss]

theorem pair_sublist_or_of_mem {l : List α} {a b : α} (memA : a ∈ l) (memB : b ∈ l)
    (distinct : a ≠ b) : [a, b].Sublist l ∨ [b, a].Sublist l := by
  induction l with
  | nil => simp at memA
  | cons x t ih =>
      rcases List.mem_cons.mp memA with rfl | memA'
      · rcases List.mem_cons.mp memB with rfl | memB'
        · exact absurd rfl distinct
        · exact Or.inl ((List.singleton_sublist.mpr memB').cons₂ a)
      · rcases List.mem_cons.mp memB with rfl | memB'
        · exact Or.inr ((List.singleton_sublist.mpr memA').cons₂ b)
        · exact (ih memA' memB').imp (·.cons x) (·.cons x)

theorem not_pair_sublist_swap {l : List α} {a b : α} (nodup : l.Nodup)
    (ab : [a, b].Sublist l) : ¬[b, a].Sublist l := by
  induction l with
  | nil => cases ab
  | cons x t ih =>
      rw [List.nodup_cons] at nodup
      intro ba
      cases ab with
      | cons _ ab' =>
          cases ba with
          | cons _ ba' => exact ih nodup.2 ab' ba'
          | cons₂ _ _ => exact nodup.1 (ab'.subset (by simp))
      | cons₂ _ ab' =>
          cases ba with
          | cons _ ba' => exact nodup.1 (ba'.subset (by simp))
          | cons₂ _ _ => exact nodup.1 (ab'.subset (by simp))

/-- The converse of stability: two distinct ops of one namespace in a list without
duplicates are in the same order after the sort as before it. -/
theorem pair_sublist_stableSortByNamespace_iff {ops : List α} {a b : α} (nodup : ops.Nodup)
    (sameNss : getNss a = getNss b) (distinct : a ≠ b) (memA : a ∈ ops) (memB : b ∈ ops) :
    [a, b].Sublist (stableSortByNamespace getNss ops) ↔ [a, b].Sublist ops := by
  refine ⟨fun sorted => ?_, pair_sublist_stableSortByNamespace getNss sameNss⟩
  rcases pair_sublist_or_of_mem memA memB distinct with ordered | reversed
  · exact ordered
  · have sortedNodup := (stableSortByNamespace_perm getNss ops).nodup_iff.mpr nodup
    exact absurd sorted (not_pair_sublist_swap sortedNodup
      (pair_sublist_stableSortByNamespace getNss sameNss.symm reversed))

end NamespaceOrder

/-! ### Sample entries -/

/-- An insert into `test.c` of the document with `_id` `id`, at opTime `(1, timestamp)`. -/
def insertEntry (id : String) (timestamp : Nat) : OplogEntry where
  opType := .kInsert
  nss := ⟨"test.c"⟩
  uuid := none
  opTime := ⟨1, timestamp⟩
  sessionId := none
  txnNumber := none
  prevWriteOpTimeInTransaction := none
  command := .kNotCommand
  partialTxn := false
  prepare := false
  idElement := ⟨"_id", id⟩
  isForCappedCollection := false

end SyncTail
