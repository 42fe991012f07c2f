import TicketBooking.Lib.Covers
import TicketBooking.Lib.Grouping
import TicketBooking.Lib.SmallestFirst
import Mathlib.Data.List.MinMax
import Mathlib.Data.Prod.Lex
import Mathlib.Data.String.Basic
import Mathlib.Order.BooleanAlgebra.Basic

/-!
# The index report

`find_redundant` reports the plain btree indexes that another index of the table covers.  All of
them can be dropped together: coverage is a strict order on the indexes (`strict_coveredBy`), so
each reported index has a cover that is not reported, and what a foreign key needs stays.

* `candidates`, `redundantNames`, `keeper`: the dictionary, the set and the choice of the function.
* `findRedundant_perm`: the report is one finding per covered index, in name order.
* `SafeReport` says what a reader of the report relies on; `findRedundant_safe` that it holds.
-/

namespace TicketBooking

open Covers Grouping SmallestFirst

/-! ## The program -/

structure IndexInfo where
  tbl : String
  idx : String
  method : String
  isUnique : Bool
  isPrimary : Bool
  isValid : Bool
  hasExpression : Bool
  backsConstraint : Bool
  predicate : Option String
  keys : List String
  options : List ℕ
  opclasses : List String
  collations : List String
  sizeBytes : ℕ
  scans : ℕ
deriving DecidableEq

/-- `droppable_kind` -/
def IndexInfo.droppableKind (i : IndexInfo) : Bool :=
  i.method = "btree" && i.isValid && !i.isUnique && !i.isPrimary && !i.backsConstraint &&
    !i.hasExpression

/-- `columns_text` -/
def IndexInfo.columnsText (i : IndexInfo) : String :=
  ", ".intercalate ((i.keys.zip i.options).map fun (k, o) => if o % 2 = 1 then k ++ " DESC" else k)

/-- `signature(length)` -/
def IndexInfo.signature (i : IndexInfo) (length : ℕ) :
    List String × List ℕ × List String × List String × Option String :=
  (i.keys.take length, i.options.take length, i.opclasses.take length, i.collations.take length,
    i.predicate)

@[ext] structure Finding where
  kind : String
  table : String
  index : String
  detail : String
  coveredBy : Option String
  sizeBytes : ℕ
  scans : ℕ
deriving DecidableEq

/-- The tests of the two inner loops of `find_redundant`: `b` becomes a candidate for `a`. -/
def IndexInfo.CoveredBy (a b : IndexInfo) : Prop :=
  a.droppableKind = true ∧
  ¬(a = b ∨ b.method ≠ "btree" ∨ b.isValid = false ∨ b.hasExpression = true ∨
    b.keys.length < a.keys.length) ∧
  a.signature a.keys.length = b.signature a.keys.length ∧
  ¬(b.keys.length = a.keys.length ∧ b.droppableKind = true ∧ a.idx < b.idx)

instance : DecidableRel IndexInfo.CoveredBy := fun a b =>
  inferInstanceAs (Decidable (a.droppableKind = true ∧
    ¬(a = b ∨ b.method ≠ "btree" ∨ b.isValid = false ∨ b.hasExpression = true ∨
      b.keys.length < a.keys.length) ∧
    a.signature a.keys.length = b.signature a.keys.length ∧
    ¬(b.keys.length = a.keys.length ∧ b.droppableKind = true ∧ a.idx < b.idx)))

/-- `candidates[name]`, empty where the dictionary has no entry. -/
def candidates (group : List IndexInfo) (name : String) : List IndexInfo :=
  group.flatMap fun a => if a.idx = name then group.filter fun b => a.CoveredBy b else []

/-- `redundant_names` -/
def redundantNames (group : List IndexInfo) : List String :=
  (group.map IndexInfo.idx).filter fun name => candidates group name ≠ []

/-- The key of `max`. -/
def keeperKey (b : IndexInfo) : ℕ ×ₗ Bool ×ₗ String :=
  toLex (b.keys.length, toLex (b.isUnique, b.idx))

/-- `max(keepers or candidates[name], key=...)` -/
def keeper (group : List IndexInfo) (name : String) : Option IndexInfo :=
  let keepers := (candidates group name).filter fun b => b.idx ∉ redundantNames group
  (if keepers = [] then candidates group name else keepers).argmax keeperKey

/-- The finding about `a` with its keeper. -/
def Finding.redundant (table : String) (a keeper : IndexInfo) : Finding where
  kind := "redundant"
  table := table
  index := a.idx
  detail :=
    if keeper.keys.length = a.keys.length then "duplicate of " ++ keeper.idx
    else "(" ++ a.columnsText ++ ") is the leading part of " ++ keeper.idx ++
      " (" ++ keeper.columnsText ++ ")"
  coveredBy := some keeper.idx
  sizeBytes := a.sizeBytes
  scans := a.scans

/-- The finding about `a`, when it has candidates. -/
def redundantFinding (table : String) (group : List IndexInfo) (a : IndexInfo) : Option Finding :=
  (keeper group a.idx).map (Finding.redundant table a)

/-- The key of `sorted`. -/
def Finding.key (f : Finding) : String ×ₗ String := toLex (f.table, f.index)

/-- `find_redundant` -/
def findRedundant (indexes : List IndexInfo) : List Finding :=
  byKey Finding.key ((groups IndexInfo.tbl indexes).flatMap fun g =>
    g.2.filterMap (redundantFinding g.1 g.2))

/-- A row of `FOREIGN_KEY_SQL`. -/
structure ForeignKey where
  tbl : String
  fk : String
  columns : List String
deriving DecidableEq

/-- `served` of `find_unindexed_foreign_keys`, for one index. -/
def ForeignKey.ServedBy (row : ForeignKey) (i : IndexInfo) : Prop :=
  i.tbl = row.tbl ∧ i.isValid = true ∧ i.hasExpression = false ∧ i.predicate = none ∧
    i.keys.take row.columns.length = row.columns

instance (row : ForeignKey) (i : IndexInfo) : Decidable (row.ServedBy i) :=
  inferInstanceAs (Decidable (i.tbl = row.tbl ∧ i.isValid = true ∧ i.hasExpression = false ∧
    i.predicate = none ∧ i.keys.take row.columns.length = row.columns))

/-- `find_unindexed_foreign_keys` -/
def findUnindexedForeignKeys (rows : List ForeignKey) (indexes : List IndexInfo) : List Finding :=
  (rows.filter fun row => ¬∃ i ∈ indexes, row.ServedBy i).map fun row => {
    kind := "unindexed"
    table := row.tbl
    index := row.fk
    detail := "foreign key (" ++ ", ".intercalate row.columns ++
      ") has no index starting with those columns"
    coveredBy := none
    sizeBytes := 0
    scans := 0 }

/-! ## Coverage is a strict order -/

namespace IndexInfo

variable {a b c : IndexInfo}

/-- A cover has the columns of the covered index in front. -/
theorem CoveredBy.signature (covered : a.CoveredBy b) :
    a.signature a.keys.length = b.signature a.keys.length := covered.2.2.1

theorem CoveredBy.length_le (covered : a.CoveredBy b) : a.keys.length ≤ b.keys.length := by
  by_contra less
  exact covered.2.1 (Or.inr (Or.inr (Or.inr (Or.inr (Nat.lt_of_not_le less)))))

theorem CoveredBy.usable (covered : a.CoveredBy b) :
    a ≠ b ∧ b.method = "btree" ∧ b.isValid = true ∧ b.hasExpression = false := by
  obtain ⟨-, tests, -, -⟩ := covered
  simp only [not_or, not_not, Bool.not_eq_false, Bool.not_eq_true] at tests
  exact ⟨tests.1, tests.2.1, tests.2.2.1, tests.2.2.2.1⟩

/-- Of two exact duplicates that could both go, the first name stays. -/
theorem CoveredBy.idx_le (covered : a.CoveredBy b) (length : b.keys.length = a.keys.length)
    (droppable : b.droppableKind = true) : b.idx ≤ a.idx :=
  not_lt.mp fun less => covered.2.2.2 ⟨length, droppable, less⟩

/-- A longer signature contains the shorter ones. -/
theorem signature_of_le {n m : ℕ} (le : n ≤ m) (same : a.signature m = b.signature m) :
    a.signature n = b.signature n := by
  simp only [signature, Prod.mk.injEq] at same ⊢
  have shorten : ∀ {β : Type} {xs ys : List β}, xs.take m = ys.take m → xs.take n = ys.take n := by
    intro β xs ys equal
    have taken := congrArg (List.take n) equal
    rwa [List.take_take, List.take_take, min_eq_left le] at taken
  exact ⟨shorten same.1, shorten same.2.1, shorten same.2.2.1, shorten same.2.2.2.1, same.2.2.2.2⟩

theorem CoveredBy.trans (first : a.CoveredBy b) (second : b.CoveredBy c) (distinct : a ≠ c) :
    a.CoveredBy c := by
  have le := first.length_le
  have le' := second.length_le
  obtain ⟨-, method, valid, plain⟩ := second.usable
  refine ⟨first.1, ?_, ?_, ?_⟩
  · simp only [not_or, not_not, Bool.not_eq_false, Bool.not_eq_true]
    exact ⟨distinct, method, valid, plain, by omega⟩
  · exact first.signature.trans (signature_of_le le second.signature)
  · rintro ⟨length, droppable, less⟩
    have one : b.idx ≤ a.idx := first.idx_le (by omega) second.1
    have two : c.idx ≤ b.idx := second.idx_le (by omega) droppable
    exact absurd less (not_lt.mpr (two.trans one))

/-- Two indexes do not cover each other. -/
theorem CoveredBy.asymm (first : a.CoveredBy b) (second : b.CoveredBy a) : a.idx = b.idx := by
  have le := first.length_le
  have le' := second.length_le
  exact le_antisymm (second.idx_le (by omega) first.1) (first.idx_le (by omega) second.1)

end IndexInfo

variable {indexes group : List IndexInfo}

theorem strict_coveredBy (distinct : (group.map IndexInfo.idx).Nodup) :
    Strict IndexInfo.CoveredBy group where
  irrefl := fun a _ covered => covered.usable.1 rfl
  trans := by
    intro a memA b memB c _ first second
    apply first.trans second
    rintro rfl
    exact first.usable.1 (List.inj_on_of_nodup_map distinct memA memB (first.asymm second))

/-! ## The keeper of one index -/

/-- The greatest element does not depend on the order, when the keys are distinct. -/
theorem argmax_eq_of_perm {α κ : Type} [LinearOrder κ] {key : α → κ} {as bs : List α}
    (injective : ∀ a ∈ as, ∀ b ∈ as, key a = key b → a = b) (perm : as.Perm bs) :
    as.argmax key = bs.argmax key := by
  cases first : as.argmax key with
  | none =>
    rw [List.argmax_eq_none] at first
    subst first
    rw [List.nil_perm.mp perm, List.argmax_nil]
  | some a =>
    cases second : bs.argmax key with
    | none =>
      rw [List.argmax_eq_none] at second
      subst second
      cases List.perm_nil.mp perm
      cases first
    | some b =>
      have memA : a ∈ as := List.argmax_mem first
      have memB : b ∈ as := perm.mem_iff.mpr (List.argmax_mem second)
      have le : key b ≤ key a := List.le_of_mem_argmax memB first
      have ge : key a ≤ key b := List.le_of_mem_argmax (perm.mem_iff.mp memA) second
      rw [injective a memA b memB (le_antisymm ge le)]

section Keeper

variable {a b : IndexInfo} (distinct : (group.map IndexInfo.idx).Nodup)
include distinct

/-- The candidates of an index are its covers in the group. -/
theorem candidates_idx (mem : a ∈ group) :
    candidates group a.idx = group.filter fun b => a.CoveredBy b :=
  flatMap_of_key IndexInfo.idx distinct mem fun a => group.filter fun b => a.CoveredBy b

theorem candidates_eq_nil_iff (mem : a ∈ group) :
    candidates group a.idx = [] ↔ ¬Covered IndexInfo.CoveredBy group a := by
  rw [candidates_idx distinct mem, List.filter_eq_nil_iff]
  constructor
  · rintro none ⟨b, memB, covers⟩
    exact none b memB (decide_eq_true covers)
  · intro uncovered b memB covers
    exact uncovered ⟨b, memB, of_decide_eq_true covers⟩

theorem mem_redundantNames (mem : a ∈ group) :
    a.idx ∈ redundantNames group ↔ Covered IndexInfo.CoveredBy group a := by
  rw [redundantNames, List.mem_filter, decide_eq_true_iff, ne_eq,
    candidates_eq_nil_iff distinct mem, not_not, and_iff_right_iff_imp]
  exact fun _ => List.mem_map.mpr ⟨a, mem, rfl⟩

/-- A covered index has a candidate that stays, so `keepers` is not empty and the keeper stays. -/
theorem keeper_eq_some (mem : a ∈ group) (kept : keeper group a.idx = some b) :
    b ∈ group ∧ a.CoveredBy b ∧ ¬Covered IndexInfo.CoveredBy group b := by
  have covered : Covered IndexInfo.CoveredBy group a := by
    rw [← not_not (a := Covered _ _ _), ← candidates_eq_nil_iff distinct mem]
    intro none
    rw [keeper, none, List.filter_nil, if_pos rfl, List.argmax_nil] at kept
    cases kept
  obtain ⟨c, memC, coversC, stays⟩ := (strict_coveredBy distinct).exists_uncovered mem covered
  have nonempty : (candidates group a.idx).filter (fun b => b.idx ∉ redundantNames group) ≠ [] := by
    apply List.ne_nil_of_mem (a := c)
    rw [candidates_idx distinct mem, List.mem_filter, List.mem_filter]
    refine ⟨⟨memC, decide_eq_true coversC⟩, decide_eq_true ?_⟩
    rwa [mem_redundantNames distinct memC]
  rw [keeper, if_neg nonempty] at kept
  have chosen := List.argmax_mem kept
  rw [candidates_idx distinct mem, List.mem_filter, List.mem_filter, decide_eq_true_iff,
    decide_eq_true_iff] at chosen
  obtain ⟨⟨memB, covers⟩, unreported⟩ := chosen
  rw [mem_redundantNames distinct memB] at unreported
  exact ⟨memB, covers, unreported⟩

theorem keeper_eq_none_iff (mem : a ∈ group) :
    keeper group a.idx = none ↔ ¬Covered IndexInfo.CoveredBy group a := by
  rw [← candidates_eq_nil_iff distinct mem, keeper, List.argmax_eq_none]
  constructor
  · intro none
    split at none
    · exact none
    · contradiction
  · intro none
    rw [none, List.filter_nil, if_pos rfl]

theorem keeper_perm {group' : List IndexInfo} (mem : a ∈ group) (perm : group.Perm group') :
    keeper group a.idx = keeper group' a.idx := by
  have distinct' : (group'.map IndexInfo.idx).Nodup := (perm.map _).nodup_iff.mp distinct
  have mem' : a ∈ group' := perm.mem_iff.mp mem
  have same : (candidates group a.idx).Perm (candidates group' a.idx) := by
    rw [candidates_idx distinct mem, candidates_idx distinct' mem']
    exact perm.filter _
  have inGroup : ∀ b ∈ candidates group a.idx, b ∈ group := by
    intro b candidate
    rw [candidates_idx distinct mem] at candidate
    exact List.mem_of_mem_filter candidate
  have names : ∀ b ∈ candidates group a.idx,
      (b.idx ∉ redundantNames group ↔ b.idx ∉ redundantNames group') := by
    intro b candidate
    have memB := inGroup b candidate
    rw [mem_redundantNames distinct memB, mem_redundantNames distinct' (perm.mem_iff.mp memB)]
    exact not_congr ⟨Covered.mono perm.subset, Covered.mono perm.symm.subset⟩
  have keepers : ((candidates group a.idx).filter fun b => b.idx ∉ redundantNames group).Perm
      ((candidates group' a.idx).filter fun b => b.idx ∉ redundantNames group') := by
    rw [List.filter_congr fun b candidate => decide_eq_decide.mpr (names b candidate)]
    exact same.filter _
  have injective : ∀ b ∈ candidates group a.idx, ∀ c ∈ candidates group a.idx,
      keeperKey b = keeperKey c → b = c := by
    intro b candidateB c candidateC keys
    have idx : b.idx = c.idx := congrArg (fun k => (ofLex (ofLex k).2).2) keys
    exact List.inj_on_of_nodup_map distinct (inGroup b candidateB) (inGroup c candidateC) idx
  rw [keeper, keeper]
  by_cases none : ((candidates group a.idx).filter fun b => b.idx ∉ redundantNames group) = []
  · have none' := keepers
    rw [none, List.nil_perm] at none'
    rw [if_pos none, if_pos none']
    exact argmax_eq_of_perm injective same
  · have some' : ((candidates group' a.idx).filter fun b =>
        b.idx ∉ redundantNames group') ≠ [] := by
      intro none'
      rw [none', List.perm_nil] at keepers
      exact none keepers
    rw [if_neg none, if_neg some']
    apply argmax_eq_of_perm _ keepers
    intro b keptB c keptC
    exact injective b (List.mem_of_mem_filter keptB) c (List.mem_of_mem_filter keptC)

end Keeper

/-! ## The report -/

/-- The indexes of the table of an index. -/
def tableOf (indexes : List IndexInfo) (a : IndexInfo) : List IndexInfo :=
  Grouping.group IndexInfo.tbl indexes a.tbl

theorem mem_tableOf {a b : IndexInfo} : b ∈ tableOf indexes a ↔ b ∈ indexes ∧ b.tbl = a.tbl :=
  mem_group

/-- The report holds one finding per covered index. -/
theorem findRedundant_perm (indexes : List IndexInfo) : (findRedundant indexes).Perm
    (indexes.filterMap fun a => redundantFinding a.tbl (tableOf indexes a) a) :=
  (byKey_perm _ _).trans (flatMap_groups_perm redundantFinding)

theorem mem_findRedundant {f : Finding} : f ∈ findRedundant indexes ↔ ∃ a ∈ indexes, ∃ k,
    keeper (tableOf indexes a) a.idx = some k ∧ Finding.redundant a.tbl a k = f := by
  rw [(findRedundant_perm indexes).mem_iff, List.mem_filterMap]
  simp only [redundantFinding, Option.map_eq_some_iff]

/-- The names of the report. -/
def reportedNames (indexes : List IndexInfo) : List String :=
  (findRedundant indexes).map Finding.index

/-- The indexes the report leaves. -/
def unreported (indexes : List IndexInfo) : List IndexInfo :=
  indexes.filter fun i => i.idx ∉ reportedNames indexes

/-- What a reader of the report relies on. -/
structure SafeReport (indexes : List IndexInfo) : Prop where
  covered : ∀ f ∈ findRedundant indexes, ∃ r ∈ indexes, ∃ k ∈ unreported indexes,
    r.idx = f.index ∧ r.tbl = f.table ∧ r.droppableKind = true ∧
    f.coveredBy = some k.idx ∧ k.tbl = r.tbl ∧ k.method = "btree" ∧ k.isValid = true ∧
    k.hasExpression = false ∧ k.predicate = r.predicate ∧
    k.keys.take r.keys.length = r.keys ∧
    k.options.take r.keys.length = r.options.take r.keys.length ∧
    k.opclasses.take r.keys.length = r.opclasses.take r.keys.length ∧
    k.collations.take r.keys.length = r.collations.take r.keys.length
  served : ∀ row : ForeignKey, (∃ i ∈ indexes, row.ServedBy i) →
    ∃ i ∈ unreported indexes, row.ServedBy i
  settled : findRedundant (unreported indexes) = []
  ordered : ∀ indexes' : List IndexInfo, indexes.Perm indexes' →
    findRedundant indexes' = findRedundant indexes

section Report

variable (distinct : (indexes.map IndexInfo.idx).Nodup)
include distinct

theorem tableOf_distinct (a : IndexInfo) : ((tableOf indexes a).map IndexInfo.idx).Nodup :=
  distinct.sublist (List.filter_sublist.map IndexInfo.idx)

theorem mem_reportedNames {a : IndexInfo} (mem : a ∈ indexes) :
    a.idx ∈ reportedNames indexes ↔ Covered IndexInfo.CoveredBy (tableOf indexes a) a := by
  have inTable : a ∈ tableOf indexes a := mem_tableOf.mpr ⟨mem, rfl⟩
  rw [← not_iff_not, ← keeper_eq_none_iff (tableOf_distinct distinct a) inTable, reportedNames,
    List.mem_map]
  constructor
  · intro absent
    cases kept : keeper (tableOf indexes a) a.idx with
    | none => rfl
    | some k => exact absurd ⟨_, mem_findRedundant.mpr ⟨a, mem, k, kept, rfl⟩, rfl⟩ absent
  · rintro none ⟨f, reported, name⟩
    obtain ⟨b, memB, k, kept, rfl⟩ := mem_findRedundant.mp reported
    have same : b = a := List.inj_on_of_nodup_map distinct memB mem name
    rw [same, none] at kept
    cases kept

theorem mem_unreported {a : IndexInfo} : a ∈ unreported indexes ↔
    a ∈ indexes ∧ ¬Covered IndexInfo.CoveredBy (tableOf indexes a) a := by
  rw [unreported, List.mem_filter, decide_eq_true_iff]
  constructor
  · rintro ⟨mem, absent⟩
    exact ⟨mem, fun covered => absent ((mem_reportedNames distinct mem).mpr covered)⟩
  · rintro ⟨mem, uncovered⟩
    exact ⟨mem, fun reported => uncovered ((mem_reportedNames distinct mem).mp reported)⟩

/-- The cover that stays. -/
theorem exists_unreported {r : IndexInfo} (mem : r ∈ indexes)
    (covered : Covered IndexInfo.CoveredBy (tableOf indexes r) r) :
    ∃ k ∈ unreported indexes, keeper (tableOf indexes r) r.idx = some k ∧ k.tbl = r.tbl ∧
      r.CoveredBy k := by
  have inTable : r ∈ tableOf indexes r := mem_tableOf.mpr ⟨mem, rfl⟩
  have distinctT := tableOf_distinct distinct r
  cases kept : keeper (tableOf indexes r) r.idx with
  | none => exact absurd covered ((keeper_eq_none_iff distinctT inTable).mp kept)
  | some k =>
    obtain ⟨memK, covers, stays⟩ := keeper_eq_some distinctT inTable kept
    obtain ⟨memK, table⟩ := mem_tableOf.mp memK
    have same : tableOf indexes k = tableOf indexes r := by rw [tableOf, table, tableOf]
    exact ⟨k, (mem_unreported distinct).mpr ⟨memK, same ▸ stays⟩, rfl, table, covers⟩

/-- A cover serves what the covered index serves. -/
theorem served_unreported {row : ForeignKey} (served : ∃ i ∈ indexes, row.ServedBy i) :
    ∃ i ∈ unreported indexes, row.ServedBy i := by
  obtain ⟨i, mem, table, valid, plain, whole, columns⟩ := served
  by_cases covered : Covered IndexInfo.CoveredBy (tableOf indexes i) i
  · obtain ⟨k, memK, -, tableK, covers⟩ := exists_unreported distinct mem covered
    obtain ⟨-, -, validK, plainK⟩ := covers.usable
    have length : row.columns.length ≤ i.keys.length := by
      rw [← columns, List.length_take]
      exact min_le_right _ _
    have same := IndexInfo.signature_of_le length covers.signature
    simp only [IndexInfo.signature, Prod.mk.injEq] at same
    refine ⟨k, memK, tableK.trans table, validK, plainK, ?_, ?_⟩
    · rw [← same.2.2.2.2, whole]
    · rw [← same.1, columns]
  · exact ⟨i, (mem_unreported distinct).mpr ⟨mem, covered⟩, table, valid, plain, whole, columns⟩

/-- The report on foreign keys stays the same. -/
theorem findUnindexedForeignKeys_unreported (rows : List ForeignKey) :
    findUnindexedForeignKeys rows (unreported indexes) = findUnindexedForeignKeys rows indexes := by
  have served : ∀ row : ForeignKey,
      (∃ i ∈ unreported indexes, row.ServedBy i) ↔ ∃ i ∈ indexes, row.ServedBy i := by
    intro row
    constructor
    · rintro ⟨i, mem, serves⟩
      exact ⟨i, List.mem_of_mem_filter mem, serves⟩
    · exact served_unreported distinct
  rw [findUnindexedForeignKeys, findUnindexedForeignKeys]
  congr 1
  exact List.filter_congr fun row _ => decide_eq_decide.mpr (not_congr (served row))

/-- Nothing is redundant among the indexes that stay. -/
theorem findRedundant_unreported : findRedundant (unreported indexes) = [] := by
  apply List.eq_nil_iff_forall_not_mem.mpr
  intro f reported
  obtain ⟨a, mem, k, kept, rfl⟩ := mem_findRedundant.mp reported
  have subset : unreported indexes ⊆ indexes := List.filter_subset_self _
  have distinct' : ((unreported indexes).map IndexInfo.idx).Nodup :=
    distinct.sublist (List.filter_sublist.map IndexInfo.idx)
  have name : a.idx ∈ reportedNames (unreported indexes) :=
    List.mem_map.mpr ⟨_, reported, rfl⟩
  obtain ⟨b, memB, covers⟩ := (mem_reportedNames distinct' mem).mp name
  obtain ⟨memB, table⟩ := mem_tableOf.mp memB
  apply ((mem_unreported distinct).mp mem).2
  exact ⟨b, mem_tableOf.mpr ⟨subset memB, table⟩, covers⟩

/-- No index is reported twice. -/
theorem findRedundant_keys : ((findRedundant indexes).map Finding.key).Nodup := by
  have names : ∀ l : List IndexInfo,
      ((l.filterMap fun a =>
        redundantFinding a.tbl (tableOf indexes a) a).map Finding.index).Sublist
        (l.map IndexInfo.idx) := by
    intro l
    induction l with
    | nil => exact List.Sublist.slnil
    | cons a l ih =>
      rw [List.filterMap_cons, List.map_cons, redundantFinding]
      cases keeper (tableOf indexes a) a.idx with
      | none => exact ih.cons _
      | some k => exact ih.cons_cons _
  have nodup : ((findRedundant indexes).map Finding.index).Nodup :=
    ((findRedundant_perm indexes).map _).nodup_iff.mpr (distinct.sublist (names indexes))
  apply List.Nodup.of_map fun k => (ofLex k).2
  rwa [List.map_map]

theorem findRedundant_of_perm {indexes' : List IndexInfo} (perm : indexes.Perm indexes') :
    findRedundant indexes' = findRedundant indexes := by
  have tables : ∀ a ∈ indexes, redundantFinding a.tbl (tableOf indexes a) a =
      redundantFinding a.tbl (tableOf indexes' a) a := by
    intro a mem
    rw [redundantFinding, redundantFinding,
      keeper_perm (tableOf_distinct distinct a) (mem_tableOf.mpr ⟨mem, rfl⟩) (perm.filter _)]
    rfl
  have same : (findRedundant indexes).Perm (findRedundant indexes') := by
    apply (findRedundant_perm indexes).trans
    rw [List.filterMap_congr tables]
    exact (perm.filterMap _).trans (findRedundant_perm indexes').symm
  exact (eq_of_perm (findRedundant_keys distinct) same (byKey_sorted _ _) (byKey_sorted _ _)).symm

end Report

/-- Dropping every reported index leaves each of them a cover, serves the same foreign keys and
leaves nothing to report; the order of the input does not matter. -/
theorem findRedundant_safe (indexes : List IndexInfo)
    (distinct : (indexes.map IndexInfo.idx).Nodup) : SafeReport indexes where
  covered := by
    intro f reported
    obtain ⟨r, mem, k, kept, rfl⟩ := mem_findRedundant.mp reported
    have covered : Covered IndexInfo.CoveredBy (tableOf indexes r) r := by
      by_contra uncovered
      rw [(keeper_eq_none_iff (tableOf_distinct distinct r)
        (mem_tableOf.mpr ⟨mem, rfl⟩)).mpr uncovered] at kept
      cases kept
    obtain ⟨k', memK, kept', table, covers⟩ := exists_unreported distinct mem covered
    cases kept.symm.trans kept'
    obtain ⟨-, method, valid, plain⟩ := covers.usable
    have same := covers.signature
    simp only [IndexInfo.signature, Prod.mk.injEq, List.take_length] at same
    obtain ⟨keys, options, opclasses, collations, predicate⟩ := same
    exact ⟨r, mem, k, memK, rfl, rfl, covers.1, rfl, table, method, valid, plain, predicate.symm,
      keys.symm, options.symm, opclasses.symm, collations.symm⟩
  served := fun _ => served_unreported distinct
  settled := findRedundant_unreported distinct
  ordered := fun _ => findRedundant_of_perm distinct

namespace IndexSample

def plain (idx : String) (keys : List String) : IndexInfo where
  tbl := "orders"
  idx := idx
  method := "btree"
  isUnique := false
  isPrimary := false
  isValid := true
  hasExpression := false
  backsConstraint := false
  predicate := none
  keys := keys
  options := keys.map fun _ => 0
  opclasses := keys.map fun _ => "1978"
  collations := keys.map fun _ => "0"
  sizeBytes := 8192
  scans := 0

/-- A prefix of a duplicated index, the duplicates, and a copy of a unique index. -/
def orders : List IndexInfo :=
  [plain "ix_a_b_2" ["a", "b"], plain "ix_a" ["a"], plain "ix_a_b_1" ["a", "b"], plain "ix_y" ["y"],
    { plain "ux_y" ["y"] with isUnique := true }]

end IndexSample

theorem findRedundant_safe_sample : SafeReport IndexSample.orders ∧
    (findRedundant IndexSample.orders).map (fun f => (f.index, f.coveredBy)) =
      [("ix_a", some "ix_a_b_1"), ("ix_a_b_2", some "ix_a_b_1"), ("ix_y", some "ux_y")] :=
  ⟨findRedundant_safe IndexSample.orders (by decide), by decide⟩

end TicketBooking
