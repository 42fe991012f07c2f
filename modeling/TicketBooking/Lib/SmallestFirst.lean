import Mathlib.Data.List.Sort
import Mathlib.Data.List.Nodup
import Mathlib.Data.List.Pairwise

/-!
# Batches in key order

`smallest key n` takes the `n` elements with the smallest keys, in key order, as a query with ORDER
BY and LIMIT does.  When the keys are distinct, a batch is closed downwards (`mem_smallest_of_le`),
and two batches in a row are one larger batch (`smallest_add`).

`IsBatch key n` says the same of a query that may break ties between equal keys in any way.  Again
two batches are one (`IsBatch.append`), and with distinct keys the batch is `smallest key n`.
-/

namespace SmallestFirst

variable {α κ : Type} [LinearOrder κ] {key : α → κ} {as : List α} {a : α}

/-- The elements in key order. -/
def byKey (key : α → κ) (as : List α) : List α := as.insertionSort fun a b => key a ≤ key b

/-- `ORDER BY key LIMIT n` -/
def smallest (key : α → κ) (n : ℕ) (as : List α) : List α := (byKey key as).take n

theorem byKey_perm (key : α → κ) (as : List α) : (byKey key as).Perm as :=
  as.perm_insertionSort _

theorem byKey_sorted (key : α → κ) (as : List α) :
    (byKey key as).Pairwise fun a b => key a ≤ key b := by
  have total : Std.Total fun a b : α => key a ≤ key b := ⟨fun a b => le_total (key a) (key b)⟩
  have trans : IsTrans α fun a b => key a ≤ key b := ⟨fun _ _ _ => le_trans⟩
  exact List.pairwise_insertionSort _ as

/-- Two lists with the same elements in key order are equal, when the keys are distinct. -/
theorem eq_of_perm {bs : List α} (keys : (as.map key).Nodup) (perm : as.Perm bs)
    (sortedAs : as.Pairwise fun a b => key a ≤ key b)
    (sortedBs : bs.Pairwise fun a b => key a ≤ key b) : as = bs := by
  refine perm.eq_of_pairwise (fun a b memA memB le ge => ?_) sortedAs sortedBs
  exact List.inj_on_of_nodup_map keys memA (perm.mem_iff.mpr memB) (le_antisymm le ge)

theorem length_smallest (key : α → κ) (n : ℕ) (as : List α) :
    (smallest key n as).length = min n as.length := by
  rw [smallest, List.length_take, (byKey_perm key as).length_eq]

/-- Asking for more elements than there are. -/
theorem smallest_min (key : α → κ) (n : ℕ) (as : List α) :
    smallest key (min n as.length) as = smallest key n as := by
  rw [smallest, ← (byKey_perm key as).length_eq, ← List.take_eq_take_min, smallest]

theorem mem_of_mem_smallest {n : ℕ} (taken : a ∈ smallest key n as) : a ∈ as :=
  (byKey_perm key as).mem_iff.mp (List.mem_of_mem_take taken)

theorem smallest_nodup {n : ℕ} (keys : (as.map key).Nodup) :
    ((smallest key n as).map key).Nodup :=
  (((byKey_perm key as).map key).nodup_iff.mpr keys).sublist ((List.take_sublist _ _).map key)

theorem smallest_eq_nil_iff {n : ℕ} (positive : 0 < n) : smallest key n as = [] ↔ as = [] := by
  rw [← List.length_eq_zero_iff, length_smallest, ← List.length_eq_zero_iff]
  omega

/-- A batch is closed downwards. -/
theorem mem_smallest_of_le {n : ℕ} {b : α} (keys : (as.map key).Nodup) (mem : a ∈ as)
    (taken : b ∈ smallest key n as) (le : key a ≤ key b) : a ∈ smallest key n as := by
  have inSorted := (byKey_perm key as).mem_iff.mpr mem
  rw [← List.take_append_drop n (byKey key as)] at inSorted
  rcases List.mem_append.mp inSorted with first | rest
  · exact first
  · have sorted := byKey_sorted key as
    rw [← List.take_append_drop n (byKey key as)] at sorted
    have ge := (List.pairwise_append.mp sorted).2.2 b taken a rest
    have same := List.inj_on_of_nodup_map keys mem (mem_of_mem_smallest taken) (le_antisymm le ge)
    exact same ▸ taken

/-- What a batch leaves, in key order. -/
theorem byKey_rest [DecidableEq α] (n : ℕ) (keys : (as.map key).Nodup) :
    byKey key (as.filter fun a => a ∉ smallest key n as) = (byKey key as).drop n := by
  have nodup : (byKey key as).Nodup :=
    (List.Nodup.of_map key ((((byKey_perm key as).map key).nodup_iff.mpr keys)))
  have rest : (byKey key as).filter (fun a => a ∉ smallest key n as) = (byKey key as).drop n := by
    have parts := List.take_append_drop n (byKey key as)
    conv_lhs => rw [← parts]
    rw [← parts, List.nodup_append] at nodup
    rw [List.filter_append, List.filter_eq_nil_iff.mpr, List.nil_append, List.filter_eq_self.mpr]
    · intro a late
      exact decide_eq_true fun early => nodup.2.2 a early a late rfl
    · intro a early
      exact fun kept => of_decide_eq_true kept early
  refine eq_of_perm ?_ ?_ (byKey_sorted _ _)
    ((byKey_sorted key as).sublist (List.drop_sublist n _))
  · exact ((byKey_perm key _).map key).nodup_iff.mpr (keys.sublist (List.filter_sublist.map key))
  · rw [← rest]
    exact (byKey_perm key _).trans ((byKey_perm key as).symm.filter _)

theorem length_rest [DecidableEq α] (n : ℕ) (keys : (as.map key).Nodup) :
    (as.filter fun a => a ∉ smallest key n as).length = as.length - n := by
  rw [← (byKey_perm key _).length_eq, byKey_rest n keys, List.length_drop,
    (byKey_perm key as).length_eq]

/-- Two batches in a row. -/
theorem smallest_add [DecidableEq α] (m n : ℕ) (keys : (as.map key).Nodup) :
    smallest key (m + n) as = smallest key m as ++
      smallest key n (as.filter fun a => a ∉ smallest key m as) := by
  have rest : smallest key n (as.filter fun a => a ∉ smallest key m as) =
      ((byKey key as).drop m).take n := by
    rw [smallest, byKey_rest m keys]
  rw [rest, smallest, smallest, List.take_add]

/-! ## Ties in any order -/

/-- `bs` is an answer of ORDER BY key LIMIT n over `as`, up to its order. -/
structure IsBatch (key : α → κ) (n : ℕ) (as bs : List α) : Prop where
  sub : ∀ b ∈ bs, b ∈ as
  nodup : bs.Nodup
  length : bs.length = min n as.length
  lowest : ∀ b ∈ bs, ∀ a ∈ as, a ∉ bs → key b ≤ key a

instance [DecidableEq α] (key : α → κ) (n : ℕ) (as bs : List α) : Decidable (IsBatch key n as bs) :=
  decidable_of_iff
    ((∀ b ∈ bs, b ∈ as) ∧ bs.Nodup ∧ bs.length = min n as.length ∧
      ∀ b ∈ bs, ∀ a ∈ as, a ∉ bs → key b ≤ key a)
    ⟨fun h => ⟨h.1, h.2.1, h.2.2.1, h.2.2.2⟩, fun h => ⟨h.1, h.2, h.3, h.4⟩⟩

variable {m n : ℕ} {bs cs : List α}

theorem isBatch_zero (key : α → κ) (as : List α) : IsBatch key 0 as [] where
  sub b mem := (List.not_mem_nil mem).elim
  nodup := List.nodup_nil
  length := by rw [List.length_nil, Nat.zero_min]
  lowest b mem := (List.not_mem_nil mem).elim

theorem isBatch_smallest [DecidableEq α] (key : α → κ) (n : ℕ) (nodup : as.Nodup) :
    IsBatch key n as (smallest key n as) where
  sub _ := mem_of_mem_smallest
  nodup := ((byKey_perm key as).nodup_iff.mpr nodup).sublist (List.take_sublist _ _)
  length := length_smallest key n as
  lowest b taken a mem late := by
    have sorted := byKey_sorted key as
    have inSorted := (byKey_perm key as).mem_iff.mpr mem
    rw [← List.take_append_drop n (byKey key as)] at sorted inSorted
    rcases List.mem_append.mp inSorted with first | rest
    · exact (late first).elim
    · exact (List.pairwise_append.mp sorted).2.2 b taken a rest

theorem IsBatch.perm (batch : IsBatch key n as bs) (same : bs.Perm cs) : IsBatch key n as cs where
  sub c mem := batch.sub c (same.mem_iff.mpr mem)
  nodup := same.nodup_iff.mp batch.nodup
  length := same.length_eq ▸ batch.length
  lowest c taken a mem missed :=
    batch.lowest c (same.mem_iff.mpr taken) a mem fun early => missed (same.mem_iff.mp early)

/-- A batch that is not full has everything. -/
theorem IsBatch.of_short (batch : IsBatch key m as bs) (short : bs.length < m) (le : m ≤ n) :
    IsBatch key n as bs where
  sub := batch.sub
  nodup := batch.nodup
  length := by
    have length := batch.length
    omega
  lowest := batch.lowest

/-- What a batch leaves. -/
theorem IsBatch.length_rest [DecidableEq α] (batch : IsBatch key n as bs) (nodup : as.Nodup) :
    (as.filter fun a => a ∉ bs).length = as.length - bs.length := by
  have same : (as.filter fun a => a ∈ bs).Perm bs := by
    refine (List.perm_ext_iff_of_nodup (nodup.filter _) batch.nodup).mpr fun a => ?_
    rw [List.mem_filter, decide_eq_true_eq]
    exact ⟨fun both => both.2, fun mem => ⟨batch.sub a mem, mem⟩⟩
  have parts := List.length_eq_length_filter_add (l := as) fun a => decide (a ∈ bs)
  rw [same.length_eq] at parts
  have rest : (as.filter fun a => !decide (a ∈ bs)) = as.filter fun a => a ∉ bs := by
    apply List.filter_congr
    intro a _
    rw [decide_not]
  rw [rest] at parts
  omega

/-- Two batches in a row are one batch. -/
theorem IsBatch.append [DecidableEq α] (nodup : as.Nodup) (first : IsBatch key m as bs)
    (second : IsBatch key n (as.filter fun a => a ∉ bs) cs) :
    IsBatch key (m + n) as (bs ++ cs) where
  sub a mem := by
    rcases List.mem_append.mp mem with early | late
    · exact first.sub a early
    · exact (List.mem_filter.mp (second.sub a late)).1
  nodup := by
    refine List.nodup_append.mpr ⟨first.nodup, second.nodup, fun b early c late same => ?_⟩
    have apart := of_decide_eq_true (List.mem_filter.mp (second.sub c late)).2
    exact apart (same ▸ early)
  length := by
    have left := second.length
    rw [first.length_rest nodup, first.length] at left
    rw [List.length_append, left, first.length]
    omega
  lowest b taken a mem missed := by
    rw [List.mem_append, not_or] at missed
    rcases List.mem_append.mp taken with early | late
    · exact first.lowest b early a mem missed.1
    · exact second.lowest b late a (List.mem_filter.mpr ⟨mem, decide_eq_true missed.1⟩) missed.2

/-- With distinct keys there is one answer. -/
theorem IsBatch.mem_iff [DecidableEq α] (batch : IsBatch key n as bs) (keys : (as.map key).Nodup) :
    a ∈ bs ↔ a ∈ smallest key n as := by
  have other := isBatch_smallest key n (List.Nodup.of_map key keys)
  -- two answers of one length: an element of one only is matched by an element of the other only
  have within : ∀ {cs ds : List α}, IsBatch key n as cs → IsBatch key n as ds →
      ∀ c ∈ cs, c ∈ ds := by
    intro cs ds left right c memC
    by_contra missed
    have other : ∃ d ∈ ds, d ∉ cs := by
      by_contra none
      have sub : ds.Subperm (cs.erase c) := by
        refine List.subperm_of_subset right.nodup fun d memD => ?_
        refine (List.Nodup.mem_erase_iff left.nodup).mpr ⟨?_, ?_⟩
        · intro same
          exact missed (same ▸ memD)
        · by_contra away
          exact none ⟨d, memD, away⟩
      have shorter := sub.length_le
      rw [List.length_erase_of_mem memC, left.length, right.length] at shorter
      have positive := List.length_pos_of_mem memC
      rw [left.length] at positive
      omega
    obtain ⟨d, memD, away⟩ := other
    have le := left.lowest c memC d (right.sub d memD) away
    have ge := right.lowest d memD c (left.sub c memC) missed
    have same := List.inj_on_of_nodup_map keys (left.sub c memC) (right.sub d memD)
      (le_antisymm le ge)
    exact away (same ▸ memC)
  exact ⟨within batch other a, within other batch a⟩

end SmallestFirst
