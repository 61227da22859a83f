import Folio.Catalog.Basic
import Mathlib.Data.List.Pairwise
import Mathlib.Data.String.Basic

/-!
# Sorting by a key

Sorting by a key puts the keys in ascending order and leaves elements of one key in the order in
which they come. So the order in which elements come shows in the sorted list only where different
elements have the same key.

Results:

* `pairwise_mergeSort`: the keys of a sorted list ascend.
* `filter_mergeSort`: elements of one key stay in the order in which they come.
* `pairwise_mergeSort_of_pairwise`: so they stay related as they are.
* `mergeSort_filter`: elements can be taken out before or after the others are sorted.
* `map_mergeSort_eq_of_perm`, `mergeSort_eq_of_perm`: sorting takes lists of the same elements to
  the same keys, and to the same elements if these have different keys.
* `mergeSort_cons_ne`: it takes lists to different ones if they begin with different elements of
  one key.
* `mem_sortNames`, `pairwise_sortNames`, `sortNames_eq_of_perm`: sorting keeps all names, puts them
  in ascending order and forgets the order in which they come.
-/

namespace Folio.Sorting

variable {α κ : Type} [LinearOrder κ] {key : α → κ} {le : α → α → Bool}

theorem mem_iff_of_filter_eq {xs ys : List α}
    (h : ∀ k, xs.filter (key · = k) = ys.filter (key · = k)) (a : α) : a ∈ xs ↔ a ∈ ys := by
  have hkey := congrArg (a ∈ ·) (h (key a))
  simpa using hkey

/-- A list in the order of its keys is known by the elements of each key. -/
theorem eq_of_filter_eq {xs ys : List α} (hxs : xs.Pairwise fun a b => key a ≤ key b)
    (hys : ys.Pairwise fun a b => key a ≤ key b)
    (h : ∀ k, xs.filter (key · = k) = ys.filter (key · = k)) : xs = ys := by
  induction xs generalizing ys with
  | nil =>
    rw [eq_comm, List.eq_nil_iff_forall_not_mem]
    exact fun a ha => List.not_mem_nil ((mem_iff_of_filter_eq h a).mpr ha)
  | cons x xs ih =>
    have hx := (mem_iff_of_filter_eq h x).mp List.mem_cons_self
    cases ys with
    | nil => exact absurd hx List.not_mem_nil
    | cons y ys =>
      have hy := (mem_iff_of_filter_eq h y).mpr List.mem_cons_self
      rw [List.pairwise_cons] at hxs hys
      -- Either list begins with the least key of both.
      have hkey : key x = key y := by
        refine le_antisymm ?_ ?_
        · rcases List.mem_cons.mp hy with rfl | hy
          · exact le_rfl
          · exact hxs.1 y hy
        · rcases List.mem_cons.mp hx with rfl | hx
          · exact le_rfl
          · exact hys.1 x hx
      have hhead := h (key x)
      rw [List.filter_cons_of_pos (by simp), List.filter_cons_of_pos (by simp [hkey])] at hhead
      obtain rfl := (List.cons.inj hhead).1
      rw [ih hxs.2 hys.2 fun k => ?_]
      have hk := h k
      rw [List.filter_cons, List.filter_cons] at hk
      split at hk
      · exact (List.cons.inj hk).2
      · exact hk

variable (hle : ∀ a b, le a b ↔ key a ≤ key b)
include hle

theorem trans_of_key (a b c : α) (hab : le a b) (hbc : le b c) : le a c := by
  rw [hle] at hab hbc ⊢
  exact hab.trans hbc

theorem total_of_key (a b : α) : le a b || le b a := by
  rw [Bool.or_eq_true, hle, hle]
  exact le_total _ _

theorem pairwise_mergeSort (xs : List α) :
    (xs.mergeSort le).Pairwise fun a b => key a ≤ key b := by
  refine (List.pairwise_mergeSort (trans_of_key hle) (total_of_key hle) xs).imp ?_
  intro a b hab
  exact (hle a b).mp hab

/-- Elements of one key stay in the order in which they come. -/
theorem filter_mergeSort (xs : List α) (k : κ) :
    (xs.mergeSort le).filter (key · = k) = xs.filter (key · = k) := by
  have hsorted : (xs.filter (key · = k)).Pairwise fun a b => le a b := by
    refine List.pairwise_of_forall_mem_list fun a ha b hb => ?_
    rw [List.mem_filter, decide_eq_true_eq] at ha hb
    rw [hle, ha.2, hb.2]
  have hsub := List.sublist_mergeSort (trans_of_key hle) (total_of_key hle) hsorted List.filter_sublist
  have hfilter := hsub.filter (key · = k)
  simp only [List.filter_filter, Bool.and_self] at hfilter
  have hlength := ((List.mergeSort_perm xs le).filter (key · = k)).length_eq
  exact (hfilter.eq_of_length hlength.symm).symm

theorem map_mergeSort_eq_of_perm {xs ys : List α} (h : xs.Perm ys) :
    (xs.mergeSort le).map key = (ys.mergeSort le).map key := by
  have hperm : (xs.mergeSort le).Perm (ys.mergeSort le) :=
    (List.mergeSort_perm xs le).trans (h.trans (List.mergeSort_perm ys le).symm)
  have hxs := List.pairwise_map.mpr (pairwise_mergeSort hle xs)
  have hys := List.pairwise_map.mpr (pairwise_mergeSort hle ys)
  exact (hperm.map key).eq_of_pairwise (fun a b _ _ hab hba => le_antisymm hab hba) hxs hys

theorem mergeSort_eq_of_perm {xs ys : List α} (h : xs.Perm ys)
    (hkey : ∀ a ∈ xs, ∀ b ∈ xs, key a = key b → a = b) : xs.mergeSort le = ys.mergeSort le := by
  have hperm : (xs.mergeSort le).Perm (ys.mergeSort le) :=
    (List.mergeSort_perm xs le).trans (h.trans (List.mergeSort_perm ys le).symm)
  refine hperm.eq_of_pairwise ?_ (pairwise_mergeSort hle xs) (pairwise_mergeSort hle ys)
  intro a b ha hb hab hba
  have ha := (List.mergeSort_perm xs le).mem_iff.mp ha
  have hb := h.mem_iff.mpr ((List.mergeSort_perm ys le).mem_iff.mp hb)
  exact hkey a ha b hb (le_antisymm hab hba)

theorem mergeSort_cons_ne {a b : α} (hne : a ≠ b) (hkey : key a = key b) (xs ys : List α) :
    (a :: xs).mergeSort le ≠ (b :: ys).mergeSort le := by
  intro h
  have hfilter := congrArg (List.filter (key · = key a)) h
  rw [filter_mergeSort hle, filter_mergeSort hle, List.filter_cons_of_pos (by simp),
    List.filter_cons_of_pos (by simp [hkey])] at hfilter
  exact hne (List.cons.inj hfilter).1

/-- Elements can be taken out before or after the others are sorted. -/
theorem mergeSort_filter (p : α → Bool) (xs : List α) :
    (xs.filter p).mergeSort le = (xs.mergeSort le).filter p := by
  have hsorted := (pairwise_mergeSort hle xs).filter p
  refine eq_of_filter_eq (pairwise_mergeSort hle (xs.filter p)) hsorted fun k => ?_
  rw [filter_mergeSort hle, List.filter_comm _ p (xs.mergeSort le), filter_mergeSort hle,
    List.filter_comm]

end Folio.Sorting

namespace Folio

/-! ## Names -/

theorem mem_sortNames {names : List String} {name : String} :
    name ∈ sortNames names ↔ name ∈ names :=
  (List.mergeSort_perm names _).mem_iff

theorem pairwise_sortNames {names : List String} (hnames : names.Nodup) :
    (sortNames names).Pairwise (· < ·) := by
  have hle : (sortNames names).Pairwise (· ≤ ·) :=
    Sorting.pairwise_mergeSort (fun _ _ => decide_eq_true_iff) names
  have hnodup : (sortNames names).Nodup := (List.mergeSort_perm _ _).nodup_iff.mpr hnames
  refine (hle.and hnodup).imp ?_
  rintro a b ⟨hab, hne⟩
  exact lt_of_le_of_ne hab hne

theorem sortNames_eq_of_perm {names names' : List String} (h : names.Perm names') :
    sortNames names = sortNames names' :=
  Sorting.mergeSort_eq_of_perm (fun _ _ => decide_eq_true_iff) h
    fun _ _ _ _ heq => heq

end Folio
