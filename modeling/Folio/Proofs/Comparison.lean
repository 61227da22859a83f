import Folio.Proofs.Blog.Order
import Folio.Proofs.Document.Order

/-!
# The orders of listings are lawful

Documents and posts are each compared by a key in a linear order, and comparing by such a key is
lawful: two things compare the other way round if they are exchanged, and what is not after a second
is not after a third that the second is not after. Sorting relies on that. What a key leaves out
does not show in the comparison, so that two things may compare equal and differ.

Results:

* `transCmp_of_key`: a comparison that follows a key is lawful.
* `Document.compare_eq_eq_iff_fields`, `Listing.compare_eq_eq_iff_fields`: what compares equal.
* `compare_isLawful`: both comparisons are lawful.
-/

namespace Folio

section Key

variable {α κ : Type} [LinearOrder κ] {key : α → κ} {cmp : α → α → Ordering}
  (hlt : ∀ a b, cmp a b = .lt ↔ key a < key b) (heq : ∀ a b, cmp a b = .eq ↔ key a = key b)
include hlt heq

theorem eq_compare_key (a b : α) : cmp a b = compare (key a) (key b) := by
  rcases lt_trichotomy (key a) (key b) with h | h | h
  · rw [(hlt a b).mpr h, compare_lt_iff_lt.mpr h]
  · rw [(heq a b).mpr h, compare_eq_iff_eq.mpr h]
  · rw [compare_gt_iff_gt.mpr h]
    cases hcmp : cmp a b with
    | lt => exact absurd ((hlt a b).mp hcmp) h.asymm
    | eq => exact absurd ((heq a b).mp hcmp) h.ne'
    | gt => rfl

/-- A comparison that follows a key in a linear order is lawful. -/
theorem transCmp_of_key : Std.TransCmp cmp where
  eq_swap {a b} := by
    rw [eq_compare_key hlt heq, eq_compare_key hlt heq]
    exact Std.OrientedCmp.eq_swap
  isLE_trans {a b c} hab hbc := by
    rw [eq_compare_key hlt heq] at hab hbc ⊢
    exact Std.TransCmp.isLE_trans hab hbc

end Key

/-! ## Documents -/

namespace Document

instance : Std.TransCmp Document.compare := transCmp_of_key compare_eq_lt_iff compare_eq_eq_iff

/-- The title in lower case is a part of the key that follows from another. -/
theorem compare_eq_eq_iff_fields (d e : Document) :
    d.compare e = .eq ↔ d.metadata.title = e.metadata.title ∧ d.subcategory = e.subcategory ∧
      d.slug = e.slug ∧ d.filename = e.filename := by
  rw [compare_eq_eq_iff]
  simp only [listingKey, toLex_inj, Prod.mk.injEq, subcategoryKey_inj]
  constructor
  · rintro ⟨-, hkeys⟩
    exact hkeys
  · rintro ⟨htitle, hkeys⟩
    exact ⟨by rw [titleKey, htitle, titleKey], htitle, hkeys⟩

end Document

/-! ## Posts -/

namespace Listing

instance : Std.TransCmp Listing.compare := transCmp_of_key compare_eq_lt_iff compare_eq_eq_iff

theorem compare_eq_eq_iff_fields (p q : Listing) :
    p.compare q = .eq ↔ p.slug = q.slug ∧ p.header.instant? = q.header.instant? := by
  rw [compare_eq_eq_iff, key, key, toLex_inj, Prod.mk.injEq, dateKey_inj, and_comm]

end Listing

/-- Documents and posts are compared lawfully. Two documents compare equal iff they have the same
title, subcategory, slug and file name, and two posts iff they have the same slug and their dates
denote the same instant or none. -/
theorem compare_isLawful :
    (Std.TransCmp Document.compare ∧ ∀ d e : Document, d.compare e = .eq ↔
      d.metadata.title = e.metadata.title ∧ d.subcategory = e.subcategory ∧ d.slug = e.slug ∧
        d.filename = e.filename) ∧
      Std.TransCmp Listing.compare ∧ ∀ p q : Listing, p.compare q = .eq ↔ p.slug = q.slug ∧
        ((∃ i, Instant.parse? p.header.date = some i ∧ Instant.parse? q.header.date = some i) ∨
          Instant.parse? p.header.date = none ∧ Instant.parse? q.header.date = none) := by
  refine ⟨⟨inferInstance, Document.compare_eq_eq_iff_fields⟩, inferInstance, fun p q => ?_⟩
  rw [Listing.compare_eq_eq_iff_fields, Header.instant?, Header.instant?]
  cases Instant.parse? p.header.date with
  | none => simp [eq_comm]
  | some i => simp [eq_comm]

end Folio
