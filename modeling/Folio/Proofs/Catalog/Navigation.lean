import Folio.Catalog.Navigation
import Folio.Proofs.Catalog.Listing

/-!
# Navigation and the order of scans

The sections of the navigation come in the order in which the scans of their categories end, and are
then sorted by title. Categories may share a title, as those do whose names differ only in the case
of their first letter. Then the order of their scans shows.

Main results:

* `Section.sort_ofCategory_eq_iff`: when the sections of categories come in one order.
* `Catalog.HasTree.navigationAfter_eq`: the sections of scans that end in a given order.
* `navigationAfter_eq_iff`: all orders give the same sections, and the same titles in each position;
  they give the same list iff no two categories share a title.
-/

namespace Folio

/-- The section of a category of a catalog with the given tree. -/
def Section.ofCategory (tree : Directory) (category : String) : Section :=
  .ofDocuments category (listingOf category (tree.entriesOf category))

namespace Section

theorem sort_perm (sections : List Section) : (sort sections).Perm sections :=
  List.mergeSort_perm _ _

theorem title_le_iff (s t : Section) : decide (s.title ≤ t.title) ↔ s.title ≤ t.title :=
  decide_eq_true_iff

theorem category_ofCategory (tree : Directory) (category : String) :
    (ofCategory tree category).category = category := rfl

/-- Sorting undoes any order of the sections of categories iff no two categories share a title. -/
theorem sort_ofCategory_eq_iff (tree : Directory) (names : List String) :
    (∀ order : List String, order.Perm names →
        sort (order.map (ofCategory tree)) = sort (names.map (ofCategory tree))) ↔
      ∀ c ∈ names, ∀ c' ∈ names, Title.ofCategory c = Title.ofCategory c' → c = c' := by
  constructor
  · -- Of two sections of one title, the one that comes first stays first.
    intro h c hc c' hc' htitle
    by_contra hne
    have hsection : ofCategory tree c ≠ ofCategory tree c' :=
      fun heq => hne (congrArg Section.category heq)
    have hfirst {c : String} (hc : c ∈ names) := h (c :: names.erase c) (List.perm_cons_erase hc).symm
    exact Sorting.mergeSort_cons_ne title_le_iff hsection htitle _ _
      ((hfirst hc).trans (hfirst hc').symm)
  · intro hinj order horder
    refine Sorting.mergeSort_eq_of_perm title_le_iff (horder.map _) ?_
    intro s hs t ht htitle
    obtain ⟨c, hc, rfl⟩ := List.mem_map.mp hs
    obtain ⟨c', hc', rfl⟩ := List.mem_map.mp ht
    rw [hinj c (horder.mem_iff.mp hc) c' (horder.mem_iff.mp hc') htitle]

end Section

theorem Catalog.HasTree.navigationAfter_eq {catalog : Catalog} {fs : FileSystem} {tree : Directory}
    (htree : catalog.HasTree fs tree) (hread : Readable fs catalog.root tree)
    {names order : List String} (hnames : catalog.categories fs = .ok names)
    (horder : order ⊆ names) :
    catalog.navigationAfter fs order = .ok (Section.sort (order.map (Section.ofCategory tree))) := by
  rw [navigationAfter, htree.scan_eq hread hnames horder]
  simp only [bind, Except.bind, List.map_map]
  rfl

/-- Every category has a section in the navigation, and there is no other. In whichever order the
scans of the categories end, the sections are the same, and in each position their title is. They
come in the same order each time iff no two categories share a title. -/
theorem navigationAfter_eq_iff {catalog : Catalog} {fs : FileSystem} {tree : Directory}
    (htree : catalog.HasTree fs tree) (hread : Readable fs catalog.root tree)
    {names : List String} (hnames : catalog.categories fs = .ok names) :
    ∃ sections, catalog.navigation fs = .ok sections ∧
      (sections.map Section.category).Perm names ∧
      (∀ s ∈ sections, ∃ L, catalog.documents fs s.category = .ok L ∧
        s = Section.ofDocuments s.category L) ∧
      (∀ order, order.Perm names → ∃ S, catalog.navigationAfter fs order = .ok S ∧
        S.Perm sections ∧ S.map Section.title = sections.map Section.title) ∧
      ((∀ order, order.Perm names → catalog.navigationAfter fs order = .ok sections) ↔
        ∀ c ∈ names, ∀ c' ∈ names, Title.ofCategory c = Title.ofCategory c' → c = c') := by
  have hnavigation {order : List String} (horder : order.Perm names) :=
    htree.navigationAfter_eq hread hnames horder.subset
  have hsections {order : List String} (horder : order.Perm names) :=
    horder.map (Section.ofCategory tree)
  have hperm := Section.sort_perm (names.map (Section.ofCategory tree))
  refine ⟨Section.sort (names.map (Section.ofCategory tree)), ?_, ?_, ?_, ?_, ?_⟩
  · rw [Catalog.navigation, hnames]
    exact hnavigation (.refl names)
  · have hcategories := hperm.map Section.category
    rw [List.map_map] at hcategories
    exact hcategories.trans (.of_eq (List.map_id names))
  · intro s hs
    obtain ⟨category, hcategory, rfl⟩ := List.mem_map.mp (hperm.mem_iff.mp hs)
    obtain ⟨⟨entries, hentries⟩, -⟩ := (htree.mem_categories_iff hnames).mp hcategory
    refine ⟨_, htree.documents_eq hread hentries, ?_⟩
    rw [Section.category_ofCategory, Section.ofCategory, Directory.entriesOf_eq hentries]
  · intro order horder
    refine ⟨_, hnavigation horder, ?_, ?_⟩
    · exact (Section.sort_perm _).trans ((hsections horder).trans hperm.symm)
    · exact Sorting.map_mergeSort_eq_of_perm Section.title_le_iff (hsections horder)
  · rw [← Section.sort_ofCategory_eq_iff tree]
    refine forall₂_congr fun order horder => ?_
    rw [hnavigation horder, Except.ok.injEq]

/-- A catalog with two categories of one title. -/
def caseTree : Directory := [("Identity", .directory []), ("identity", .directory [])]

theorem navigationAfter_eq_iff_caseTree :
    (Catalog.ofRoot "specs").HasTree (.holding "specs" caseTree) caseTree ∧
      Readable (.holding "specs" caseTree) "specs" caseTree ∧
      ∃ names sections, (Catalog.ofRoot "specs").categories (.holding "specs" caseTree) = .ok names ∧
        (Catalog.ofRoot "specs").navigation (.holding "specs" caseTree) = .ok sections ∧
        ∃ order S, order.Perm names ∧
          (Catalog.ofRoot "specs").navigationAfter (.holding "specs" caseTree) order = .ok S ∧
          S.Perm sections ∧ S ≠ sections := by
  have hroot : IsEntryName "specs" := by decide
  have hwf : caseTree.WellFormed := by decide
  have htree := hasTree_holding hroot hwf
  have hread := readable_holding hroot hwf (by decide)
  obtain ⟨names, hnames⟩ :
      ∃ names, (Catalog.ofRoot "specs").categories (.holding "specs" caseTree) = .ok names :=
    ⟨_, htree.categories_eq⟩
  obtain ⟨sections, hsections, -, -, hsame, hiff⟩ := navigationAfter_eq_iff htree hread hnames
  refine ⟨htree, hread, names, sections, hnames, hsections, ?_⟩
  have hmem {category : String} (hcategory : caseTree.find? category = some (.directory []))
      (hlisted : category ∉ (Catalog.ofRoot "specs").excluded) : category ∈ names :=
    (htree.mem_categories_iff hnames).mpr ⟨⟨_, hcategory⟩, hlisted⟩
  have hupper : "Identity" ∈ names := hmem rfl (by decide)
  have hlower : "identity" ∈ names := hmem rfl (by decide)
  have htitle : Title.ofCategory "Identity" = Title.ofCategory "identity" := by decide +kernel
  have htie : ¬ ∀ order, order.Perm names →
      (Catalog.ofRoot "specs").navigationAfter (.holding "specs" caseTree) order = .ok sections :=
    fun h => absurd (hiff.mp h _ hupper _ hlower htitle) (by decide)
  simp only [not_forall] at htie
  obtain ⟨order, horder, hne⟩ := htie
  obtain ⟨S, hS, hperm, -⟩ := hsame order horder
  refine ⟨order, S, horder, hS, hperm, ?_⟩
  rintro rfl
  exact hne hS

end Folio
