import Folio.Proofs.Catalog.Enumeration
import Folio.Proofs.Console.Exclusion
import Folio.Proofs.Text.Distance
import Folio.Proofs.Text.Order

/-!
# The category that is suggested

Whoever asks for a category that is not listed is told the listed name that the fewest edits lead to,
if few enough do. As names are listed in the order of their bytes, the first of the nearest names is
the one with the least bytes.

Main definitions:

* `IsSuggestion`: the name that is to be suggested for a text.

Main results:

* `closest?_eq_some_iff`: the nearest name that is found is the one to be suggested.
* `unlisted_suggestion`: what is suggested to whoever asks for a category that is not listed.
-/

namespace Folio.Console

/-! ## The nearest name -/

/-- Of the names within a distance of a text, one that no name is nearer than, and the first in the
order of bytes of those that are as near. -/
structure IsSuggestion (limit : Nat) (text : String) (names : List String) (name : String) :
    Prop where
  mem : name ∈ names
  near : Text.distance text name ≤ limit
  nearest : ∀ other ∈ names, Text.distance text name ≤ Text.distance text other
  first : ∀ other ∈ names, Text.distance text other = Text.distance text name →
    other = name ∨ Text.bytes name < Text.bytes other

namespace IsSuggestion

variable {limit : Nat} {text : String} {names : List String} {name name' : String}

theorem unique (h : IsSuggestion limit text names name) (h' : IsSuggestion limit text names name') :
    name = name' := by
  have hequal : Text.distance text name = Text.distance text name' :=
    Nat.le_antisymm (h.nearest name' h'.mem) (h'.nearest name h.mem)
  rcases h.first name' h'.mem hequal.symm with heq | hlt
  · exact heq.symm
  · rcases h'.first name h.mem hequal with heq | hgt
    · exact heq
    · exact absurd hgt (List.lt_asymm hlt)

/-- The first of the nearest names in ascending order is the one to be suggested. -/
theorem of_closest? (hnames : names.Pairwise (· ≤ ·))
    (h : Text.closest? limit text names = some name) : IsSuggestion limit text names name := by
  obtain ⟨before, after, hfilter, hbefore, hafter⟩ := Text.exists_of_closest? h
  have hnear {other : String} : other ∈ before ++ name :: after ↔
      other ∈ names ∧ Text.distance text other ≤ limit := by
    rw [← hfilter, List.mem_filter, decide_eq_true_eq]
  have hname := hnear.mp (List.mem_append_right before List.mem_cons_self)
  have hcases {other : String} (hother : other ∈ names) (hle : Text.distance text other ≤ limit) :
      Text.distance text name < Text.distance text other ∨ other = name ∨
        other ∈ after ∧ Text.distance text name ≤ Text.distance text other := by
    rcases List.mem_append.mp (hnear.mpr ⟨hother, hle⟩) with hmem | hmem
    · exact .inl (hbefore other hmem)
    · rcases List.mem_cons.mp hmem with heq | hmem
      · exact .inr (.inl heq)
      · exact .inr (.inr ⟨hmem, hafter other hmem⟩)
  refine ⟨hname.1, hname.2, fun other hother => ?_, fun other hother hequal => ?_⟩
  · rcases Nat.lt_or_ge limit (Text.distance text other) with hfar | hle
    · exact hname.2.trans hfar.le
    · rcases hcases hother hle with hlt | rfl | ⟨-, hle⟩
      · exact hlt.le
      · exact le_rfl
      · exact hle
  · rcases hcases hother (hequal.trans_le hname.2) with hlt | heq | ⟨hmem, -⟩
    · omega
    · exact .inl heq
    · -- A name that is as near comes after it, and so later in the order of the names.
      have hsorted : (before ++ name :: after).Pairwise (· ≤ ·) := hfilter ▸ hnames.filter _
      have hle := List.rel_of_pairwise_cons (List.pairwise_append.mp hsorted).2.1 hmem
      rcases hle.lt_or_eq with hlt | heq
      · exact .inr (Text.lt_iff_bytes_lt.mp hlt)
      · exact .inl heq.symm

end IsSuggestion

theorem closest?_eq_some_iff {limit : Nat} {text : String} {names : List String}
    (hnames : names.Pairwise (· ≤ ·)) {name : String} :
    Text.closest? limit text names = some name ↔ IsSuggestion limit text names name := by
  refine ⟨IsSuggestion.of_closest? hnames, fun h => ?_⟩
  cases hclosest : Text.closest? limit text names with
  | none =>
    have hfar := Text.closest?_eq_none_iff.mp hclosest name h.mem
    exact absurd h.near (Nat.not_le.mpr hfar)
  | some name' => rw [h.unique (.of_closest? hnames hclosest)]

/-! ## Questions for categories that are not listed -/

theorem pairwise_categories {catalog : Catalog} {fs : FileSystem} {names : List String}
    (hnames : catalog.categories fs = .ok names) :
    names.Pairwise (· ≤ ·) ∧ ∀ name ∈ names, name ∉ catalog.excluded := by
  rw [Catalog.categories] at hnames
  cases hroot : fs.readDirectory catalog.root with
  | error e => rw [hroot] at hnames; cases hnames
  | ok entries =>
    rw [hroot] at hnames
    cases hnames
    refine ⟨Sorting.pairwise_mergeSort (fun _ _ => decide_eq_true_iff) _, fun name hname => ?_⟩
    have hlisted := (List.mem_filter.mp (mem_sortNames.mp hname)).2
    simpa using hlisted

theorem resolve_eq_of_reordered {fs fs' : FileSystem} (hdisk : fs.root.WellFormed)
    (h : fs.Reordered fs') (overrides : Overrides) :
    Settings.resolve fs' overrides = Settings.resolve fs overrides := by
  simp only [Settings.resolve, FileSettings.load, h.readFile_eq hdisk]

/-- If the root of the catalog can be listed, whoever asks for a category that is not listed is told
so. A listed name is suggested iff some name is at most three edits away, and then the one that the
fewest edits lead to, or the first of them in the order of bytes. An excluded name is never
suggested. The order of enumeration of directories makes no difference. -/
theorem unlisted_suggestion {settings : Settings} {fs : FileSystem} {entries : Directory}
    (hroot : fs.readDirectory settings.root = .ok entries) :
    (∀ a b : String, IsLeast {n | Text.Edits n a.toList b.toList} (Text.distance a b)) ∧
    ∃ names, settings.catalog.categories fs = .ok names ∧ ∀ category ∉ names,
      ∃ similar : Option String,
        (similar.isSome ↔ ∃ name ∈ names, Text.distance category name ≤ 3) ∧
        (∀ name, similar = some name ↔ IsSuggestion 3 category names name) ∧
        (∀ name ∈ similar, name ∈ names ∧ name ∉ settings.excluded) ∧
        (∀ describe, (Failure.noCategory category similar).messageBy describe =
          "category '" ++ category ++ "' not found" ++
            match similar with
            | some name => " (did you mean '" ++ name ++ "'?)"
            | none => "") ∧
        ∀ query : CatalogQuery, query.category? = some category → ∀ presentation,
          query.run settings fs presentation = .fail (.noCategory category similar) ∧
          (fs.root.WellFormed → ∀ fs', fs.Reordered fs' →
            query.run settings fs' presentation = query.run settings fs presentation) ∧
          ∀ environment args invocation,
            Invocation.parse environment args = .ok invocation →
            invocation.request = .catalog query presentation →
            Settings.resolve fs invocation.overrides = .ok settings → ∀ now,
              reply fs now environment args = ⟨4, "", some (.noCategory category similar)⟩ ∧
              (fs.root.WellFormed → ∀ fs', fs.Reordered fs' →
                reply fs' now environment args = reply fs now environment args) := by
  have hlisted : fs.readDirectory settings.catalog.root = .ok entries := hroot
  obtain ⟨names, hnames⟩ : ∃ names, settings.catalog.categories fs = .ok names := by
    rw [Catalog.categories, hlisted]
    exact ⟨_, rfl⟩
  obtain ⟨hsorted, hexcluded⟩ := pairwise_categories hnames
  refine ⟨Text.isLeast_distance, names, hnames, fun category hcategory =>
    ⟨Text.closest? similarLimit category names, ?_, fun name => closest?_eq_some_iff hsorted, ?_, ?_,
      fun query hquery presentation => ?_⟩⟩
  · rw [Option.isSome_iff_ne_none, ne_eq, Text.closest?_eq_none_iff]
    simp [similarLimit]
  · intro name hname
    have hmem := (IsSuggestion.of_closest? hsorted hname).mem
    exact ⟨hmem, hexcluded name hmem⟩
  · intro describe
    cases Text.closest? similarLimit category names <;> rfl
  · have hrun := run_of_notMem hnames hquery hcategory presentation
    have hrun' (hdisk : fs.root.WellFormed) {fs' : FileSystem} (h : fs.Reordered fs') :
        query.run settings fs' presentation = query.run settings fs presentation := by
      have hnames' := (categories_eq_of_reordered hlisted hdisk h).trans hnames
      rw [run_of_notMem hnames' hquery hcategory presentation, hrun]
    refine ⟨hrun, fun hdisk fs' h => hrun' hdisk h,
      fun environment args invocation hparse hrequest hresolve now => ⟨?_, fun hdisk fs' h => ?_⟩⟩
    · rw [reply_eq hparse hrequest hresolve now, hrun]
      rfl
    · have hresolve' := (resolve_eq_of_reordered hdisk h invocation.overrides).trans hresolve
      rw [reply_eq hparse hrequest hresolve now, reply_eq hparse hrequest hresolve' now,
        hrun' hdisk h]

/-- A catalog in which an excluded category and two others are one edit away from the same name. -/
def similarTree : Directory :=
  [("contrast", .directory []), ("contracts", .directory []), ("dpp", .directory []),
    ("contact", .directory [])]

/-- Settings of that catalog. -/
def similarSettings : Settings where
  root := "specs"
  blogDir := Settings.defaultBlogDir
  excluded := Catalog.defaultExcluded
  baseUrl := none
  filter := .development

/-- What a command line asks for in that catalog. -/
def similarInvocation : Invocation where
  overrides := ⟨some "specs", none, none, none⟩
  log := some (verbosityDirective 0)
  request := .catalog (.documents "contract" none none) .human

theorem categories_similarTree :
    similarSettings.catalog.categories (.holding "specs" similarTree) =
      .ok ["contact", "contrast", "dpp"] := by
  have hperm : (similarTree.directories.filter fun name =>
      !similarSettings.catalog.excluded.contains name).Perm
        ["contact", "contrast", "dpp"] := by decide
  have hsorted : sortNames ["contact", "contrast", "dpp"] =
      ["contact", "contrast", "dpp"] := List.mergeSort_of_pairwise (by decide)
  have htree : similarSettings.catalog.HasTree (.holding "specs" similarTree) similarTree :=
    hasTree_holding (by decide) (by decide)
  rw [htree.categories_eq, sortNames_eq_of_perm hperm, hsorted]

theorem isSuggestion_contact :
    IsSuggestion 3 "contract" ["contact", "contrast", "dpp"] "contact" := by
  have hcontact : Text.distance "contract" "contact" = 1 := by decide +kernel
  have hcontrast : Text.distance "contract" "contrast" = 1 := by decide +kernel
  have hdpp : Text.distance "contract" "dpp" = 8 := by decide +kernel
  have hbytes : Text.bytes "contact" < Text.bytes "contrast" := by decide +kernel
  constructor
  · exact List.mem_cons_self
  · omega
  · simp [hcontact, hcontrast, hdpp]
  · simp [hcontact, hcontrast, hdpp, hbytes]

theorem unlisted_suggestion_similarTree :
    (FileSystem.holding "specs" similarTree).readDirectory similarSettings.root =
        .ok similarTree ∧
      reply (.holding "specs" similarTree) ⟨0, 0⟩ [] ["specs", "list", "contract", "--root", "specs"] =
        ⟨4, "", some (.noCategory "contract" (some "contact"))⟩ := by
  have hroot : (FileSystem.holding "specs" similarTree).readDirectory similarSettings.root =
      .ok similarTree := FileSystem.readDirectory_holding_self (by decide) similarTree
  have hparse : Invocation.parse [] ["specs", "list", "contract", "--root", "specs"] =
      .ok similarInvocation := rfl
  obtain ⟨-, names, hnames, hunlisted⟩ := unlisted_suggestion hroot
  rw [categories_similarTree] at hnames
  cases hnames
  obtain ⟨similar, -, hsimilar, -, -, hquery⟩ := hunlisted "contract" (by decide)
  obtain ⟨-, -, hreply⟩ := hquery (.documents "contract" none none) rfl .human
  rw [(hsimilar "contact").mpr isSuggestion_contact] at hreply
  exact ⟨hroot, (hreply _ _ _ hparse rfl rfl ⟨0, 0⟩).1⟩

end Folio.Console
