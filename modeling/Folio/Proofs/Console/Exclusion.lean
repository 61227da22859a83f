import Folio.Proofs.Catalog.Exclusion
import Folio.Proofs.Console.Shown

/-!
# Excluded categories do not show

Whatever is asked of the catalog, the reply does not depend on what is in the directories of
excluded categories. To ask for such a category is to ask for one that does not exist.

Main definitions:

* `CatalogQuery.category?`: the category that a question names.
* `CatalogQuery.runAfter`, `CatalogQuery.answerAfter`: the run for a question, and what is written, if
  scans end in a given order.

Main results:

* `runAfter_congr`: the run is the same on disks that differ in excluded categories alone.
* `excluded_unseen`: the same of the catalog, of what is written and of what the program gives back.
-/

namespace Folio.Console

namespace CatalogQuery

/-- The category that a question names. -/
def category? : CatalogQuery → Option String
  | documents category _ _ => some category
  | document category _ _ _ => some category
  | navigation category => category
  | _ => none

/-- The run for a question if the scans of categories end in the given order. Only what is made of
all categories at once depends on the order. -/
def runAfter (settings : Settings) (fs : FileSystem) (order : List String)
    (presentation : Presentation) : CatalogQuery → Run Unit
  | categories => do
    let summaries ← (settings.catalog.summariesAfter fs order).mapError Failure.file
    writeSummaries summaries presentation
  | navigation none => do
    let sections ← (settings.catalog.navigationAfter fs order).mapError Failure.file
    writeSections settings sections presentation
  | query => query.run settings fs presentation

/-- What is written for a question if the scans of categories end in the given order. -/
def answerAfter (settings : Settings) (fs : FileSystem) (order : List String)
    (presentation : Presentation) (query : CatalogQuery) : Except Failure String :=
  (query.runAfter settings fs order presentation).answer

theorem runAfter_names {settings : Settings} {fs : FileSystem} {names : List String}
    (hnames : settings.catalog.categories fs = .ok names) (presentation : Presentation)
    (query : CatalogQuery) :
    query.runAfter settings fs names presentation = query.run settings fs presentation := by
  cases query with
  | categories => rw [runAfter, run, Catalog.summaries, hnames]; rfl
  | documents category status format => rfl
  | document category slug subcategory raw => rfl
  | navigation category =>
    cases category with
    | none => rw [runAfter, run, Catalog.navigation, hnames]; rfl
    | some category => rfl
  | routes => rfl

end CatalogQuery

section Excluded

variable {settings : Settings} {fs fs' : FileSystem} {tree tree' : Directory}
  (h : settings.catalog.AgreeOutside fs fs' tree tree') {names : List String}
  (hnames : settings.catalog.categories fs = .ok names)
include h hnames

theorem requireCategory_bind_congr {category : String} {f f' : Unit → Run Unit}
    (hf : category ∈ names → f () = f' ()) :
    (Run.attempt (requireCategory settings.catalog fs category) >>= f) =
      Run.attempt (requireCategory settings.catalog fs' category) >>= f' := by
  rw [requireCategory_eq hnames, requireCategory_eq (h.categories_eq.symm.trans hnames)]
  split
  · next hcategory => rw [Run.attempt_ok_bind, Run.attempt_ok_bind, hf hcategory]
  · rfl

/-- The run is the same on disks that differ in excluded categories alone, also if scans end in
another order. -/
theorem runAfter_congr {order : List String} (horder : order ⊆ names)
    (presentation : Presentation) (query : CatalogQuery) :
    query.runAfter settings fs order presentation =
      query.runAfter settings fs' order presentation := by
  cases query with
  | categories =>
    rw [CatalogQuery.runAfter, CatalogQuery.runAfter, h.summariesAfter_eq hnames horder]
  | documents category status format =>
    simp only [CatalogQuery.runAfter, CatalogQuery.run]
    refine requireCategory_bind_congr h hnames fun hcategory => ?_
    rw [h.documents_eq hnames hcategory]
  | document category slug subcategory raw =>
    simp only [CatalogQuery.runAfter, CatalogQuery.run]
    refine requireCategory_bind_congr h hnames fun hcategory => ?_
    simp only [findShown, h.find_eq hnames hcategory]
  | navigation category =>
    cases category with
    | none =>
      rw [CatalogQuery.runAfter, CatalogQuery.runAfter, h.navigationAfter_eq hnames horder]
    | some category =>
      simp only [CatalogQuery.runAfter, CatalogQuery.run]
      refine requireCategory_bind_congr h hnames fun hcategory => ?_
      rw [h.section?_eq hnames hcategory]
  | routes =>
    simp only [CatalogQuery.runAfter, CatalogQuery.run]
    rw [h.routes_eq hnames]

theorem run_congr (presentation : Presentation) (query : CatalogQuery) :
    query.run settings fs presentation = query.run settings fs' presentation := by
  rw [← CatalogQuery.runAfter_names hnames,
    ← CatalogQuery.runAfter_names (h.categories_eq.symm.trans hnames)]
  exact runAfter_congr h hnames (List.Subset.refl names) presentation query

end Excluded

/-- A question that names a category that is not listed fails before anything else is read. -/
theorem run_of_notMem {settings : Settings} {fs : FileSystem} {names : List String}
    (hnames : settings.catalog.categories fs = .ok names) {query : CatalogQuery} {category : String}
    (hquery : query.category? = some category) (hcategory : category ∉ names)
    (presentation : Presentation) :
    query.run settings fs presentation =
      .fail (.noCategory category (Text.closest? similarLimit category names)) := by
  have hrequire := requireCategory_eq hnames category
  rw [if_neg hcategory] at hrequire
  cases query with
  | categories => cases hquery
  | documents _ status format =>
    cases hquery
    rw [CatalogQuery.run, hrequire]
    rfl
  | document _ slug subcategory raw =>
    cases hquery
    rw [CatalogQuery.run, hrequire]
    rfl
  | navigation _ =>
    cases hquery
    rw [CatalogQuery.run, hrequire]
    rfl
  | routes => cases hquery

theorem reply_eq {fs : FileSystem} {environment : List (String × String)} {args : List String}
    {invocation : Invocation} {query : CatalogQuery} {presentation : Presentation}
    {settings : Settings} (hparse : Invocation.parse environment args = .ok invocation)
    (hrequest : invocation.request = .catalog query presentation)
    (hsettings : Settings.resolve fs invocation.overrides = .ok settings) (now : Instant) :
    reply fs now environment args = .ofRun (query.run settings fs presentation) := by
  rw [reply, hparse]
  simp only [Invocation.run, hrequest, hsettings]
  exact congrArg Reply.ofRun (Run.attempt_ok_bind settings _)

/-- On disks whose catalogs differ only in what is in the directories of excluded categories, the
catalog gives the same in whichever order scans end, and so does the program, whatever is asked of
it on the command line. To ask for an excluded category ends with the status of what is not
found. -/
theorem excluded_unseen {settings : Settings} {fs fs' : FileSystem} {tree tree' : Directory}
    (h : settings.catalog.AgreeOutside fs fs' tree tree') :
    ∃ names, settings.catalog.categories fs = .ok names ∧
      settings.catalog.categories fs' = .ok names ∧
      settings.catalog.routes fs = settings.catalog.routes fs' ∧
      (∀ order, order.Perm names →
        settings.catalog.navigationAfter fs order = settings.catalog.navigationAfter fs' order ∧
        settings.catalog.totalAfter fs order = settings.catalog.totalAfter fs' order ∧
        ∀ (query : CatalogQuery) presentation,
          query.answerAfter settings fs order presentation =
            query.answerAfter settings fs' order presentation) ∧
      ∀ environment args invocation query presentation,
        Invocation.parse environment args = .ok invocation →
        invocation.request = .catalog query presentation →
        Settings.resolve fs invocation.overrides = .ok settings →
        Settings.resolve fs' invocation.overrides = .ok settings → ∀ now,
          reply fs now environment args = reply fs' now environment args ∧
          ∀ category, query.category? = some category → category ∈ settings.excluded →
            (∃ similar, query.answer settings fs presentation =
              .error (.noCategory category similar)) ∧
            (reply fs now environment args).status = 4 := by
  obtain ⟨names, hnames⟩ : ∃ names, settings.catalog.categories fs = .ok names :=
    ⟨_, h.left.categories_eq⟩
  refine ⟨names, hnames, h.categories_eq.symm.trans hnames, h.routes_eq hnames,
    fun order horder => ⟨?_, ?_, ?_⟩, ?_⟩
  · exact h.navigationAfter_eq hnames horder.subset
  · exact h.totalAfter_eq hnames horder.subset
  · intro query presentation
    exact congrArg Run.answer (runAfter_congr h hnames horder.subset presentation query)
  · intro environment args invocation query presentation hparse hrequest hresolve hresolve' now
    rw [reply_eq hparse hrequest hresolve, reply_eq hparse hrequest hresolve',
      ← run_congr h hnames]
    refine ⟨rfl, fun category hquery hcategory => ?_⟩
    have hunlisted : category ∉ names := fun hmem =>
      ((h.left.mem_categories_iff hnames).mp hmem).2 hcategory
    have hrun := run_of_notMem hnames hquery hunlisted presentation
    exact ⟨⟨_, congrArg Run.answer hrun⟩, by rw [hrun]; rfl⟩

/-- A catalog with an excluded category that holds some bytes. -/
def sealedTree (bytes : List UInt8) : Directory :=
  [("contracts", .directory [("key.md", .file bytes)]),
    ("identity", .directory [("did.md", .file [35, 32, 68])])]

/-- What a command line asks for in that catalog. -/
def sealedInvocation : Invocation where
  overrides := ⟨some "specs", none, none, none⟩
  log := some (verbosityDirective 0)
  request := .catalog (.document "contracts" "key" none false) .human

/-- The settings of that command line. -/
def sealedSettings : Settings where
  root := "specs"
  blogDir := Settings.defaultBlogDir
  excluded := Catalog.defaultExcluded
  baseUrl := none
  filter := .development

theorem agreeOutside_sealedTree :
    sealedSettings.catalog.AgreeOutside (.holding "specs" (sealedTree [1]))
      (.holding "specs" (sealedTree [2])) (sealedTree [1]) (sealedTree [2]) := by
  have hroot : IsEntryName "specs" := by decide
  have hwf : (sealedTree [1]).WellFormed := by decide
  have hwf' : (sealedTree [2]).WellFormed := by decide
  exact {
    left := hasTree_holding hroot hwf
    right := hasTree_holding hroot hwf'
    leftLinkFree := (Directory.linkFree_iff hwf).mpr (by decide)
    rightLinkFree := (Directory.linkFree_iff hwf').mpr (by decide)
    same := .cons ⟨rfl, .inr (by decide)⟩ (.cons ⟨rfl, .inl rfl⟩ .nil) }

theorem excluded_unseen_sealedTree :
    sealedSettings.catalog.AgreeOutside (.holding "specs" (sealedTree [1]))
        (.holding "specs" (sealedTree [2])) (sealedTree [1]) (sealedTree [2]) ∧
      sealedSettings.catalog.routes (.holding "specs" (sealedTree [1])) =
        sealedSettings.catalog.routes (.holding "specs" (sealedTree [2])) ∧
      reply (.holding "specs" (sealedTree [1])) ⟨0, 0⟩ []
          ["specs", "show", "contracts", "key", "--root", "specs"] =
        reply (.holding "specs" (sealedTree [2])) ⟨0, 0⟩ []
          ["specs", "show", "contracts", "key", "--root", "specs"] ∧
      (reply (.holding "specs" (sealedTree [1])) ⟨0, 0⟩ []
        ["specs", "show", "contracts", "key", "--root", "specs"]).status = 4 := by
  have hparse : Invocation.parse [] ["specs", "show", "contracts", "key", "--root", "specs"] =
      .ok sealedInvocation := rfl
  obtain ⟨names, -, -, hroutes, -, hreply⟩ := excluded_unseen agreeOutside_sealedTree
  obtain ⟨hequal, hexcluded⟩ := hreply _ _ _ _ _ hparse rfl rfl rfl ⟨0, 0⟩
  exact ⟨agreeOutside_sealedTree, hroutes, hequal, (hexcluded "contracts" rfl (by decide)).2⟩

end Folio.Console
