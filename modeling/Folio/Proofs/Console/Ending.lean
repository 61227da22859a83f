import Folio.Proofs.Console.Exclusion

/-!
# How runs end

Every step of a run that can fail comes before anything is written, so that a run writes all of its
answer or nothing. A table is the exception: whether its columns are too wide turns out only when it
is written. What is written before it is then left in the output; before the table of a section,
that is its title.

Main definitions:

* `CatalogQuery.FailsWith`, `BlogQuery.FailsWith`: with which failure and status a question may end,
  and when.
* `CatalogQuery.Overflows`, `BlogQuery.Overflows`: the answer has a table that is too wide.
* `Run.EndsWith`: how a run ends in either case.

Main results:

* `Run.EndsWith.attempt`, `Run.EndsWith.table`: the rules for a step that writes nothing and for a
  table.
* `endsWith_requireCategory`: the rule for a question about one category.
* `CatalogQuery.run_endsWith`, `BlogQuery.run_endsWith`: how the run for a question ends.
-/

namespace Folio.Console

/-! ## Failures -/

/-- A category is listed. -/
def Listed (settings : Settings) (fs : FileSystem) (category : String) : Prop :=
  ∃ names, settings.catalog.categories fs = .ok names ∧ category ∈ names

/-- With which failure and status a question about the catalog may end. -/
inductive CatalogQuery.FailsWith (settings : Settings) (fs : FileSystem) :
    CatalogQuery → Failure → Nat → Prop
  | file (query : CatalogQuery) (error : FileError) : FailsWith settings fs query (.file error) 3
  | noCategory {query : CatalogQuery} {category : String} (similar : Option String)
      (hquery : query.category? = some category) (hcategory : ¬ Listed settings fs category) :
      FailsWith settings fs query (.noCategory category similar) 4
  | noDocument {category slug written : String} {given subcategory : Option String} {raw : Bool}
      (hcategory : Listed settings fs category) :
      FailsWith settings fs (.document category written given raw)
        (.noDocument slug category subcategory) 4
  | badSlug {category slug : String} {subcategory : Option String} {raw : Bool}
      (hcategory : Listed settings fs category) :
      FailsWith settings fs (.document category slug subcategory raw) (.badSlug slug) 64
  | twoSubcategories {category slug : String} {subcategory : Option String} {raw : Bool}
      (hcategory : Listed settings fs category) :
      FailsWith settings fs (.document category slug subcategory raw) .twoSubcategories 64

/-- With which failure and status a question about the blog may end. -/
inductive BlogQuery.FailsWith : BlogQuery → Failure → Nat → Prop
  | file (query : BlogQuery) (error : FileError) : FailsWith query (.file error) 3
  | frontmatter {query : BlogQuery} (hquery : query ≠ .slugs) (path : String)
      (cause : Frontmatter.Error) : FailsWith query (.frontmatter path cause) 1
  | noPost (slug : String) : FailsWith (.post slug) (.noPost slug) 4

/-! ## Tables that are too wide -/

/-- The answer to a question about the catalog, for people, has a table that is too wide. -/
def CatalogQuery.Overflows (settings : Settings) (fs : FileSystem) : CatalogQuery → Prop
  | categories => ∃ summaries, settings.catalog.summaries fs = .ok summaries ∧
      ¬ summaryTable.fits summaries
  | documents category status format => Listed settings fs category ∧
      ∃ documents, settings.catalog.documents fs category = .ok documents ∧
        ¬ documentTable.fits (select status format documents)
  | navigation none => ∃ sections, settings.catalog.navigation fs = .ok sections ∧
      ∃ s ∈ sections, ¬ (itemTable settings).fits s.items
  | navigation (some category) => Listed settings fs category ∧
      ∃ s, settings.catalog.section? fs category = .ok (some s) ∧
        ¬ (itemTable settings).fits s.items
  | _ => False

/-- The answer to a question about the blog, for people, has a table that is too wide. -/
def BlogQuery.Overflows (settings : Settings) (fs : FileSystem) (now : Instant) :
    BlogQuery → Prop
  | posts => ∃ L, settings.blog.posts fs now = .ok L ∧ ¬ postTable.fits L
  | _ => False

/-! ## Ends of runs -/

/-- How a run ends. If it overflows, it fails at a table; and something is written before that iff
the table is `below` other lines. If it does not, it writes all or fails and has written nothing. -/
structure Run.EndsWith (overflows : Prop) (fails : Failure → Nat → Prop) (below : Prop)
    (run : Run Unit) : Prop where
  due : ¬ overflows → run.result = .ok () ∨ ∃ failure status, fails failure status ∧
    run = .fail failure
  tooWide : overflows → run.result = .error .tooWide ∧ (run.written ≠ "" ↔ below)

namespace Run.EndsWith

variable {overflows below : Prop} {fails : Failure → Nat → Prop}

theorem imp {overflows' below' : Prop} {fails' : Failure → Nat → Prop} {run : Run Unit}
    (h : EndsWith overflows fails below run) (hoverflows : overflows' ↔ overflows)
    (hfails : ∀ failure status, fails failure status → fails' failure status)
    (hbelow : below' ↔ below) : EndsWith overflows' fails' below' run where
  due hnot := by
    rcases h.due (hoverflows.not.mp hnot) with hok | ⟨failure, status, hfailure, hrun⟩
    · exact .inl hok
    · exact .inr ⟨failure, status, hfails failure status hfailure, hrun⟩
  tooWide hwide := by
    obtain ⟨hresult, hwritten⟩ := h.tooWide (hoverflows.mp hwide)
    exact ⟨hresult, hwritten.trans hbelow.symm⟩

theorem write (text : String) (h : ¬ overflows) : EndsWith overflows fails below (.write text) :=
  ⟨fun _ => .inl rfl, fun hoverflows => absurd hoverflows h⟩

theorem fail {failure : Failure} {status : Nat} (hfails : fails failure status)
    (h : ¬ overflows) : EndsWith overflows fails below (.fail failure) :=
  ⟨fun _ => .inr ⟨failure, status, hfails, rfl⟩, fun hoverflows => absurd hoverflows h⟩

/-- A step that writes nothing before a run. It fails with what the run may fail with, or the run
overflows iff the whole does. -/
theorem attempt {α : Type} {step : Except Failure α} {next : α → Run Unit}
    (herror : ∀ failure, step = .error failure → ¬ overflows ∧ ∃ status, fails failure status)
    (hok : ∀ a, step = .ok a → EndsWith overflows fails below (next a)) :
    EndsWith overflows fails below (.attempt step >>= next) := by
  cases step with
  | error failure =>
    obtain ⟨h, status, hfails⟩ := herror failure rfl
    exact fail hfails h
  | ok a =>
    rw [attempt_ok_bind]
    exact hok a rfl

theorem attemptMapError {ε α : Type} {step : Except ε α} {toFailure : ε → Failure}
    {next : α → Run Unit}
    (herror : ∀ e, step = .error e → ¬ overflows ∧ ∃ status, fails (toFailure e) status)
    (hok : ∀ a, step = .ok a → EndsWith overflows fails below (next a)) :
    EndsWith overflows fails below (.attempt (step.mapError toFailure) >>= next) := by
  cases step with
  | error e => exact attempt (fun failure h => by cases h; exact herror e rfl) nofun
  | ok a =>
    rw [Except.mapError, attempt_ok_bind]
    exact hok a rfl

theorem table {α : Type} {table : Table α} {items : List α}
    (h : overflows ↔ ¬ table.fits items) (hbelow : ¬ below) :
    EndsWith overflows fails below (table.write items) := by
  by_cases hfits : table.fits items
  · rw [Table.write_of_fits _ hfits]
    exact write _ (by rw [h]; exact not_not_intro hfits)
  · rw [Table.write_of_not_fits _ hfits]
    refine ⟨fun hnot => absurd (h.mpr hfits) hnot, fun _ => ⟨rfl, ?_⟩⟩
    simp [Run.fail, Run.attempt, hbelow]

/-- A table, or a note where there is nothing to list. -/
theorem tableOrNote {α : Type} {table : Table α} {items : List α} {note : String}
    (h : overflows ↔ ¬ table.fits items) (hbelow : ¬ below) :
    EndsWith overflows fails below
      (if items.isEmpty then .write note else table.write items) := by
  split
  · next hempty =>
    have hfits : table.fits items := by
      rw [List.isEmpty_iff.mp hempty]
      exact table.fits_nil
    exact write note fun hoverflows => h.mp hoverflows hfits
  · exact .table h hbelow

/-- What is written after a run that may fail. -/
theorem bind_write {run : Run Unit} (h : EndsWith overflows fails below run) (text : String) :
    EndsWith overflows fails below (run >>= fun _ => .write text) := by
  refine ⟨fun hnot => ?_, fun hoverflows => ?_⟩
  · rcases h.due hnot with hok | ⟨failure, status, hfails, rfl⟩
    · rw [result_bind, hok]
      exact .inl rfl
    · exact .inr ⟨failure, status, hfails, rfl⟩
  · obtain ⟨hresult, hwritten⟩ := h.tooWide hoverflows
    have hbind : (run >>= fun _ => Run.write text) = run := by
      obtain ⟨written, result⟩ := run
      cases hresult
      rfl
    rw [hbind]
    exact ⟨hresult, hwritten⟩

theorem sections {settings : Settings} {sections : List Section}
    (h : overflows ↔ ∃ s ∈ sections, ¬ (itemTable settings).fits s.items) (hbelow : below) :
    EndsWith overflows fails below (writeSections settings sections .human) := by
  have hresult := result_writeSections settings sections
  have hall : (sections.all fun s => (itemTable settings).fits s.items) ↔ ¬ overflows := by
    rw [h, List.all_eq_true]
    simp only [not_exists, not_and, not_not]
  refine ⟨fun hnot => .inl (hresult.trans (if_pos (hall.mpr hnot))), fun hoverflows => ⟨?_, ?_⟩⟩
  · exact hresult.trans (if_neg fun hfits => hall.mp hfits hoverflows)
  · obtain ⟨s, hs, -⟩ := h.mp hoverflows
    exact iff_of_true (written_writeSections_ne_empty settings (List.ne_nil_of_mem hs)) hbelow

end Run.EndsWith

/-! ## Questions about the catalog -/

section Catalog

variable {settings : Settings} {fs : FileSystem}

theorem requireCategory_eq_ok_iff {category : String} :
    requireCategory settings.catalog fs category = .ok () ↔ Listed settings fs category := by
  cases hnames : settings.catalog.categories fs with
  | error e => simp [requireCategory, Listed, hnames, Except.mapError, bind, Except.bind]
  | ok names =>
    rw [requireCategory_eq hnames, Listed]
    simp [hnames]

theorem failsWith_of_requireCategory {query : CatalogQuery} {category : String}
    (hquery : query.category? = some category) (hlisted : ¬ Listed settings fs category)
    {failure : Failure} (h : requireCategory settings.catalog fs category = .error failure) :
    ∃ status, query.FailsWith settings fs failure status := by
  cases hnames : settings.catalog.categories fs with
  | error e =>
    rw [requireCategory, hnames] at h
    cases h
    exact ⟨3, .file query e⟩
  | ok names =>
    rw [requireCategory_eq hnames] at h
    split at h
    · cases h
    · cases h
      exact ⟨4, .noCategory _ hquery hlisted⟩

/-- A question about one category begins with a look whether it is listed. -/
theorem endsWith_requireCategory {query : CatalogQuery} {category : String}
    (hquery : query.category? = some category) {overflows below : Prop}
    (hoverflows : overflows → Listed settings fs category) {next : Unit → Run Unit}
    (h : Listed settings fs category →
      Run.EndsWith overflows (query.FailsWith settings fs) below (next ())) :
    Run.EndsWith overflows (query.FailsWith settings fs) below
      (.attempt (requireCategory settings.catalog fs category) >>= next) := by
  refine .attempt (fun failure hfailure => ?_) fun _ hok => ?_
  · have hlisted : ¬ Listed settings fs category := by
      rw [← requireCategory_eq_ok_iff, hfailure]
      nofun
    exact ⟨mt hoverflows hlisted, failsWith_of_requireCategory hquery hlisted hfailure⟩
  · exact h (requireCategory_eq_ok_iff.mp hok)

theorem failsWith_of_findShown {category slug : String} {subcategory : Option String} (raw : Bool)
    (hcategory : Listed settings fs category) {failure : Failure}
    (h : findShown settings.catalog fs category slug subcategory = .error failure) :
    ∃ status, (CatalogQuery.document category slug subcategory raw).FailsWith settings fs failure
      status := by
  rw [findShown] at h
  cases hparts : partsOf slug subcategory with
  | error e =>
    rw [hparts] at h
    obtain rfl : e = failure := Except.error.inj h
    unfold partsOf at hparts
    split at hparts
    · cases hparts
      exact ⟨64, .badSlug hcategory⟩
    · cases hparts
      exact ⟨64, .twoSubcategories hcategory⟩
    · cases hparts
  | ok parts =>
    rw [hparts] at h
    cases hfind : settings.catalog.find fs category parts.2 parts.1 with
    | error e =>
      simp only [hfind, bind, Except.bind, Except.mapError] at h
      cases h
      exact ⟨3, .file _ e⟩
    | ok found =>
      simp only [hfind, bind, Except.bind, Except.mapError] at h
      cases found with
      | none =>
        cases h
        exact ⟨4, .noDocument hcategory⟩
      | some content => cases h

theorem CatalogQuery.run_endsWith (presentation : Presentation) (query : CatalogQuery) :
    Run.EndsWith (presentation = .human ∧ query.Overflows settings fs)
      (query.FailsWith settings fs) (∃ category, query = .navigation category)
      (query.run settings fs presentation) := by
  cases query with
  | categories =>
    refine .attemptMapError (fun e he => ⟨?_, 3, .file _ e⟩) fun summaries h => ?_
    · simp [Overflows, he]
    · cases presentation with
      | json => exact .write _ (by simp)
      | human => exact .bind_write (.table (by simp [Overflows, h]) (by simp)) _
  | documents category status format =>
    refine endsWith_requireCategory rfl (fun hoverflows => hoverflows.2.1) fun hlisted => ?_
    refine .attemptMapError (fun e he => ⟨?_, 3, .file _ e⟩) fun documents h => ?_
    · simp [Overflows, he]
    · cases presentation with
      | json => exact .write _ (by simp)
      | human => exact .tableOrNote (by simp [Overflows, h, hlisted]) (by simp)
  | document category slug subcategory raw =>
    refine endsWith_requireCategory rfl (fun hoverflows => hoverflows.2.elim) fun hlisted => ?_
    refine .attempt (fun failure h => ?_) fun content _ => ?_
    · exact ⟨fun hoverflows => hoverflows.2, failsWith_of_findShown raw hlisted h⟩
    · exact .write _ fun hoverflows => hoverflows.2
  | navigation category =>
    cases category with
    | none =>
      refine .attemptMapError (fun e he => ⟨?_, 3, .file _ e⟩) fun sections h => ?_
      · simp [Overflows, he]
      · cases presentation with
        | json => exact .write _ (by simp)
        | human => exact .sections (by simp [Overflows, h]) ⟨none, rfl⟩
    | some category =>
      refine endsWith_requireCategory rfl (fun hoverflows => hoverflows.2.1) fun hlisted => ?_
      refine .attemptMapError (fun e he => ⟨?_, 3, .file _ e⟩) fun found h => ?_
      · simp [Overflows, he]
      · cases presentation with
        | json => exact .write _ (by simp)
        | human => exact .sections (by simp [Overflows, h, hlisted]) ⟨_, rfl⟩
  | routes =>
    refine .attemptMapError (fun e _ => ⟨fun hoverflows => hoverflows.2, 3, .file _ e⟩) ?_
    exact fun routes _ => .write _ fun hoverflows => hoverflows.2

end Catalog

/-! ## Questions about the blog -/

theorem failsWith_ofBlog {query : BlogQuery} (hquery : query ≠ .slugs) (error : BlogError) :
    ∃ status, query.FailsWith (.ofBlog error) status := by
  cases error with
  | file error => exact ⟨3, .file query error⟩
  | frontmatter path cause => exact ⟨1, .frontmatter hquery path cause⟩

theorem BlogQuery.run_endsWith {settings : Settings} {fs : FileSystem} {now : Instant}
    (presentation : Presentation) (query : BlogQuery) :
    Run.EndsWith (presentation = .human ∧ query.Overflows settings fs now) query.FailsWith False
      (query.run settings fs now presentation) := by
  cases query with
  | posts =>
    refine .attemptMapError (fun e he => ⟨?_, failsWith_ofBlog (by simp) e⟩) fun posts h => ?_
    · simp [Overflows, he]
    · cases presentation with
      | json => exact .write _ (by simp)
      | human => exact .tableOrNote (by simp [Overflows, h]) not_false
  | post slug =>
    refine .attemptMapError (fun e _ => ⟨fun hoverflows => hoverflows.2, ?_⟩) fun found _ => ?_
    · exact failsWith_ofBlog (by simp) e
    · cases found with
      | none => exact .fail (.noPost slug) fun hoverflows => hoverflows.2
      | some found => exact .write _ fun hoverflows => hoverflows.2
  | slugs =>
    refine .attemptMapError (fun e _ => ⟨fun hoverflows => hoverflows.2, 3, .file _ e⟩) ?_
    exact fun slugs _ => .write _ fun hoverflows => hoverflows.2

end Folio.Console
