import Folio.Proofs.Catalog.Enumeration
import Folio.Proofs.Catalog.Navigation
import Folio.Proofs.Console.Ending
import Folio.Proofs.Metadata.Heading

/-!
# Replies and their statuses

A run for a command line reads the settings first, if it reads files at all, and then runs the
question. So it succeeds, or it fails before it has written anything; its status tells with what. The
status of a table that is too wide is none of those that failures are given.

Main definitions:

* `Invocation.FailsWith`: with which failure and status an invocation may end, and when.
* `Invocation.Overflows`: the answer to an invocation has a table that is too wide.

Main results:

* `Invocation.run_endsWith`: how the run for an invocation ends.
* `reply_of_parse`: what the program gives back for a command line that can be read.
* `reply_of_parse_wideTree`: a title that is too wide, with the title of its section above it.
-/

namespace Folio.Console

/-! ## Invocations -/

/-- Whether a request is for what is in files. -/
def Request.readsFiles : Request → Bool
  | .catalog .. => true
  | .blog .. => true
  | _ => false

/-- With which failure and status an invocation may end. -/
inductive Invocation.FailsWith (fs : FileSystem) (invocation : Invocation) :
    Failure → Nat → Prop
  | settings {error : SettingsError} (hrequest : invocation.request.readsFiles)
      (hsettings : Settings.resolve fs invocation.overrides = .error error) :
      FailsWith fs invocation (.settings error) 2
  | catalog {settings : Settings} {query : CatalogQuery} {presentation : Presentation}
      {failure : Failure} {status : Nat}
      (hrequest : invocation.request = .catalog query presentation)
      (hsettings : Settings.resolve fs invocation.overrides = .ok settings)
      (h : query.FailsWith settings fs failure status) : FailsWith fs invocation failure status
  | blog {settings : Settings} {query : BlogQuery} {presentation : Presentation}
      {failure : Failure} {status : Nat}
      (hrequest : invocation.request = .blog query presentation)
      (hsettings : Settings.resolve fs invocation.overrides = .ok settings)
      (h : query.FailsWith failure status) : FailsWith fs invocation failure status

theorem Invocation.FailsWith.status_eq {fs : FileSystem} {invocation : Invocation}
    {failure : Failure} {status : Nat} (h : invocation.FailsWith fs failure status) :
    failure.status = status := by
  cases h with
  | settings => rfl
  | catalog _ _ h => cases h <;> rfl
  | blog _ _ h => cases h <;> rfl

/-- The answer to a request has a table that is too wide. -/
def Request.Overflows (settings : Settings) (fs : FileSystem) (now : Instant) : Request → Prop
  | .catalog query .human => query.Overflows settings fs
  | .blog query .human => query.Overflows settings fs now
  | _ => False

/-- The answer to an invocation has a table that is too wide. -/
def Invocation.Overflows (fs : FileSystem) (now : Instant) (invocation : Invocation) : Prop :=
  ∃ settings, Settings.resolve fs invocation.overrides = .ok settings ∧
    invocation.request.Overflows settings fs now

/-- Whether a request is for the navigation. -/
def Request.isNavigation : Request → Bool
  | .catalog (.navigation _) _ => true
  | _ => false

theorem Request.overflows_catalog_iff {settings : Settings} {fs : FileSystem} {now : Instant}
    {query : CatalogQuery} {presentation : Presentation} :
    (Request.catalog query presentation).Overflows settings fs now ↔
      presentation = .human ∧ query.Overflows settings fs := by
  cases presentation <;> simp [Request.Overflows]

theorem Request.overflows_blog_iff {settings : Settings} {fs : FileSystem} {now : Instant}
    {query : BlogQuery} {presentation : Presentation} :
    (Request.blog query presentation).Overflows settings fs now ↔
      presentation = .human ∧ query.Overflows settings fs now := by
  cases presentation <;> simp [Request.Overflows]

namespace Invocation

variable {fs : FileSystem} {now : Instant} {invocation : Invocation}

theorem overflows_iff {settings : Settings}
    (hsettings : Settings.resolve fs invocation.overrides = .ok settings) :
    invocation.Overflows fs now ↔ invocation.request.Overflows settings fs now := by
  simp [Overflows, hsettings]

theorem not_overflows_of_error {error : SettingsError}
    (hsettings : Settings.resolve fs invocation.overrides = .error error) :
    ¬ invocation.Overflows fs now := by
  simp [Overflows, hsettings]

theorem run_of_settings_error {error : SettingsError}
    (hrequest : invocation.request.readsFiles)
    (hsettings : Settings.resolve fs invocation.overrides = .error error) :
    invocation.run fs now = .fail (.settings error) := by
  obtain ⟨overrides, log, request⟩ := invocation
  cases request with
  | catalog query presentation => rw [run, hsettings]; rfl
  | blog query presentation => rw [run, hsettings]; rfl
  | completions shell => cases hrequest
  | version presentation => cases hrequest

variable (fs now)

theorem run_of_not_readsFiles (hrequest : ¬ invocation.request.readsFiles) :
    ∃ text, invocation.run fs now = .write text := by
  obtain ⟨overrides, log, request⟩ := invocation
  cases request with
  | catalog query presentation => exact absurd rfl hrequest
  | blog query presentation => exact absurd rfl hrequest
  | completions shell => exact ⟨_, rfl⟩
  | version presentation => exact ⟨_, rfl⟩

theorem run_endsWith (invocation : Invocation) :
    Run.EndsWith (invocation.Overflows fs now) (invocation.FailsWith fs)
      invocation.request.isNavigation (invocation.run fs now) := by
  obtain ⟨overrides, log, request⟩ := invocation
  cases request with
  | catalog query presentation =>
    refine .attemptMapError (fun e he => ?_) fun settings hsettings => ?_
    · exact ⟨not_overflows_of_error he, 2, .settings rfl he⟩
    · refine (query.run_endsWith presentation).imp ?_ ?_ ?_
      · exact (overflows_iff hsettings).trans Request.overflows_catalog_iff
      · exact fun failure status h => .catalog rfl hsettings h
      · cases query <;> simp [Request.isNavigation]
  | blog query presentation =>
    refine .attemptMapError (fun e he => ?_) fun settings hsettings => ?_
    · exact ⟨not_overflows_of_error he, 2, .settings rfl he⟩
    · refine (query.run_endsWith presentation).imp ?_ ?_ ?_
      · exact (overflows_iff hsettings).trans Request.overflows_blog_iff
      · exact fun failure status h => .blog rfl hsettings h
      · simp [Request.isNavigation]
  | completions shell => exact .write _ fun ⟨_, _, hoverflows⟩ => hoverflows
  | version presentation => exact .write _ fun ⟨_, _, hoverflows⟩ => hoverflows

end Invocation

/-! ## Replies -/

theorem Reply.ofRun_of_ok {run : Run Unit} (h : run.result = .ok ()) :
    Reply.ofRun run = ⟨0, run.written, none⟩ := by
  rw [Reply.ofRun, Run.answer, h]
  rfl

theorem Reply.ofRun_of_error {run : Run Unit} {failure : Failure}
    (h : run.result = .error failure) :
    Reply.ofRun run = ⟨failure.status, run.written, some failure⟩ := by
  rw [Reply.ofRun, Run.answer, h]
  rfl

/-- For a command line that can be read the program succeeds, or it fails and has written nothing,
with the status of its failure. But a table that is too wide ends it with a status of its own, and
below other lines these are written. If the settings cannot be read, all that reads files fails with
that, and the rest still succeeds. -/
theorem reply_of_parse {environment : List (String × String)} {args : List String}
    {invocation : Invocation} (hparse : Invocation.parse environment args = .ok invocation)
    (fs : FileSystem) (now : Instant) :
    (¬ invocation.Overflows fs now →
      (∃ text, reply fs now environment args = ⟨0, text, none⟩) ∨
      ∃ failure status, invocation.FailsWith fs failure status ∧
        reply fs now environment args = ⟨status, "", some failure⟩) ∧
    (invocation.Overflows fs now →
      ∃ text, reply fs now environment args = ⟨101, text, some .tooWide⟩ ∧
        (text ≠ "" ↔ invocation.request.isNavigation)) ∧
    (∀ error, invocation.request.readsFiles →
      Settings.resolve fs invocation.overrides = .error error →
      reply fs now environment args = ⟨2, "", some (.settings error)⟩) ∧
    (¬ invocation.request.readsFiles →
      ∃ text, reply fs now environment args = ⟨0, text, none⟩) := by
  have hreply : reply fs now environment args = .ofRun (invocation.run fs now) := by
    rw [reply, hparse]
  rw [hreply]
  have hends := invocation.run_endsWith fs now
  refine ⟨fun hnot => ?_, fun hoverflows => ?_, fun error hrequest hsettings => ?_,
    fun hrequest => ?_⟩
  · rcases hends.due hnot with hok | ⟨failure, status, hfails, hrun⟩
    · exact .inl ⟨_, Reply.ofRun_of_ok hok⟩
    · refine .inr ⟨failure, status, hfails, ?_⟩
      rw [hrun, ← hfails.status_eq]
      rfl
  · obtain ⟨hresult, hwritten⟩ := hends.tooWide hoverflows
    exact ⟨_, Reply.ofRun_of_error hresult, hwritten⟩
  · rw [Invocation.run_of_settings_error hrequest hsettings]
    rfl
  · obtain ⟨text, hrun⟩ := Invocation.run_of_not_readsFiles fs now hrequest
    exact ⟨text, by rw [hrun]; rfl⟩

/-! ## A title that is too wide -/

/-- A document with a title that is too wide is in a table of the navigation. -/
theorem overflows_navigation {settings : Settings} {fs : FileSystem} {tree : Directory}
    (htree : settings.catalog.HasTree fs tree) (hread : Readable fs settings.catalog.root tree)
    {category : String} {entries : Directory}
    (hentries : tree.find? category = some (.directory entries))
    (hexcluded : category ∉ settings.excluded) {file : File} (hfile : file.In entries)
    {d : Document} (hd : file.document? category = some d)
    (hwide : widthLimit < d.metadata.title.utf8ByteSize) :
    (CatalogQuery.navigation none).Overflows settings fs := by
  obtain ⟨names, hnames⟩ : ∃ names, settings.catalog.categories fs = .ok names :=
    ⟨_, htree.categories_eq⟩
  have hcategory : category ∈ names :=
    (htree.mem_categories_iff hnames).mpr ⟨⟨entries, hentries⟩, hexcluded⟩
  have hsections := htree.navigationAfter_eq hread hnames (List.Subset.refl names)
  refine ⟨Section.sort (names.map (Section.ofCategory tree)), ?_, Section.ofCategory tree category,
    (Section.sort_perm _).mem_iff.mpr (List.mem_map_of_mem hcategory), fun hfits => ?_⟩
  · rw [Catalog.navigation, hnames]
    exact hsections
  · have hitem : .ofDocument d ∈ (Section.ofCategory tree category).items := by
      refine List.mem_map_of_mem ?_
      rw [Directory.entriesOf_eq hentries]
      exact (mem_listingOf_iff (htree.wellFormed.of_find? hentries)).mpr ⟨file, hfile, hd⟩
    have htitle := (Table.fits_iff _).mp hfits ⟨Section.Item.title, .longest, 2⟩
      (by simp [itemTable]) rfl _ hitem
    exact absurd hwide (Nat.not_lt.mpr htitle)

/-- A heading of one letter many times. -/
def wideBytes (n : Nat) : List UInt8 := 35 :: 32 :: List.replicate n 97

/-- A catalog of one document with that heading. -/
def wideTree (n : Nat) : Directory :=
  [("identity", .directory [("did.md", .file (wideBytes n))])]

/-- The command line that asks for the navigation of that catalog. -/
def wideInvocation : Invocation where
  overrides := ⟨some "specs", none, none, none⟩
  log := some (verbosityDirective 0)
  request := .catalog (.navigation none) .human

/-- The document of that catalog. -/
def wideDocument (n : Nat) : Document where
  slug := "did"
  filename := "did.md"
  category := "identity"
  subcategory := none
  format := .markdown
  metadata := Markdown.metadata (Catalog.textOf (wideBytes n))

theorem size_title_wideDocument {n : Nat} (hn : n ≠ 0) :
    (wideDocument n).metadata.title.utf8ByteSize = n := by
  have hascii : ∀ b ∈ wideBytes n, b.toNat < 0x80 := by
    simp [wideBytes]
  have hword : ∀ c ∈ List.replicate n 'a', Unicode.isSpace c = false := by
    simp [Unicode.isSpace]
  have htext : Catalog.textOf (wideBytes n) = .ofList ('#' :: ' ' :: List.replicate n 'a') := by
    rw [Catalog.textOf, Text.Utf8.decodeLossy_of_ascii hascii, wideBytes, List.map_cons,
      List.map_cons, List.map_replicate]
    rfl
  rw [wideDocument, Markdown.metadata, htext, Markdown.title?_of_word (by simp [hn]) hword,
    Option.getD_some, FileSystem.size_replicate]
  exact Nat.mul_one n

theorem reply_of_parse_wideTree :
    Invocation.parse [] ["specs", "nav", "--root", "specs"] = .ok wideInvocation ∧
      wideInvocation.Overflows (.holding "specs" (wideTree 65536)) ⟨0, 0⟩ ∧
      ∃ text, text ≠ "" ∧ reply (.holding "specs" (wideTree 65536)) ⟨0, 0⟩ []
        ["specs", "nav", "--root", "specs"] = ⟨101, text, some .tooWide⟩ := by
  have hparse : Invocation.parse [] ["specs", "nav", "--root", "specs"] = .ok wideInvocation := rfl
  have hroot : IsEntryName "specs" := by decide
  have hwf : (wideTree 65536).WellFormed := by decide
  have hsettings : Settings.resolve (.holding "specs" (wideTree 65536)) wideInvocation.overrides =
      .ok sealedSettings := rfl
  have htree : sealedSettings.catalog.HasTree (.holding "specs" (wideTree 65536))
      (wideTree 65536) := hasTree_holding hroot hwf
  have hread := readable_holding hroot hwf (by decide)
  have hentries : (wideTree 65536).find? "identity" =
      some (.directory [("did.md", .file (wideBytes 65536))]) := rfl
  have hfile : File.In [("did.md", .file (wideBytes 65536))]
      ⟨[], "did.md", wideBytes 65536⟩ := rfl
  have hdocument : File.document? "identity"
      ⟨[], "did.md", wideBytes 65536⟩ = some (wideDocument 65536) := rfl
  have hoverflows : wideInvocation.Overflows (.holding "specs" (wideTree 65536)) ⟨0, 0⟩ := by
    refine (Invocation.overflows_iff hsettings).mpr ?_
    refine overflows_navigation htree hread hentries (by decide) hfile hdocument ?_
    rw [size_title_wideDocument (by decide)]
    decide
  obtain ⟨-, hwide, -⟩ := reply_of_parse hparse (.holding "specs" (wideTree 65536)) ⟨0, 0⟩
  obtain ⟨text, hreply, htext⟩ := hwide hoverflows
  exact ⟨hparse, hoverflows, text, htext.mpr rfl, hreply⟩

end Folio.Console
