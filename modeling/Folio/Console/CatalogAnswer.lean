import Folio.Catalog.Lookup
import Folio.Catalog.Summary
import Folio.Console.Failure
import Folio.Console.Request
import Folio.Console.Table
import Folio.Text.Distance
import Folio.Text.Lines

/-!
# Answers from the catalog

Main definitions:

* `summaryTable`, `documentTable`, `itemTable`: the tables for people.
* `requireCategory`: a fault if a category is not listed, with the most similar one that is.
* `findShown`: the document that is asked for.
* `CatalogQuery.run`: the run for a question.
* `CatalogQuery.answer`: what it writes.
-/

namespace Folio.Console

/-- What is written when there are no documents. -/
def noDocuments : String := "(no specifications)"

/-- A number of things. -/
def plural (count : Nat) (noun : String) : String :=
  if count = 1 then "1 " ++ noun
  else
    match Text.dropTail ['y'] noun.toList with
    | some stem => Nat.repr count ++ " " ++ .ofList stem ++ "ies"
    | none => Nat.repr count ++ " " ++ noun ++ "s"

/-! ## Categories -/

/-- A line for each category. -/
def summaryTable : Table Summary where
  indent := 0
  columns := [⟨Summary.category, .longest, 2⟩]
  last s := plural s.count "specification"

/-- The line below all summaries. -/
def summaryClosing (summaries : List Summary) : String :=
  plural (Summary.total summaries) "specification" ++ " across "
    ++ plural summaries.length "category"

/-- Writes summaries. -/
def writeSummaries (summaries : List Summary) : Presentation → Run Unit
  | .json => .write (jsonText (.array (summaries.map Summary.toJson)))
  | .human => do
    summaryTable.write summaries
    .write (Text.unlines ["", summaryClosing summaries])

/-! ## Lists of documents -/

/-- Where a document is within its category. -/
def placeOf (d : Document) : String := "/".intercalate d.route.parts

/-- A line for each document. -/
def documentTable : Table Document where
  indent := 0
  columns := [
    ⟨(·.metadata.title), .longest, 2⟩,
    ⟨(·.metadata.status.label), .least 8, 2⟩,
    ⟨(·.metadata.version), .longest, 2⟩,
    ⟨placeOf, .longest, 2⟩]
  last d := d.format.name

/-- Writes a list of documents. -/
def writeDocuments (documents : List Document) : Presentation → Run Unit
  | .json => .write (jsonText (.array (documents.map Document.toJson)))
  | .human =>
    if documents.isEmpty then .write (Text.unlines [noDocuments])
    else documentTable.write documents

/-! ## Single documents -/

/-- The lines above a document. -/
def headLines (c : Content) : List String :=
  let m := c.metadata
  ["Title:    " ++ m.title, "Status:   " ++ m.status.label, "Version:  " ++ m.version]
    ++ (if m.lastUpdated = "" then [] else ["Updated:  " ++ m.lastUpdated])
    ++ (m.identifier.map ("ID:       " ++ ·)).toList
    ++ ["Type:     " ++ c.format.name, ""]

/-- A document in writing. -/
def contentText (c : Content) : Presentation → String
  | .json => jsonText c.toJson
  | .human => Text.unlines (headLines c) ++ Text.endLine c.text

/-! ## Navigation -/

/-- A line for each link of a section. -/
def itemTable (settings : Settings) : Table Section.Item where
  indent := 2
  columns := [⟨fun item => "[" ++ item.status.label ++ "]", .least 10, 1⟩,
    ⟨Section.Item.title, .longest, 2⟩]
  last item := settings.link item.href

/-- Writes a section for people: its title and its links. -/
def writeSection (settings : Settings) (s : Section) : Run Unit := do
  .write (Text.unlines [s.title])
  (itemTable settings).write s.items

/-- Writes sections, for people with an empty line between them. -/
def writeSections (settings : Settings) (sections : List Section) : Presentation → Run Unit
  | .json => .write (jsonText (.array (sections.map Section.toJson)))
  | .human =>
    match sections with
    | [] => .write (Text.unlines [noDocuments])
    | first :: others => do
      writeSection settings first
      forM others fun s => do
        .write (Text.unlines [""])
        writeSection settings s

/-- Routes in writing. -/
def routesText (settings : Settings) (routes : List Route) : Presentation → String
  | .json => jsonText (.array (routes.map Route.toJson))
  | .human => Text.unlines (routes.map fun route => settings.link route.href)

/-! ## Questions -/

/-- The greatest distance at which a category is similar. -/
def similarLimit : Nat := 3

/-- A fault if a category is not listed. -/
def requireCategory (catalog : Catalog) (fs : FileSystem) (name : String) :
    Except Failure Unit := do
  let known ← (catalog.categories fs).mapError .file
  if known.contains name then .ok ()
  else .error (.noCategory name (Text.closest? similarLimit name known))

/-- The subcategory and the slug that are asked for. The subcategory stands before the slug or is
given apart. -/
def partsOf (slug : String) (subcategory : Option String) :
    Except Failure (Option String × String) :=
  match Route.split? ((slug.toList.splitOn '/').map String.ofList), subcategory with
  | none, _ => .error (.badSlug slug)
  | some (some _, _), some _ => .error .twoSubcategories
  | some (written, slug), given => .ok (written <|> given, slug)

/-- The document that is asked for. -/
def findShown (catalog : Catalog) (fs : FileSystem) (category slug : String)
    (subcategory : Option String) : Except Failure Content := do
  let (subcategory, slug) ← partsOf slug subcategory
  match ← (catalog.find fs category slug subcategory).mapError .file with
  | some content => .ok content
  | none => .error (.noDocument slug category subcategory)

/-- The documents that have a status and a format, where these are given. -/
def select (status : Option Status) (format : Option Format) (documents : List Document) :
    List Document :=
  documents.filter fun d =>
    status.all (d.metadata.status = ·) && format.all (d.format = ·)

/-- The run for a question. -/
def CatalogQuery.run (settings : Settings) (fs : FileSystem) (presentation : Presentation)
    (query : CatalogQuery) : Run Unit :=
  let catalog := settings.catalog
  match query with
  | categories => do
    let summaries ← (catalog.summaries fs).mapError Failure.file
    writeSummaries summaries presentation
  | documents category status format => do
    requireCategory catalog fs category
    let documents ← (catalog.documents fs category).mapError Failure.file
    writeDocuments (select status format documents) presentation
  | document category slug subcategory raw => do
    requireCategory catalog fs category
    let content ← findShown catalog fs category slug subcategory
    .write (if raw then content.text else contentText content presentation)
  | navigation none => do
    let sections ← (catalog.navigation fs).mapError Failure.file
    writeSections settings sections presentation
  | navigation (some category) => do
    requireCategory catalog fs category
    let found ← (catalog.section? fs category).mapError Failure.file
    writeSections settings found.toList presentation
  | routes => do
    let routes ← (catalog.routes fs).mapError Failure.file
    .write (routesText settings routes presentation)

/-- What is written for a question. -/
def CatalogQuery.answer (settings : Settings) (fs : FileSystem) (presentation : Presentation)
    (query : CatalogQuery) : Except Failure String :=
  (query.run settings fs presentation).answer

end Folio.Console
