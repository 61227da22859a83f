import Folio.Console.Arguments
import Folio.Console.Request

/-!
# The commands of the program

Main definitions:

* `sharedArguments`: what can be given for every command.
* `program`: all commands.
* `Invocation.parse`: what a command line and the environment ask for.
-/

namespace Folio.Console

/-! ## Words for values -/

/-- The word for a status. -/
def statusWord : Status → String
  | .draft => "draft"
  | .active => "active"
  | .standard => "standard"

/-- All statuses. -/
def statuses : List Status := [.draft, .active, .standard]

/-- The presentation under a name; lines for people are the default. -/
def presentationOf (values : Values) : Presentation :=
  if values.find? "format" = some "json" then .json else .human

/-- The status that is given. -/
def statusOf? (values : Values) : Option Status :=
  (values.find? "status").bind fun word => statuses.find? fun status => statusWord status = word

/-- The format of documents that is given. -/
def formatOf? (values : Values) : Option Format :=
  (values.find? "type").bind fun word => Format.all.find? fun format => format.name = word

/-- The shell that is given. -/
def shellOf (values : Values) : Shell :=
  (Shell.all.find? fun shell => shell.name = values.get "shell").getD .bash

/-! ## Arguments -/

/-- An argument that has a value. -/
def valued (name : String) (letter : Option Char) (domain : Domain)
    (environment : Option String := none) : Argument :=
  ⟨name, letter, .value domain, environment⟩

/-- What can be given for every command. -/
def sharedArguments : List Argument := [
  ⟨"help", some 'h', .help, none⟩,
  ⟨"version", some 'V', .version, none⟩,
  valued "root" none .path (some "SPECDEX_ROOT"),
  valued "blog-dir" none .path (some "SPECDEX_BLOG_DIR"),
  valued "config" (some 'c') .path (some "SPECDEX_CONFIG"),
  valued "env" none .text (some "SPECDEX_ENV"),
  ⟨"verbose", some 'v', .count, none⟩,
  ⟨"quiet", some 'q', .flag, none⟩,
  valued "log-format" none (.choice ["human", "json"]),
  valued "color" none (.choice ["auto", "always", "never"]) (some "SPECDEX_COLOR")]

/-- The choice of a presentation. -/
def formatArgument : Argument := valued "format" (some 'f') (.choice ["human", "json"])

/-- What the shared arguments make up with a request. -/
def invocationOf (values : Values) (request : Request) : Invocation where
  overrides :=
    ⟨values.find? "root", values.find? "blog-dir", values.find? "config", values.find? "env"⟩
  log := if values.has "quiet" then none else some (verbosityDirective (values.count "verbose"))
  request

/-! ## Commands -/

/-- A command that asks for something. -/
def asking (name : String) (arguments : List Argument) (operands : List Operand)
    (request : Values → Request) (conflicts : List (String × String) := []) :
    Command Invocation :=
  .leaf name (sharedArguments ++ arguments) operands conflicts fun values =>
    invocationOf values (request values)

/-- A command that asks something of the catalog. -/
def askingCatalog (name : String) (arguments : List Argument) (operands : List Operand)
    (query : Values → CatalogQuery) (conflicts : List (String × String) := []) :
    Command Invocation :=
  asking name (formatArgument :: arguments) operands
    (fun values => .catalog (query values) (presentationOf values)) conflicts

/-- A command that asks something of the blog. -/
def askingBlog (name : String) (operands : List Operand) (query : Values → BlogQuery) :
    Command Invocation :=
  asking name [formatArgument] operands fun values => .blog (query values) (presentationOf values)

/-- The commands for the catalog. -/
def catalogCommands : List (Command Invocation) := [
  askingCatalog "categories" [] [] fun _ => .categories,
  askingCatalog "list"
    [valued "status" none (.choice (statuses.map statusWord)),
      valued "type" none (.choice (Format.all.map Format.name))]
    [⟨"category", .text⟩]
    fun values => .documents (values.get "category") (statusOf? values) (formatOf? values),
  askingCatalog "show"
    [valued "subcategory" (some 's') .text, ⟨"raw", none, .flag, none⟩]
    [⟨"category", .text⟩, ⟨"slug", .text⟩]
    (fun values =>
      .document (values.get "category") (values.get "slug") (values.find? "subcategory")
        (values.has "raw"))
    [("raw", "format")],
  askingCatalog "nav" [valued "category" none .text] []
    fun values => .navigation (values.find? "category"),
  askingCatalog "routes" [] [] fun _ => .routes]

/-- The commands for the blog. -/
def blogCommands : List (Command Invocation) := [
  askingBlog "list" [] fun _ => .posts,
  askingBlog "show" [⟨"slug", .text⟩] fun values => .post (values.get "slug"),
  askingBlog "slugs" [] fun _ => .slugs]

/-- The name of the program. -/
def programName : String := "specdex"

/-- All commands. -/
def program : Command Invocation :=
  .group programName sharedArguments [
    .group "specs" sharedArguments catalogCommands,
    .group "blog" sharedArguments blogCommands,
    asking "completions" [] [⟨"shell", .choice (Shell.all.map Shell.name)⟩]
      fun values => .completions (shellOf values),
    asking "version" [formatArgument] [] fun values => .version (presentationOf values)]

/-- What a command line and the variables of the environment ask for. -/
def Invocation.parse (environment : List (String × String)) (args : List String) :
    Except ArgumentError Invocation :=
  program.parse environment args

end Folio.Console
