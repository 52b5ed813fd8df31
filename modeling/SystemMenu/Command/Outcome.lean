import SystemMenu.Catalog.Document
import SystemMenu.Media.SavedList
import SystemMenu.Options.Document
import SystemMenu.Staging.Stage

/-!
# What a command leaves behind

A command prints lines and changes files; it may fail with a reason, and what it printed and changed
before stays.

## Main declarations

* `Failure`, `Failure.message`: why a command fails and how that is said.
* `Line`: a line of output.
* `Outcome`: what a command leaves behind.
-/

namespace SystemMenu.Command

/-- Why a command fails. -/
inductive Failure where
  | loadOptions (path : String) (cause : OptionsError)
  | loadCatalog (path : String) (cause : CatalogError)
  | unknownFilter (text : String)
  | noMatch (query : String)
  | saveOptions (path : String) (cause : OptionsError)
  | savedList (cause : SavedList.Error)
  | createDirectory (path : String) (cause : FileError)
  | mediaScan (message : String)
  | incompleteBuild (missing : List Stage)
  deriving Repr, DecidableEq

namespace Failure

/-- What a failure says. -/
def message : Failure → String
  | loadOptions path _ => "loading options from " ++ path
  | loadCatalog path _ => "loading catalog " ++ path
  | unknownFilter text => "unknown filter '" ++ text ++ "'"
  | noMatch query => "no system matches '" ++ query ++ "'"
  | saveOptions path _ => "saving options to " ++ path
  | savedList cause => cause.message
  | createDirectory path _ => "creating " ++ path
  | mediaScan text => "media scan panicked: " ++ text
  | incompleteBuild missing =>
    "cache build stopped before publishing " ++ ", ".intercalate (missing.map Stage.name)

/-- What has caused a failure, where its message does not say that already. -/
def cause? : Failure → Option String
  | loadOptions _ cause | saveOptions _ cause => some cause.message
  | loadCatalog _ cause => some cause.message
  | createDirectory _ cause => some cause.message
  | unknownFilter _ | noMatch _ | savedList _ | mediaScan _ | incompleteBuild _ => none

end Failure

/-- A line of output. -/
inductive Line where
  | text (text : String)
  /-- A stage was published; the time that this took is printed before its name. -/
  | published (stage : Stage)
  deriving Repr, DecidableEq

/-- What a command leaves behind. -/
structure Outcome where
  tree : FileTree
  output : List Line := []
  failure : Option Failure := none

namespace Outcome

/-- Nothing but a failure. -/
def failed (tree : FileTree) (failure : Failure) : Outcome :=
  { tree := tree, failure := some failure }

/-- Nothing but some lines. -/
def printed (tree : FileTree) (lines : List String) : Outcome :=
  { tree := tree, output := lines.map .text }

/-- The status with which the program ends. -/
def exitCode (outcome : Outcome) : Nat := if outcome.failure.isSome then 1 else 0

end Outcome

end SystemMenu.Command
