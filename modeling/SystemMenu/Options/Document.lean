import SystemMenu.Files.Tree
import SystemMenu.Options.Basic
import SystemMenu.Toml.Fields
import SystemMenu.Toml.Parser
import SystemMenu.Toml.Writer

/-!
# Options as a settings document

Every key of the document may be left out, an unknown one is refused. Written options hold every key.

## Main declarations

* `Options.parse`, `Options.write`: reading and writing the document.
* `Options.load`, `Options.loadOrDefault`, `Options.save`: the same with files.
-/

namespace SystemMenu

/-- Why options cannot be read or written. -/
inductive OptionsError where
  | document (cause : Toml.Error)
  | file (path : String) (cause : FileError)
  | noVisibleResults
  deriving Repr, DecidableEq

/-- The message for options that are well-formed but unusable. -/
def OptionsError.message : OptionsError → String
  | document _ => "TOML parse error"
  | file path cause => "I/O error on " ++ path ++ ": " ++ cause.message
  | noVisibleResults => "invalid value for search.max_visible_results: must be at least 1"

namespace Score.Metric

/-- The metrics with the names they have in a document. -/
def named : List (String × Metric) := [("jaro-winkler", jaroWinkler), ("levenshtein", levenshtein)]

/-- The name of a metric in a document. -/
def name : Metric → String
  | jaroWinkler => "jaro-winkler"
  | levenshtein => "levenshtein"

/-- The name of a metric leads back to it. -/
theorem lookup_name (metric : Metric) : named.lookup metric.name = some metric := by
  cases metric <;> rfl

end Score.Metric

namespace PathOptions

/-- Reads the paths. -/
def read (value : Toml.Value) : Except Toml.Error PathOptions := do
  let fields ← Toml.readFields ["history_path", "system_names", "media_path", "ui_path"] value
  let standard : PathOptions := {}
  return {
    historyPath := ← Toml.withDefault fields "history_path" standard.historyPath Toml.readString
    systemNames := ← Toml.withDefault fields "system_names" standard.systemNames Toml.readString
    mediaPath := ← Toml.withDefault fields "media_path" standard.mediaPath Toml.readString
    uiPath := ← Toml.withDefault fields "ui_path" standard.uiPath Toml.readString }

/-- The written keys and values. -/
def pairs (options : PathOptions) : List (String × String) :=
  [("history_path", Toml.writeString options.historyPath),
    ("system_names", Toml.writeString options.systemNames),
    ("media_path", Toml.writeString options.mediaPath),
    ("ui_path", Toml.writeString options.uiPath)]

end PathOptions

namespace SearchOptions

/-- Reads the search options. -/
def read (value : Toml.Value) : Except Toml.Error SearchOptions := do
  let fields ← Toml.readFields ["metric", "max_visible_results"] value
  let standard : SearchOptions := {}
  return {
    metric := ← Toml.withDefault fields "metric" standard.metric
      (Toml.readChoice Score.Metric.named)
    maxVisibleResults := ← Toml.withDefault fields "max_visible_results"
      standard.maxVisibleResults Toml.readNatural }

/-- The written keys and values. -/
def pairs (options : SearchOptions) : List (String × String) :=
  [("metric", Toml.writeString options.metric.name),
    ("max_visible_results", toString options.maxVisibleResults)]

end SearchOptions

namespace SessionOptions

/-- Reads what the last session left. -/
def read (value : Toml.Value) : Except Toml.Error SessionOptions := do
  let fields ← Toml.readFields
    ["remember_last", "last_used_machine", "last_used_filter", "hide_romless"] value
  let standard : SessionOptions := {}
  return {
    rememberLast := ← Toml.withDefault fields "remember_last" standard.rememberLast
      Toml.readBoolean
    lastUsedMachine := ← Toml.withDefault fields "last_used_machine" standard.lastUsedMachine
      Toml.readString
    lastUsedFilter := ← Toml.withDefault fields "last_used_filter" standard.lastUsedFilter
      Toml.readString
    hideRomless := ← Toml.withDefault fields "hide_romless" standard.hideRomless
      Toml.readBoolean }

/-- The written keys and values. -/
def pairs (options : SessionOptions) : List (String × String) :=
  [("remember_last", Toml.writeBoolean options.rememberLast),
    ("last_used_machine", Toml.writeString options.lastUsedMachine),
    ("last_used_filter", Toml.writeString options.lastUsedFilter),
    ("hide_romless", Toml.writeBoolean options.hideRomless)]

end SessionOptions

namespace Options

/-- Reads options from the root table of a document. -/
def read (document : Toml.Entries) : Except Toml.Error Options := do
  let fields ← Toml.fieldsOfTable ["paths", "search", "session"] document
  return {
    paths := ← Toml.withDefault fields "paths" {} PathOptions.read
    search := ← Toml.withDefault fields "search" {} SearchOptions.read
    session := ← Toml.withDefault fields "session" {} SessionOptions.read }

/-- Reads options; a menu has to show at least one result. -/
def parse (text : String) : Except OptionsError Options :=
  match Toml.parse text >>= read with
  | .error cause => .error (.document cause)
  | .ok options =>
    if options.search.maxVisibleResults = 0 then .error .noVisibleResults else .ok options

/-- The document of some options. -/
def write (options : Options) : String :=
  Toml.writeDocument
    [("paths", options.paths.pairs), ("search", options.search.pairs),
      ("session", options.session.pairs)]

/-- Reads the options in a file. -/
def load (tree : FileTree) (path : String) : Except OptionsError Options :=
  match tree.readText path with
  | .error cause => .error (.file path cause)
  | .ok text => parse text

/-- Reads the options in a file, or takes the defaults if there is no such file. -/
def loadOrDefault (tree : FileTree) (path : String) : Except OptionsError Options :=
  if tree.hasPath path then load tree path else .ok {}

/-- Writes the options to a file, making the directories that lead to it. -/
def save (options : Options) (tree : FileTree) (path : String) : Except OptionsError FileTree :=
  match tree.save path (Text.Utf8.encode options.write.toList) with
  | .error cause => .error (.file path cause)
  | .ok tree => .ok tree

end Options

end SystemMenu
