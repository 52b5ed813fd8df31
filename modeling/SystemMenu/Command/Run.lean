import SystemMenu.Command.Arguments
import SystemMenu.Command.Outcome
import SystemMenu.Command.Table
import SystemMenu.Media.Scan
import SystemMenu.Session.Basic
import SystemMenu.Staging.Watch

/-!
# Commands

Each command works on one catalog with one set of options. It builds the list, reads it and prints
what it was asked for; `select` saves the options for the next session, and `avail` the list of the
available systems. The commands that print tables take the measure of width by which columns are
aligned.

## Main declarations

* `Context`: what all commands work on.
* `list`, `search`, `select`, `stages`, `filters`, `avail`: the commands.
* `bestMatch?`: the system that `select` chooses.
* `runBy`: reads options and catalog and runs a command.
* `run`: the same with the measure of width with which the program runs.
-/

namespace SystemMenu.Command

/-- What a command works on. -/
structure Context where
  tree : FileTree
  catalog : Catalog
  options : Options
  /-- The file in which options are saved. -/
  configPath : String

namespace Context

/-- The shared list after a complete build. -/
def builtCache (context : Context) : Cache :=
  let paths := context.options.paths
  ((Cache.new context.catalog.source).beginAndProceed context.tree paths.historyPath
    paths.systemNames none).1

/-- A new session. -/
def newSession (context : Context) (topLevel : Bool) : Session :=
  (Session.new context.options topLevel).1

/-- The entries of a built list. -/
def listed (cache : Cache) : List Entry := cache.entries cache.current

/-- Takes the saved list of available systems over, if there is one of this version. -/
def applySaved (context : Context) (cache : Cache) : Except Failure (Option Cache) :=
  match SavedList.load context.tree context.options.availableListPath SavedList.version with
  | .error cause => .error (.savedList cause)
  | .ok (none, _) => .ok none
  | .ok (some names, _) => .ok (some (cache.mapEntries (SavedList.applyNames names)))

end Context

open Context (listed)

/-! ## Listing -/

/-- The filter for a list: the one given, or else the one of the session. -/
def chooseFilter (session : Session) : Option String → Except Failure Session
  | none => .ok session
  | some text =>
    match Filter.parse? text with
    | some filter => .ok (session.setFilter filter)
    | none => .error (.unknownFilter text)

/-- The cells of a listed system; clones stand a little to the right. -/
def listRow (entry : Entry) : List String :=
  [if entry.isClone then "  " ++ entry.shortname else entry.shortname, entry.description,
    entry.record.year, entry.record.manufacturer]

/-- The systems of a filled menu. -/
def listedSystems (session : Session) (cache : Cache) : List Entry :=
  session.items.filterMap (MenuItem.listed? (session.entries cache))

/-- The lines of the list. -/
def listLines (width : List Char → Nat) (context : Context) (filter : Option String) :
    Except Failure (List String) := do
  let session ← chooseFilter (context.newSession false) filter
  let cache := context.builtCache
  let cache := (← context.applySaved cache).getD cache
  let session := (session.populate? cache {}).getD session
  return Table.layoutBy width ((listedSystems session cache).map listRow)

/-- Lists the systems in display order. -/
def list (width : List Char → Nat) (context : Context) (filter : Option String) : Outcome :=
  match listLines width context filter with
  | .ok lines => .printed context.tree lines
  | .error failure => .failed context.tree failure

/-! ## Searching -/

/-- The systems in the order in which they match a query, with their scores. -/
def rankedSystems (context : Context) (query : String) : List (Rat × Entry) :=
  let cache := context.builtCache
  let entries := listed cache
  match ({ metric := context.options.search.metric } : Ranker).rank? cache query with
  | none => []
  | some (_, ranking) => ranking.candidates.filterMap fun candidate =>
    (entries[candidate.position]?).map fun entry => (candidate.score, entry)

/-- The cells of a search result. -/
def searchRow (result : Rat × Entry) : List String :=
  [Score.fixedDecimal 3 result.1, result.2.shortname, result.2.description]

/-- Prints the best matches of a query with their scores. -/
def search (width : List Char → Nat) (context : Context) (query : String) (limit : Nat) : Outcome :=
  .printed context.tree
    (Table.layoutBy width (((rankedSystems context query).take limit).map searchRow))

/-! ## Selecting -/

/-- The best match of a query that the last filter lists, and what the session leaves to the next. -/
def bestMatch? (context : Context) (query : String) : Option (Entry × SessionSummary) := do
  let cache := context.builtCache
  let session ← ((context.newSession true).setSearch query).populate? cache {}
  let session := session.select 0
  let entry ← (← session.selectedItem?).listed? (session.entries cache)
  return (entry, session.finish cache)

/-- The options with what a session left. -/
def withSummary (options : Options) (summary : SessionSummary) : Options :=
  { options with session := summary.applyTo options.session }

/-- Prints the best match of a query and saves it as the last used system. -/
def select (context : Context) (query : String) : Outcome :=
  match bestMatch? context query with
  | none => .failed context.tree (.noMatch query)
  | some (entry, summary) =>
    let printed := Outcome.printed context.tree [entry.shortname ++ "  " ++ entry.description]
    match (withSummary context.options summary).save context.tree context.configPath with
    | .ok tree => { printed with tree := tree }
    | .error cause => { printed with failure := some (.saveOptions context.configPath cause) }

/-! ## Building -/

/-- Prints the stages that a build publishes and the number of systems. -/
def stages (context : Context) : Outcome :=
  let cache := context.builtCache
  let watch := Watch.ofEnded cache.published
  let reports := watch.reports.map Line.published
  let missing := watch.missing
  if missing = [] then
    { tree := context.tree
      output := reports ++ [.text (toString (listed cache).length ++ " systems")] }
  else
    { tree := context.tree, output := reports, failure := some (.incompleteBuild missing) }

/-- A heading with the number of the values under it. -/
def countedLines (heading : String) (values : List String) : List String :=
  (heading ++ " (" ++ toString values.length ++ "):") :: values.map ("  " ++ ·)

/-- Prints the number of BIOS sets and the values by which systems can be filtered. -/
def filters (context : Context) : Outcome :=
  let cache := context.builtCache
  let index := cache.filterIndex?.getD {}
  .printed context.tree
    (("BIOS systems: " ++ toString (cache.biosCount?.getD 0)) ::
      countedLines "Manufacturers" index.manufacturers ++ countedLines "Years" index.years)

/-! ## Media -/

/-- Looks for media and takes the result over. -/
def scanMedia (context : Context) (cache : Cache) : Except Failure Cache :=
  let (marks, _) := Media.scan cache.source cache.placeholderRequests context.tree
    context.options.mediaDirectories context.options.session.hideRomless
  match marks with
  | .ok included => .ok (cache.mapEntries (Media.applyMarks included))
  | .error message => .error (.mediaScan message)

/-- The lines about the available systems. -/
def availabilityLines (entries : List Entry) : List String :=
  let missing := entries.filter fun entry => !entry.available
  let count := toString (entries.filter (·.available)).length
  (count ++ " of " ++ toString entries.length ++ " systems available") ::
    if missing.isEmpty then []
    else ["missing media: " ++ " ".intercalate (missing.map Entry.shortname)]

/-- Saves the list of the available systems, in a directory that is made if it is missing. -/
def saveAvailable (context : Context) (entries : List Entry) : Outcome :=
  let path := context.options.availableListPath
  match context.tree.createParents path with
  | .error cause => .failed context.tree (.createDirectory (Path.parent path) cause)
  | .ok tree =>
    match SavedList.save tree path SavedList.version entries with
    | .error cause => .failed tree (.savedList cause)
    | .ok tree => .printed tree (availabilityLines entries)

/-- Looks for media, prints what was found and saves it. -/
def rescan (context : Context) (cache : Cache) : Outcome :=
  match scanMedia context cache with
  | .error failure => .failed context.tree failure
  | .ok cache => saveAvailable context (listed cache)

/-- Prints which systems are available: as the saved list says or, if there is none or it is to be
made anew, by looking for media. -/
def avail (context : Context) (anew : Bool) : Outcome :=
  let cache := context.builtCache
  if anew then rescan context cache
  else
    match context.applySaved cache with
    | .error failure => .failed context.tree failure
    | .ok none => rescan context cache
    | .ok (some cache) => .printed context.tree (availabilityLines (listed cache))

/-! ## Running -/

/-- Runs a command. -/
def Action.run (width : List Char → Nat) (context : Context) : Action → Outcome
  | .list filter => Command.list width context filter
  | .search query limit => Command.search width context query limit
  | .select query => Command.select context query
  | .stages => Command.stages context
  | .filters => Command.filters context
  | .avail anew => Command.avail context anew

/-- Reads the options, then the catalog, and runs a command. `standardConfig` is the file with the
options if no other is given. -/
def runBy (width : List Char → Nat) (tree : FileTree) (standardConfig : String)
    (arguments : Arguments) : Outcome :=
  let configPath := arguments.config.getD standardConfig
  match Options.loadOrDefault tree configPath with
  | .error cause => .failed tree (.loadOptions configPath cause)
  | .ok options =>
    match Catalog.load tree arguments.catalog with
    | .error cause => .failed tree (.loadCatalog arguments.catalog cause)
    | .ok catalog =>
      arguments.action.run width
        { tree := tree, catalog := catalog, options := options, configPath := configPath }

/-- Runs a command; tables are laid out by display width. -/
def run (tree : FileTree) (standardConfig : String) (arguments : Arguments) : Outcome :=
  runBy Text.displayWidth tree standardConfig arguments

end SystemMenu.Command
