import SystemMenu.Event
import SystemMenu.Files.Tree
import SystemMenu.Listing.Draft
import SystemMenu.Listing.Order
import SystemMenu.Listing.Titles
import SystemMenu.Staging.Stage

/-!
# Building the list, task by task

A build is a fixed sequence of tasks: it finds and opens the title file, makes an entry for each
record, applies the titles, sorts, finishes the filter index and fills in the search keys; what it
has made goes into a generation, and after that the stage is published. A task that fails ends the
build, and the stages published before it stay.

## Main declarations

* `Generation`: what one build publishes.
* `Task`, `Task.schedule`: the tasks and their order.
* `Build`: a build in progress or at its end.
* `Build.perform`: what one task does.
-/

namespace SystemMenu

/-- What one build makes; each part is set once, before the stage that announces it. -/
structure Generation where
  /-- The stages published so far, in the order of their publication. -/
  published : List Stage := []
  biosCount : Option Nat := none
  sorted : Option (List Entry) := none
  filter : Option FilterIndex := none

namespace Generation

/-- Every one of some stages has been published. -/
def offers (generation : Generation) (stages : List Stage) : Bool :=
  stages.all fun stage => generation.published.contains stage

/-- Publishes a stage. -/
def publish (generation : Generation) (stage : Stage) : Generation :=
  if stage ∈ generation.published then generation
  else { generation with published := generation.published ++ [stage] }

end Generation

/-- The tasks of a build. -/
inductive Task where
  | locateTitles
  | openTitles
  | askPlaceholder
  | addRecord (index : Nat)
  | storeBiosCount
  | applyTitles
  | dropPlaceholder
  | storeSorted
  | storeFilter
  | storeKeys (field : SearchField)
  | publish (stage : Stage)
  | reportComplete
  deriving Repr, DecidableEq

/-- All tasks of a build over a number of records, in order. -/
def Task.schedule (size : Nat) : List Task :=
  [.locateTitles, .openTitles, .askPlaceholder] ++ (List.range size).map .addRecord ++
    [.storeBiosCount, .publish .biosCount, .applyTitles, .dropPlaceholder,
      .storeSorted, .publish .sortedList, .storeFilter, .publish .filterIndex] ++
    SearchField.all.flatMap (fun field => [.storeKeys field, .publish field.stage]) ++
    [.reportComplete]

/-- A build: what it was asked for, what is still to do, and what it holds for itself. -/
structure Build where
  /-- Number of the generation that the build fills. -/
  generation : Nat
  /-- Search path of the title file. -/
  searchPath : String
  /-- Name of the title file. -/
  selector : String
  todo : List Task
  titlePath : Option String := none
  /-- The title file, once it is open. -/
  titles : Option Node := none
  placeholder : Option Nat := none
  draft : Draft := {}
  /-- Why the build failed. -/
  failure : Option String := none

namespace Build

/-- A build that has not done anything yet. -/
def start (generation size : Nat) (searchPath selector : String) : Build where
  generation := generation
  searchPath := searchPath
  selector := selector
  todo := Task.schedule size

/-- The build has not come to its end. -/
def isRunning (build : Build) : Bool := !build.todo.isEmpty

/-- The build replaces titles. -/
def isTitled (build : Build) : Bool := build.titles.isSome

/-- The first directory of a search path that holds the title file; without a name there is none. -/
def findTitles? (tree : FileTree) (searchPath selector : String) : Option String :=
  if selector = "" then none
  else
    ((Path.searchDirectories searchPath).map fun directory => Path.join directory selector).find?
      tree.isFile

end Build

/-- What a task leaves behind: the build, the generation it fills, and what is worth noting. -/
structure TaskResult where
  build : Build
  generation : Generation
  events : List Event := []

namespace Build

/-- Looks for the title file. -/
def locateTitles (build : Build) (tree : FileTree) : Build × List Event :=
  let found := findTitles? tree build.searchPath build.selector
  ({ build with titlePath := found },
    if found.isNone ∧ build.selector ≠ "" then [.titlesMissing build.searchPath build.selector]
    else [])

/-- Opens the title file that was found. -/
def openTitles (build : Build) (tree : FileTree) : Build × List Event :=
  match build.titlePath with
  | none => (build, [])
  | some path =>
    match tree.openAt path with
    | .ok node => ({ build with titles := some node }, [])
    | .error _ => (build, [.titlesUnreadable path])

/-- Applies the open title file to the entries. -/
def applyOpenTitles (build : Build) (tree : FileTree) : Build × List Event :=
  match build.titles with
  | none => (build, [])
  | some node =>
    let (bytes, failed) :=
      match tree.readHandle node with
      | .ok bytes => (bytes, [])
      | .error _ => ([], [Event.titlesReadFailed])
    let pass := applyTitles bytes build.draft.entries
    ({ build with draft := { build.draft with entries := inheritTitles pass.entries } },
      failed ++ pass.events ++ [.titlesLoaded pass.report])

/-- Takes the placeholder's entry out of a list. -/
def withoutPlaceholder (placeholder : Option Nat) (entries : List Entry) : List Entry :=
  match placeholder with
  | some index => entries.eraseIdx index
  | none => entries

/-- Does one task; the placeholder has been asked for `requests` times before. An error is the message
with which the source failed. -/
def perform (source : Source) (tree : FileTree) (task : Task) (build : Build)
    (generation : Generation) (requests : Nat) : Except String TaskResult :=
  match task with
  | .locateTitles =>
    let (build, events) := build.locateTitles tree
    .ok ⟨build, generation, events⟩
  | .openTitles =>
    let (build, events) := build.openTitles tree
    .ok ⟨build, generation, events⟩
  | .askPlaceholder => do
    let placeholder ← source.placeholder requests
    return ⟨{ build with placeholder := placeholder }, generation, []⟩
  | .addRecord index => do
    let draft ← build.draft.addRecord source build.placeholder (!build.isTitled) index
    return ⟨{ build with draft := draft }, generation, []⟩
  | .storeBiosCount =>
    let count := generation.biosCount.getD build.draft.biosCount
    .ok ⟨build, { generation with biosCount := some count }, []⟩
  | .applyTitles =>
    let (build, events) := build.applyOpenTitles tree
    .ok ⟨build, generation, events⟩
  | .dropPlaceholder => do
    let placeholder ← source.placeholder requests
    let entries := withoutPlaceholder placeholder build.draft.entries
    return ⟨{ build with draft := { build.draft with entries := entries } }, generation, []⟩
  | .storeSorted =>
    let sorted := generation.sorted.getD (sortEntries build.draft.entries)
    .ok ⟨build, { generation with sorted := some sorted }, []⟩
  | .storeFilter =>
    let filter := generation.filter.getD build.draft.filter.finalize
    .ok ⟨build, { generation with filter := some filter }, []⟩
  | .storeKeys field =>
    let fill := fun entry : Entry => entry.setKey field (entry.keyFor build.isTitled field)
    .ok ⟨build, { generation with sorted := generation.sorted.map (·.map fill) }, []⟩
  | .publish stage => .ok ⟨build, generation.publish stage, []⟩
  | .reportComplete =>
    .ok ⟨build, generation,
      [.buildComplete (generation.sorted.getD []).length build.draft.biosCount]⟩

/-- The task asks the source where the placeholder is. -/
def asksPlaceholder : Task → Bool
  | .askPlaceholder | .dropPlaceholder => true
  | _ => false

end Build

end SystemMenu
