import SystemMenu.Staging.Build

/-!
# The shared list

Readers share one list of systems. The first request starts a build, which fills the current
generation; a reset waits for the build to end and starts a new, empty generation. Lists handed out
before a reset stay readable, as lists of their generation.

## Main declarations

* `Cache`: all generations and the build, if there is one.
* `Cache.beginBuild`, `Cache.step`, `Cache.proceed`: starting a build and letting it go on.
* `Cache.offers`, `Cache.sortedList?`, `Cache.filterIndex?`, `Cache.biosCount?`: reading.
* `Cache.reset`: a new generation.
-/

namespace SystemMenu

/-- The shared list of systems. -/
structure Cache where
  source : Source
  /-- All generations, the current one last. -/
  generations : List Generation := [{}]
  /-- A build has been started for the current generation. -/
  started : Bool := false
  /-- The build of the current generation, also after its end. -/
  build : Option Build := none
  /-- Number of builds started so far. -/
  buildsStarted : Nat := 0
  /-- How often the source was asked for its placeholder. -/
  placeholderRequests : Nat := 0

namespace Cache

/-- A cache over a source, with nothing built. -/
def new (source : Source) : Cache := { source := source }

/-- Number of the current generation. -/
def current (cache : Cache) : Nat := cache.generations.length - 1

/-- A generation by its number; one that does not exist holds nothing. -/
def generation (cache : Cache) (number : Nat) : Generation :=
  (cache.generations[number]?).getD {}

/-- The entries of a generation's list; none before it is complete. -/
def entries (cache : Cache) (number : Nat) : List Entry :=
  (cache.generation number).sorted.getD []

/-- The stages published for the current generation, in the order of their publication. -/
def published (cache : Cache) : List Stage := (cache.generation cache.current).published

/-- Every one of some stages has been published for the current generation. -/
def offers (cache : Cache) (stages : List Stage) : Bool :=
  (cache.generation cache.current).offers stages

/-- A build is in progress. -/
def isBuilding (cache : Cache) : Bool := cache.build.any Build.isRunning

/-- Number of the current generation, if its sorted list has been published. -/
def sortedList? (cache : Cache) : Option Nat :=
  if cache.offers [.sortedList] then some cache.current else none

/-- The filter index, if it has been published. -/
def filterIndex? (cache : Cache) : Option FilterIndex :=
  if cache.offers [.filterIndex] then some ((cache.generation cache.current).filter.getD {})
  else none

/-- The number of BIOS sets, if it has been published. -/
def biosCount? (cache : Cache) : Option Nat :=
  if cache.offers [.biosCount] then some ((cache.generation cache.current).biosCount.getD 0)
  else none

/-- Some listed system lacks its media; nothing if there is no list yet. -/
def lacksMedia? (cache : Cache) : Option Bool :=
  cache.sortedList?.map fun number => (cache.entries number).any fun entry => !entry.available

/-- What a wait for some stages notes: that nothing will happen if no build was started. -/
def waitEvents (cache : Cache) (stages : List Stage) : List Event :=
  if !cache.offers stages && !cache.started then [.waitNotStarted] else []

/-- Starts a build, unless one was started for this generation. -/
def beginBuild (cache : Cache) (searchPath selector : String) : Cache × List Event :=
  if cache.started then (cache, [.buildAlreadyStarted])
  else
    ({ cache with
        started := true
        buildsStarted := cache.buildsStarted + 1
        build := some (.start cache.current cache.source.size searchPath selector) }, [])

/-- Puts a changed generation in its place. -/
def setGeneration (cache : Cache) (number : Nat) (generation : Generation) : Cache :=
  { cache with generations := cache.generations.set number generation }

/-- Lets the build do its next task, if it has one. -/
def step (tree : FileTree) (cache : Cache) : Cache × List Event :=
  match cache.build with
  | none => (cache, [])
  | some build =>
    match build.todo with
    | [] => (cache, [])
    | task :: todo =>
      let result := ({ build with todo := todo } : Build).perform cache.source tree task
        (cache.generation build.generation) cache.placeholderRequests
      let requests := cache.placeholderRequests + if Build.asksPlaceholder task then 1 else 0
      match result with
      | .error message =>
        ({ cache with
            build := some { build with todo := [], failure := some message }
            placeholderRequests := requests }, [])
      | .ok result =>
        ({ cache.setGeneration build.generation result.generation with
            build := some result.build
            placeholderRequests := requests }, result.events)

/-- Where a build can be held. -/
inductive Hold where
  /-- After the title file was looked for and before it is opened. -/
  | atStart
  /-- Right after a stage has been published. -/
  | after (stage : Stage)
  deriving Repr, DecidableEq

/-- The build is held once this task is done. -/
def Hold.isAfter : Hold → Task → Bool
  | atStart, task => task = .locateTitles
  | after stage, task => task = .publish stage

/-- Number of tasks that the build still has to do. -/
def remaining (cache : Cache) : Nat := (cache.build.map fun build => build.todo.length).getD 0

/-- The task that the build does next. -/
def nextTask? (cache : Cache) : Option Task := cache.build.bind fun build => build.todo.head?

/-- Lets the build do up to a number of tasks, or until it is held. -/
def advance (tree : FileTree) (hold : Option Hold) : Nat → Cache → Cache × List Event
  | 0, cache => (cache, [])
  | count + 1, cache =>
    match cache.nextTask? with
    | none => (cache, [])
    | some task =>
      let (cache, events) := cache.step tree
      if hold.any fun hold => hold.isAfter task then (cache, events)
      else
        let (cache, more) := advance tree hold count cache
        (cache, events ++ more)

/-- Lets the build go on until it ends or is held. -/
def proceed (tree : FileTree) (hold : Option Hold) (cache : Cache) : Cache × List Event :=
  advance tree hold cache.remaining cache

/-- Starts a build and lets it go on. A build that is in progress is not touched. -/
def beginAndProceed (tree : FileTree) (searchPath selector : String) (hold : Option Hold)
    (cache : Cache) : Cache × List Event :=
  if cache.started then cache.beginBuild searchPath selector
  else
    let (cache, events) := cache.beginBuild searchPath selector
    let (cache, more) := cache.proceed tree hold
    (cache, events ++ more)

/-- Waits for the build to end and starts a new, empty generation. -/
def reset (tree : FileTree) (cache : Cache) : Cache × List Event :=
  let (cache, events) := cache.proceed tree none
  let failed :=
    match cache.build.bind (·.failure) with
    | some message => [Event.buildPanicked message]
    | none => []
  ({ cache with generations := cache.generations ++ [{}], started := false, build := none },
    events ++ failed ++ [.cacheReset])

/-- Changes the entries of the current list. -/
def mapEntries (cache : Cache) (change : Entry → Entry) : Cache :=
  let generation := cache.generation cache.current
  cache.setGeneration cache.current
    { generation with sorted := generation.sorted.map (·.map change) }

/-- A set of stages, as it is shown: their names, or zero for none. -/
def describeStages (stages : List Stage) : String :=
  if stages.isEmpty then "Stages(0x0)"
  else "Stages(" ++ " | ".intercalate ((Stage.shown stages).map Stage.name) ++ ")"

/-- The state of the cache in one line. -/
def describe (cache : Cache) : String :=
  "StagedCache \x7b systems: " ++ toString cache.source.size ++ ", available: " ++
    describeStages cache.published ++ ", builds_started: " ++ toString cache.buildsStarted ++
    " \x7d"

end Cache

end SystemMenu
