/-!
# Events

What happens while the list is built, media are looked for and sessions open, as far as it is worth
recording. Every event has a name and named texts.
-/

namespace SystemMenu

/-- What a title file brought. -/
structure TitleReport where
  /-- Titles taken over. -/
  descriptions : Nat := 0
  /-- Readings taken over. -/
  readings : Nat := 0
  /-- Lines for short names that are not listed. -/
  unknown : Nat := 0
  /-- Lines without a tab. -/
  malformed : Nat := 0
  /-- Titles and readings given a second time. -/
  duplicates : Nat := 0
  /-- Blank titles and readings. -/
  empty : Nat := 0
  deriving Repr, DecidableEq

/-- What happened. -/
inductive Event where
  | emptyDescription (shortname : String)
  | emptyReading (shortname : String)
  | duplicateDescription (shortname kept ignored : String)
  | duplicateReading (shortname kept ignored : String)
  | titlesReadFailed
  | titlesUnreadable (path : String)
  | titlesMissing (searchPath selector : String)
  | titlesLoaded (report : TitleReport)
  | buildComplete (systems biosCount : Nat)
  | buildAlreadyStarted
  | buildPanicked (message : String)
  | waitNotStarted
  | cacheReset
  | filterUnknown (text : String)
  | directorySkipped (directory : String)
  | listVersionMismatch (path found expected : String)
  | threadSpawned (workClass thread : String)
  deriving Repr, DecidableEq

namespace Event

/-- The name of an event. -/
def name : Event → String
  | emptyDescription _ => "overlay.empty_description"
  | emptyReading _ => "overlay.empty_reading"
  | duplicateDescription .. => "overlay.duplicate_description"
  | duplicateReading .. => "overlay.duplicate_reading"
  | titlesReadFailed => "overlay.read_failed"
  | titlesUnreadable _ => "cache.build.titles_unreadable"
  | titlesMissing .. => "cache.build.titles_missing"
  | titlesLoaded _ => "cache.build.titles_loaded"
  | buildComplete .. => "cache.build.complete"
  | buildAlreadyStarted => "cache.build.already_started"
  | buildPanicked _ => "cache.build.panicked"
  | waitNotStarted => "cache.wait.not_started"
  | cacheReset => "cache.reset"
  | filterUnknown _ => "session.filter.unknown"
  | directorySkipped _ => "availability.scan.skip_dir"
  | listVersionMismatch .. => "availability.list.version_mismatch"
  | threadSpawned .. => "worker.spawn_named_thread"

/-- The named texts of an event. -/
def fields : Event → List (String × String)
  | emptyDescription shortname => [("shortname", shortname)]
  | emptyReading shortname => [("shortname", shortname)]
  | duplicateDescription shortname kept ignored =>
    [("shortname", shortname), ("kept", kept), ("ignored", ignored)]
  | duplicateReading shortname kept ignored =>
    [("shortname", shortname), ("kept", kept), ("ignored", ignored)]
  | titlesUnreadable path => [("path", path)]
  | titlesMissing searchPath selector =>
    [("title_path", searchPath), ("title_selector", selector)]
  | buildComplete systems biosCount =>
    [("systems", toString systems), ("bios_count", toString biosCount)]
  | buildPanicked message => [("message", message)]
  | filterUnknown text => [("filter", text)]
  | directorySkipped directory => [("dir", directory)]
  | listVersionMismatch path found expected =>
    [("path", path), ("found", found), ("expected", expected)]
  | threadSpawned workClass thread => [("worker_class", workClass), ("thread", thread)]
  | titlesReadFailed | titlesLoaded _ | buildAlreadyStarted | waitNotStarted | cacheReset => []

end Event

end SystemMenu
