import SystemMenu.Files.Path
import SystemMenu.Score.Metric

/-!
# Options of the menu

Where titles, media and the menu's own files are found, how searches rank and how many results they
show, and what one session leaves to the next.
-/

namespace SystemMenu

open Score (Metric)

/-- Where files are found. -/
structure PathOptions where
  /-- Search path of the title file. -/
  historyPath : String := "history;dats;."
  /-- Name of the title file; without one, the catalog's titles are shown. -/
  systemNames : String := ""
  /-- Search path of the media directories. -/
  mediaPath : String := "roms"
  /-- Directory of the menu's own files. -/
  uiPath : String := "ui"
  deriving Repr, DecidableEq

/-- How searches rank and what they show. -/
structure SearchOptions where
  metric : Metric := .standard
  /-- The most ranked systems shown at once. -/
  maxVisibleResults : Nat := 200
  deriving Repr, DecidableEq

/-- What one session leaves to the next. -/
structure SessionOptions where
  /-- Select the last used system when the menu opens. -/
  rememberLast : Bool := true
  lastUsedMachine : String := ""
  /-- The last filter, as text. -/
  lastUsedFilter : String := ""
  /-- A system that needs no media counts as available only if its media is there. -/
  hideRomless : Bool := false
  deriving Repr, DecidableEq

/-- All options. -/
structure Options where
  paths : PathOptions := {}
  search : SearchOptions := {}
  session : SessionOptions := {}
  deriving Repr, DecidableEq

namespace Options

/-- Name of the file that lists the available systems. -/
def availableListFile : String := "available.ini"

/-- The media directories, in the order in which they are searched. -/
def mediaDirectories (options : Options) : List String :=
  Path.searchDirectories options.paths.mediaPath

/-- Where the list of available systems is kept. -/
def availableListPath (options : Options) : String :=
  Path.join options.paths.uiPath availableListFile

end Options

end SystemMenu
