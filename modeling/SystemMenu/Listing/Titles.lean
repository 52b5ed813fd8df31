import SystemMenu.Catalog.Lookup
import SystemMenu.Event
import SystemMenu.Listing.Entry
import SystemMenu.Text.Utf8

/-!
# Title files

A title file replaces the catalog's titles, usually by titles in another language. A line gives a
short name, a title and perhaps a reading, separated by tabs; what follows a further tab is ignored.
The first title and the first reading of a system count, each on its own.

## Main declarations

* `TitleFile.lines`: the lines of a file.
* `TitlePass.addLine`: what one line does to the entries.
* `applyTitles`: what a whole file does.
* `inheritTitles`: gives every clone the title and the reading of its parent.
-/

namespace SystemMenu

open Text.Utf8 (Bytes)

namespace TitleFile

/-- The mark that may stand in front of a file. -/
def byteOrderMark : Char := '\uFEFF'

/-- The bytes of each line; a line end after the last line starts no further one. -/
def rawLines (bytes : Bytes) : List Bytes :=
  let cut := Text.pieces (· = 10) bytes
  if cut.getLast? = some [] then cut.dropLast else cut

/-- A line as text, without carriage returns at its end. -/
def decodeLine (bytes : Bytes) : List Char :=
  Text.dropEndWhile (fun c => c = '\n' ∨ c = '\r') (Text.Utf8.decodeLossy bytes)

/-- The lines of a file, the first without the marks in front of it. -/
def lines (bytes : Bytes) : List (List Char) :=
  match (rawLines bytes).map decodeLine with
  | [] => []
  | first :: rest => first.dropWhile (· = byteOrderMark) :: rest

/-- The fields of a line after its short name: the title, and the reading if there is one. -/
def splitFields (rest : List Char) : List Char × Option (List Char) :=
  match Text.cutAtFirst? (· = '\t') rest with
  | some (title, tail) => (title, some (tail.takeWhile (· ≠ '\t')))
  | none => (rest, none)

end TitleFile

/-- The position of the entry with a short name, in a list that is ordered by them. -/
def entryPosition? (entries : List Entry) (shortname : String) : Option Nat :=
  Lookup.locate? (fun entry => compare entry.shortname shortname) entries

/-- Entries while a title file is applied, with what has been counted and noted. -/
structure TitlePass where
  entries : List Entry
  report : TitleReport := {}
  events : List Event := []

namespace TitlePass

/-- Takes a title over, unless it is blank or the entry has one. -/
def addTitle (pass : TitlePass) (position : Nat) (title : String) : TitlePass :=
  match pass.entries[position]? with
  | none => pass
  | some entry =>
    if title = "" then
      { pass with
        report.empty := pass.report.empty + 1
        events := pass.events ++ [.emptyDescription entry.shortname] }
    else if entry.description ≠ "" then
      { pass with
        report.duplicates := pass.report.duplicates + 1
        events := pass.events ++
          [.duplicateDescription entry.shortname entry.description title] }
    else
      { pass with
        entries := pass.entries.set position { entry with description := title }
        report.descriptions := pass.report.descriptions + 1 }

/-- Takes a reading over, with its search keys, unless it is blank or the entry has one. -/
def addReading (pass : TitlePass) (position : Nat) (reading : String) : TitlePass :=
  match pass.entries[position]? with
  | none => pass
  | some entry =>
    if reading = "" then
      { pass with
        report.empty := pass.report.empty + 1
        events := pass.events ++ [.emptyReading entry.shortname] }
    else if entry.reading ≠ "" then
      { pass with
        report.duplicates := pass.report.duplicates + 1
        events := pass.events ++ [.duplicateReading entry.shortname entry.reading reading] }
    else
      { pass with
        entries := pass.entries.set position
          { entry with
            reading := reading
            readingKey := Text.searchKey reading
            manufacturerReadingKey :=
              Text.searchKeyJoined entry.record.manufacturer reading }
        report.readings := pass.report.readings + 1 }

/-- Applies one line. -/
def addLine (pass : TitlePass) (line : List Char) : TitlePass :=
  match Text.cutAtFirst? (· = '\t') line with
  | none => { pass with report.malformed := pass.report.malformed + 1 }
  | some (shortname, rest) =>
    match entryPosition? pass.entries (.ofList shortname) with
    | none => { pass with report.unknown := pass.report.unknown + 1 }
    | some position =>
      let (title, reading) := TitleFile.splitFields rest
      let pass := pass.addTitle position (.ofList (Text.trim title))
      match reading with
      | some reading => pass.addReading position (.ofList (Text.trim reading))
      | none => pass

/-- Gives every entry that is still without a title that of the catalog. -/
def fillTitles (entries : List Entry) : List Entry :=
  entries.map fun entry =>
    if entry.description = "" then { entry with description := entry.record.description }
    else entry

end TitlePass

/-- Applies a title file to entries in the order of their short names. -/
def applyTitles (bytes : Bytes) (entries : List Entry) : TitlePass :=
  let pass := (TitleFile.lines bytes).foldl TitlePass.addLine { entries := entries }
  { pass with entries := TitlePass.fillTitles pass.entries }

/-- Gives an entry the title and the reading of its parent; a parent that is not listed is shown by
its short name. -/
def inheritTitle (entries : List Entry) (entry : Entry) : Entry :=
  match entry.record.parent with
  | none => entry
  | some name =>
    match (entryPosition? entries name).bind (entries[·]?) with
    | some parent =>
      { entry with parent := parent.description, parentReading := parent.reading }
    | none => { entry with parent := name, parentReading := "" }

/-- Gives every entry the title and the reading of its parent. -/
def inheritTitles (entries : List Entry) : List Entry := entries.map (inheritTitle entries)

end SystemMenu
