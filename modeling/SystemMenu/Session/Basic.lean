import SystemMenu.Listing.Filter
import SystemMenu.Options.Basic
import SystemMenu.Ranking.Ranker
import SystemMenu.Session.Item

/-!
# Selection sessions

A session is one open menu over the shared list. It remembers the filter and the search text, the list
that it showed last, the items it made of that list, and the selected item. A session starts from
what the one before it left: its filter and, if wanted, its system, which is selected when the menu is
first filled.

## Main declarations

* `Session.new`, `Session.openOn`: opening a session.
* `Session.fill`: what a menu lists.
* `Session.populate?`: filling the menu from the shared list.
* `Session.select`, `Session.push`, `Session.pop`, `Session.setSearch`, `Session.setFilter`: input.
* `Session.finish`, `SessionSummary`: what a session leaves to the next.
-/

namespace SystemMenu

/-- What a session leaves to the next. -/
structure SessionSummary where
  /-- Short name of the selected system; empty if none was selected. -/
  lastUsedMachine : String := ""
  /-- The filter, as text. -/
  lastUsedFilter : String := ""
  deriving Repr, DecidableEq

/-- Takes a summary over to the options. -/
def SessionSummary.applyTo (summary : SessionSummary) (options : SessionOptions) : SessionOptions :=
  { options with
      lastUsedMachine := summary.lastUsedMachine
      lastUsedFilter := summary.lastUsedFilter }

/-- One open menu. -/
structure Session where
  ranker : Ranker
  /-- The menu ends with the configuration items. -/
  topLevel : Bool
  /-- The most ranked systems shown at once. -/
  maxVisibleResults : Nat
  filter : Filter := .all
  search : String := ""
  /-- Short name of the system to select when the menu is filled next. -/
  reselect : Option String := none
  /-- Generation of the list that the items refer to. -/
  list : Option Nat := none
  items : List MenuItem := []
  /-- Position of the selected item. -/
  selected : Option Nat := none

namespace Session

/-- The filter that was in use last; all systems if there is none or it is not known. -/
def restoreFilter (text : String) : Filter × List Event :=
  if Text.trimmed text = "" then (.all, [])
  else
    match Filter.parse? text with
    | some filter => (filter, [])
    | none => (.all, [.filterUnknown text])

/-- The system that was in use last, if it is to be selected again. -/
def restoreSelection (options : SessionOptions) : Option String :=
  if options.rememberLast ∧ options.lastUsedMachine ≠ "" then some options.lastUsedMachine
  else none

/-- A session that starts from what the last one left. -/
def new (options : Options) (topLevel : Bool) : Session × List Event :=
  let (filter, events) := restoreFilter options.session.lastUsedFilter
  ({ ranker := { metric := options.search.metric }
     topLevel := topLevel
     maxVisibleResults := options.search.maxVisibleResults
     filter := filter
     reselect := restoreSelection options.session }, events)

/-- Opens a session and starts the build of the list, unless it was started before. The events of the
cache and those of the session are kept apart. -/
def openOn (options : Options) (topLevel : Bool) (tree : FileTree) (hold : Option Cache.Hold)
    (cache : Cache) : Session × Cache × List Event × List Event :=
  let (cache, events) :=
    cache.beginAndProceed tree options.paths.historyPath options.paths.systemNames hold
  let (session, sessionEvents) := new options topLevel
  (session, cache, events, sessionEvents)

/-- The filter lists favorites, not systems. -/
def showsFavorites (session : Session) : Bool := session.filter = .favorites

/-- The entries of the list that the items refer to. -/
def entries (session : Session) (cache : Cache) : List Entry :=
  (session.list.map cache.entries).getD []

/-- The selected item. -/
def selectedItem? (session : Session) : Option MenuItem :=
  session.selected.bind fun position => session.items[position]?

/-- Short name of the system that the selected item is for. -/
def selectedName? (session : Session) (cache : Cache) : Option String :=
  session.selectedItem?.bind (MenuItem.shortname? (session.entries cache))

/-- Position of the entry with a short name. -/
def position? (entries : List Entry) (shortname : String) : Option Nat :=
  entries.findIdx? fun entry => entry.shortname = shortname

/-- The item for a favorite: the listed system if it starts alone, otherwise the favorite itself. -/
def favoriteItem (entries : List Entry) (favorite : Favorite) : MenuItem :=
  let position := if favorite.startsEmpty then position? entries favorite.shortname else none
  match position with
  | some position => .system position
  | none => .software favorite

/-- The positions of a list whose entries a filter accepts. -/
def acceptedPositions (filter : Filter) (favorites : Favorites) (entries : List Entry)
    (positions : List Nat) : List Nat :=
  positions.filter fun position =>
    (entries[position]?).any fun entry => filter.accepts favorites.isFavorite entry

/-- The items for the first accepted systems of a ranking. -/
def rankedItems (session : Session) (favorites : Favorites) (entries : List Entry)
    (candidates : List Ranking.Candidate) : List MenuItem :=
  ((acceptedPositions session.filter favorites entries (candidates.map (·.position))).take
    session.maxVisibleResults).map .system

/-- The items for all accepted systems of a list. -/
def listedItems (session : Session) (favorites : Favorites) (entries : List Entry) :
    List MenuItem :=
  (acceptedPositions session.filter favorites entries (List.range entries.length)).map .system

/-- What the menu lists before the configuration, given the current list: favorites, the best
matches, or all systems. The ranker keeps the list that it ranked. -/
def fill (session : Session) (cache : Cache) (favorites : Favorites) (number : Nat) :
    List MenuItem × Ranker :=
  if session.showsFavorites then
    (favorites.sorted.map (favoriteItem (cache.entries number)), session.ranker)
  else if session.search ≠ "" then
    match session.ranker.rank? cache session.search with
    | some (ranker, ranking) =>
      (session.rankedItems favorites (cache.entries ranking.generation) ranking.candidates, ranker)
    | none => ([], session.ranker)
  else (session.listedItems favorites (cache.entries number), session.ranker)

/-- The configuration items, if the menu has them. -/
def configurationItems (session : Session) : List MenuItem :=
  if session.topLevel then Configuration.all.map .configuration else []

/-- Fills the menu from a generation's list. The system to select again, or else the one that was
selected, is selected if it is still listed. -/
def populateFrom (session : Session) (cache : Cache) (favorites : Favorites) (number : Nat) :
    Session :=
  let target := session.reselect.or (session.selectedName? cache)
  let session :=
    if session.list = some number then session
    else { session with ranker := session.ranker.invalidate }
  let (systems, ranker) := session.fill cache favorites number
  let items := systems ++ session.configurationItems
  { session with
      ranker := ranker
      search := if session.showsFavorites then "" else session.search
      reselect := none
      list := some number
      items := items
      selected := target.bind fun name => items.findIdx? fun item =>
        item.shortname? (cache.entries number) = some name }

/-- Fills the menu from the current list; nothing while there is no list to wait for. -/
def populate? (session : Session) (cache : Cache) (favorites : Favorites) : Option Session :=
  cache.sortedList?.map (session.populateFrom cache favorites)

/-- Selects an item by its position; past the end, nothing is selected. -/
def select (session : Session) (position : Nat) : Session :=
  { session with selected := if position < session.items.length then some position else none }

/-- Sets the filter; the items stay until the menu is filled again. -/
def setFilter (session : Session) (filter : Filter) : Session := { session with filter := filter }

/-- A character can be part of the search text. -/
def isSearchable (c : Char) : Bool := 0x20 ≤ c.toNat && !(0x7f ≤ c.toNat && c.toNat ≤ 0x9f)

/-- A character is appended to the search text: not while favorites are shown, and no control
character. -/
def acceptsInput (session : Session) (c : Char) : Bool := !session.showsFavorites && isSearchable c

/-- Appends a character to the search text, if it is accepted. -/
def push (session : Session) (c : Char) : Session :=
  if session.acceptsInput c then { session with search := session.search.push c } else session

/-- Removes the last character of the search text; nothing if there is none. -/
def pop? (session : Session) : Option Session :=
  if session.search = "" then none
  else some { session with search := .ofList session.search.toList.dropLast }

/-- Sets the search text, unless favorites are shown. -/
def setSearch (session : Session) (text : String) : Session :=
  if session.showsFavorites then session else { session with search := text }

/-- Clears the search text. -/
def clearSearch (session : Session) : Session := { session with search := "" }

/-- What the session leaves to the next. -/
def finish (session : Session) (cache : Cache) : SessionSummary where
  lastUsedMachine := (session.selectedName? cache).getD ""
  lastUsedFilter := session.filter.text

/-- A selected item exists. -/
theorem select_lt {session : Session} {position chosen : Nat}
    (h : (session.select position).selected = some chosen) :
    chosen < (session.select position).items.length := by
  simp only [select] at h ⊢
  split at h
  · cases h
    assumption
  · cases h

end Session

end SystemMenu
