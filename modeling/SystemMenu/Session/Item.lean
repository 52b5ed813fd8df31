import SystemMenu.Listing.Entry
import SystemMenu.Session.Favorites

/-!
# Items of a menu

A menu lists systems by their positions in the shared list, favorites that are not in that list or
start a system with software, and at the end of a top-level menu the configuration.

## Main declarations

* `MenuItem`: what a menu lists.
* `MenuItem.shortname?`: the system that an item is for.
* `MenuItem.listed?`, `MenuItem.label`: the entry of a system item and the text shown.
-/

namespace SystemMenu

/-- What can be configured from a menu. -/
inductive Configuration where
  | options
  | machine
  deriving Repr, DecidableEq

namespace Configuration

/-- The configuration items in the order of the menu. -/
def all : List Configuration := [options, machine]

/-- The text of a configuration item. -/
def label : Configuration → String
  | options => "Configure Options"
  | machine => "Configure Machine"

end Configuration

/-- One item of a menu. -/
inductive MenuItem where
  | system (position : Nat)
  | configuration (target : Configuration)
  | software (favorite : Favorite)
  deriving Repr, DecidableEq

namespace MenuItem

/-- The entry of the list that an item stands for. -/
def listed? (entries : List Entry) : MenuItem → Option Entry
  | system position => entries[position]?
  | configuration _ | software _ => none

/-- Short name of the system that an item is for. -/
def shortname? (entries : List Entry) : MenuItem → Option String
  | system position => (entries[position]?).map Entry.shortname
  | configuration _ => none
  | software favorite => some favorite.shortname

/-- The text shown for an item. -/
def label (entries : List Entry) : MenuItem → String
  | system position => ((entries[position]?).map Entry.description).getD ""
  | configuration target => target.label
  | software favorite => favorite.description

end MenuItem

end SystemMenu
