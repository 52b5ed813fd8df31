import SystemMenu.Text.Blank

/-!
# Records of emulated systems

What the catalog knows about one system: how it is called, who made it and when, which set it is
derived from, what it can do, and which files it needs.
-/

namespace SystemMenu

/-- One media file that a system may need. -/
structure Rom where
  name : String
  length : Nat
  /-- Checksums of the file, as text. -/
  hashes : String := ""
  /-- The system runs without the file. -/
  isOptional : Bool := false
  /-- No copy of the file is known. -/
  noDump : Bool := false
  deriving Repr, DecidableEq

namespace Rom

/-- The file has to be present for the system to run. -/
def isRequired (rom : Rom) : Bool := !rom.isOptional && !rom.noDump

/-- Checksums in the form in which they are compared: without blanks at the ends, and with ASCII
letters in lowercase. -/
def comparedHashes (rom : Rom) : List Char := (Text.trim rom.hashes.toList).map Char.toLower

/-- Both describe the same content. -/
def sameDump (a b : Rom) : Bool := a.length = b.length && a.comparedHashes = b.comparedHashes

end Rom

/-- What is known about a system besides its names. -/
structure Traits where
  /-- A set that other systems build on and that is no game by itself. -/
  biosRoot : Bool := false
  notWorking : Bool := false
  mechanical : Bool := false
  supportsSave : Bool := false
  /-- The screen stands upright. -/
  vertical : Bool := false
  deriving Repr, DecidableEq

/-- One emulated system. -/
structure SystemRecord where
  /-- Unique short name. -/
  name : String
  description : String
  manufacturer : String := ""
  year : String := ""
  /-- Short name of the set that the system is derived from. -/
  parent : Option String := none
  traits : Traits := {}
  roms : List Rom := []
  deriving Repr, DecidableEq

namespace SystemRecord

/-- The files that have to be present for the system to run. -/
def requiredRoms (record : SystemRecord) : List Rom := record.roms.filter Rom.isRequired

end SystemRecord

end SystemMenu
