import SystemMenu.Command.Run

/-!
# The program

The program reads its arguments, gathers the files that its command may look at into a file tree, runs
the command on the tree, prints the output and writes the files that have changed.
-/

namespace SystemMenu.Program

/-- How the program is used. -/
def usage : List String :=
  ["Browse, filter and search a system catalog",
    "",
    "Usage: marquee --catalog <PATH> [--config <PATH>] [--verbose] <COMMAND>",
    "",
    "Commands:",
    "  list [--filter <FILTER>]         List systems in display order",
    "  search <QUERY> [--limit <LIMIT>] Rank systems against a query",
    "  select <QUERY>                   Select the best match for a query and remember it",
    "  stages                           Show stage publication while the cache builds",
    "  filters                          Print the manufacturer and year indexes",
    "  avail [--rescan]                 Determine which systems have their media"]

/-- The absolute path of a place. -/
def absolutePath (place : Place) : String := "/" ++ "/".intercalate place

/-- The places along a path, from the first component to the last. -/
def placesAlong (start : Place) : List String → List Place
  | [] => []
  | name :: rest =>
    let next := FileTree.neighbour start name
    next :: placesAlong next rest

/-- Adds what stands at a place to a tree. -/
def gatherPlace (tree : FileTree) (place : Place) : IO FileTree := do
  if (tree.node? place).isSome then return tree
  let path := (← IO.currentDir) / absolutePath place
  if ← path.isDir then
    return (tree.createDirectories (absolutePath place)).toOption.getD tree
  try
    let bytes ← IO.FS.readBinFile path
    return (tree.write (absolutePath place) bytes.toList).toOption.getD tree
  catch _ => return tree

/-- Adds what stands along a path to a tree. -/
def gather (tree : FileTree) (path : String) : IO FileTree :=
  (placesAlong (tree.origin path) (Path.components path)).foldlM gatherPlace tree

/-- Adds an entry of a directory to a tree; of a file, the name is enough. -/
def gatherName (tree : FileTree) (place : Place) : IO FileTree := do
  if (tree.node? place).isSome then return tree
  if ← ((← IO.currentDir) / absolutePath place).isDir then
    return (tree.createDirectories (absolutePath place)).toOption.getD tree
  return (tree.write (absolutePath place) []).toOption.getD tree

/-- Adds a directory and the names of its entries to a tree. -/
def gatherNames (tree : FileTree) (path : String) : IO FileTree := do
  let tree ← gather tree path
  match tree.locate path with
  | .error _ => return tree
  | .ok place =>
    try
      let found ← ((← IO.currentDir) / absolutePath place).readDir
      found.toList.foldlM (fun tree entry => gatherName tree (place ++ [entry.fileName])) tree
    catch _ => return tree

/-- The files that a command may look at once the options are known. -/
def filesOf (options : Options) : List String :=
  options.availableListPath ::
    (Path.searchDirectories options.paths.historyPath).map fun directory =>
      Path.join directory options.paths.systemNames

/-- Gathers all that a command may look at. -/
def gatherAll (arguments : Command.Arguments) (standardConfig : String) : IO FileTree := do
  let home := Path.components (← IO.currentDir).toString
  let configPath := arguments.config.getD standardConfig
  let tree ← [configPath, arguments.catalog].foldlM gather (.empty home)
  match Options.loadOrDefault tree configPath with
  | .error _ => return tree
  | .ok options =>
    let tree ← (filesOf options).foldlM gather tree
    options.mediaDirectories.foldlM gatherNames tree

/-- Writes a file, making the directories that lead to it. -/
def store (file : Place × List UInt8) : IO Unit := do
  IO.FS.createDirAll (absolutePath file.1.dropLast)
  IO.FS.writeBinFile (absolutePath file.1) ⟨file.2.toArray⟩

/-- A time in milliseconds, right-aligned. -/
def elapsedText (nanoseconds : Nat) : String :=
  let text := Score.fixedDecimal 3 ((nanoseconds : Rat) / 1000000)
  "".pushn ' ' (10 - text.length) ++ text ++ " ms"

/-- Prints a line of output. -/
def printLine (start : Nat) : Command.Line → IO Unit
  | .text text => IO.println text
  | .published stage => do
    IO.println (elapsedText ((← IO.monoNanosNow) - start) ++ "  " ++ stage.name)

/-- Says why a command failed. -/
def printFailure (failure : Command.Failure) : IO Unit := do
  IO.eprintln ("Error: " ++ failure.message)
  match failure.cause? with
  | some cause => IO.eprintln ("\nCaused by:\n    " ++ cause)
  | none => return ()

/-- The file in which options are kept for a user. -/
def standardConfig : IO String := do
  let userDirectory := Path.join ((← IO.getEnv "HOME").getD "") ".config"
  let directory := ((← IO.getEnv "XDG_CONFIG_HOME").filter Path.isAbsolute).getD userDirectory
  return Path.join directory "marquee/ui.toml"

/-- Runs the program and gives its status. -/
def run (arguments : List String) : IO UInt32 := do
  match Command.Arguments.parse arguments with
  | .error refusal =>
    usage.forM fun line => if refusal = .help then IO.println line else IO.eprintln line
    return refusal.exitCode.toUInt32
  | .ok arguments =>
    let start ← IO.monoNanosNow
    let config ← standardConfig
    let tree ← gatherAll arguments config
    let outcome := Command.run tree config arguments
    outcome.output.forM (printLine start)
    (tree.changedFiles outcome.tree).forM store
    outcome.failure.forM printFailure
    return outcome.exitCode.toUInt32

end SystemMenu.Program

/-- The program. -/
def main (arguments : List String) : IO UInt32 := SystemMenu.Program.run arguments
