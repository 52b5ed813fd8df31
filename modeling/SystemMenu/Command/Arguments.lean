/-!
# Arguments of the command line

The program takes options, then the name of a command, then the options and operands of the command.
Arguments are read one after the other. An option is given at most once; its value is the rest of the
argument or the next argument, which then does not look like an option. After `--`, everything is an
operand.

## Main declarations

* `Arguments`, `Action`: what the program is asked to do.
* `OptionForm`, `Grammar`: the options and operands of the program and of each command.
* `Reading`, `Reading.step`: what has been read, and reading one more argument.
* `Arguments.parse`: reading all arguments.
-/

namespace SystemMenu.Command

/-- The commands. -/
inductive Action where
  | list (filter : Option String)
  | search (query : String) (limit : Nat)
  | select (query : String)
  | stages
  | filters
  | avail (rescan : Bool)
  deriving Repr, DecidableEq

/-- What the program is asked to do. -/
structure Arguments where
  /-- The file with the catalog. -/
  catalog : String
  /-- The file with the options, if it is not the usual one. -/
  config : Option String
  verbose : Bool
  action : Action
  deriving Repr, DecidableEq

/-- Why arguments do not ask for a command: they ask for help, or they make no sense. -/
inductive Refusal where
  | help
  | misuse
  deriving Repr, DecidableEq

/-- The status with which the program then ends. -/
def Refusal.exitCode : Refusal → Nat
  | help => 0
  | misuse => 2

/-- An option: its names, whether it has a value, and which values it takes. -/
structure OptionForm where
  long : String
  short : Option Char := none
  takesValue : Bool := true
  accepts : String → Bool := fun _ => true

/-- The options of the program or a command, and the number of its operands. -/
structure Grammar where
  options : List OptionForm := []
  operands : Nat := 0

/-- The largest number that can be given. -/
def maxCount : Nat := UInt64.size - 1

/-- A number in decimal digits, with or without a plus sign. -/
def readCount? (text : String) : Option Nat :=
  let digits := match text.toList with
    | '+' :: rest => rest
    | all => all
  if digits ≠ [] ∧ digits.all Char.isDigit then
    let value := digits.foldl (fun value c => 10 * value + (c.toNat - '0'.toNat)) 0
    if value ≤ maxCount then some value else none
  else none

/-- The options of the program. -/
def programGrammar : Grammar where
  options :=
    [{ long := "catalog", accepts := (· ≠ "") },
      { long := "config", short := some 'c', accepts := (· ≠ "") },
      { long := "verbose", short := some 'v', takesValue := false }]

/-- The number of search results shown, if no other is given. -/
def standardLimit : Nat := 10

/-- The commands with their options and operands. -/
def commands : List (String × Grammar) :=
  [("list", { options := [{ long := "filter", short := some 'f' }] }),
    ("search",
      { options := [{ long := "limit", short := some 'l', accepts := (readCount? · |>.isSome) }]
        operands := 1 }),
    ("select", { operands := 1 }),
    ("stages", {}),
    ("filters", {}),
    ("avail", { options := [{ long := "rescan", takesValue := false }] })]

/-- The command that explains the others. -/
def helpName : String := "help"

/-- What has been given to the program or to a command. -/
structure Given where
  /-- Values by the long names of their options. -/
  values : List (String × String) := []
  operands : List String := []
  deriving Repr, DecidableEq

/-- What has been read so far. -/
structure Reading where
  /-- What was given before the name of the command. -/
  program : Given := {}
  /-- The command and what was given after its name. -/
  command : Option (String × Given) := none
  /-- The option whose value comes next. -/
  pending : Option OptionForm := none
  /-- All that follows are operands. -/
  literal : Bool := false

namespace Reading

/-- The grammar of what is being read. -/
def grammar (reading : Reading) : Grammar :=
  match reading.command with
  | none => programGrammar
  | some (name, _) => (commands.lookup name).getD { operands := 1 }

/-- What was given to what is being read. -/
def given (reading : Reading) : Given :=
  match reading.command with
  | none => reading.program
  | some (_, given) => given

/-- Replaces what was given to what is being read. -/
def setGiven (reading : Reading) (given : Given) : Reading :=
  match reading.command with
  | none => { reading with program := given }
  | some (name, _) => { reading with command := some (name, given) }

/-- Takes the value of an option, unless there is one already or it is not a value of the option. -/
def give (reading : Reading) (option : OptionForm) (value : String) : Except Refusal Reading :=
  let given := reading.given
  if (given.values.lookup option.long).isSome ∨ !option.accepts value then .error .misuse
  else
    .ok <| { reading with pending := none }.setGiven
      { given with values := given.values ++ [(option.long, value)] }

/-- Takes an operand, if there can be one more. -/
def addOperand (reading : Reading) (operand : String) : Except Refusal Reading :=
  let given := reading.given
  if given.operands.length < reading.grammar.operands then
    .ok (reading.setGiven { given with operands := given.operands ++ [operand] })
  else .error .misuse

/-- Reads an option by its long name, with the value that follows a sign of equality. -/
def readLong (reading : Reading) (name : String) (value : Option String) :
    Except Refusal Reading :=
  match reading.grammar.options.find? (·.long = name), value with
  | none, none => .error (if name = helpName then .help else .misuse)
  | none, some _ => .error .misuse
  | some option, some value =>
    if option.takesValue then reading.give option value else .error .misuse
  | some option, none =>
    if option.takesValue then .ok { reading with pending := some option }
    else reading.give option ""

/-- Reads options by their short names; the first with a value takes what is left. -/
def readShort (reading : Reading) : List Char → Except Refusal Reading
  | [] => .ok reading
  | c :: rest =>
    match reading.grammar.options.find? (·.short = some c) with
    | none => .error (if c = 'h' then .help else .misuse)
    | some option =>
      if option.takesValue then
        match rest with
        | [] => .ok { reading with pending := some option }
        | '=' :: value => reading.give option (.ofList value)
        | value => reading.give option (.ofList value)
      else do readShort (← reading.give option "") rest

/-- Begins to read a command; what follows the name of the explaining command are names. -/
def enter (reading : Reading) (name : String) : Reading :=
  { reading with command := some (name, {}), literal := name = helpName }

/-- The argument names a command at a place where one can stand. -/
def isCommandName (reading : Reading) (argument : String) : Bool :=
  reading.command.isNone && (argument = helpName || (commands.lookup argument).isSome)

/-- An argument that looks like an option, as a lone hyphen does not. -/
def looksLikeOption (argument : String) : Bool :=
  argument.toList.head? = some '-' && argument ≠ "-"

/-- Splits a long option at the first sign of equality. -/
def splitLong (text : List Char) : String × Option String :=
  let name := text.takeWhile (· ≠ '=')
  (.ofList name,
    match text.drop name.length with
    | [] => none
    | _ :: value => some (.ofList value))

/-- Reads one more argument. -/
def step (reading : Reading) (argument : String) : Except Refusal Reading :=
  if reading.literal then reading.addOperand argument
  else
    match reading.pending with
    | some option =>
      if looksLikeOption argument then .error .misuse else reading.give option argument
    | none =>
      if reading.isCommandName argument then .ok (reading.enter argument)
      else
        match argument.toList with
        | ['-', '-'] => .ok { reading with literal := true }
        | '-' :: '-' :: text =>
          let (name, value) := splitLong text
          reading.readLong name value
        | '-' :: c :: text => reading.readShort (c :: text)
        | _ => reading.addOperand argument

/-- The command that has been read with all its operands. -/
def action (reading : Reading) : Except Refusal Action :=
  match reading.command with
  | none => .error .misuse
  | some (name, given) =>
    match name, given.operands with
    | "list", [] => .ok (.list (given.values.lookup "filter"))
    | "search", [query] =>
      .ok (.search query (((given.values.lookup "limit").bind readCount?).getD standardLimit))
    | "select", [query] => .ok (.select query)
    | "stages", [] => .ok .stages
    | "filters", [] => .ok .filters
    | "avail", [] => .ok (.avail (given.values.lookup "rescan").isSome)
    | "help", [] => .error .help
    | "help", [topic] =>
      .error (if topic = helpName ∨ (commands.lookup topic).isSome then .help else .misuse)
    | _, _ => .error .misuse

/-- What has been asked for, once all arguments have been read. -/
def finish (reading : Reading) : Except Refusal Arguments := do
  if reading.pending.isSome then throw .misuse
  let action ← reading.action
  match reading.program.values.lookup "catalog" with
  | none => throw .misuse
  | some catalog =>
    return {
      catalog := catalog
      config := reading.program.values.lookup "config"
      verbose := (reading.program.values.lookup "verbose").isSome
      action := action }

end Reading

/-- Reads the arguments of the program. -/
def Arguments.parse (arguments : List String) : Except Refusal Arguments := do
  (← arguments.foldlM Reading.step {}).finish

end SystemMenu.Command
