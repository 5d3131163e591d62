import LinearProgram.Config
import LinearProgram.Text.Count

/-!
# Arguments of the command line

A command line names one of three commands, or asks for help.  Options that concern
all commands may stand before or after its name, the options of the command only
after it.

Arguments are split into words first: options with their values, operands, and
the name of the command.  An option is written with two dashes and its name, or
with one dash and its letter; letters may be joined, and a value may be attached
or be the next argument.  The words are then taken in their order, and the first
one that is wrong makes the whole line wrong.  An option that asks for help or for
the version ends the line: what comes after it is not even split.
-/

namespace LinearProgram.CommandLine

/-- An option of the command line. -/
inductive Flag : Type where
  | config
  | verbose
  | quiet
  | version
  | help
  | maxIterations
  | twoPhase
  | steps
  | format
deriving DecidableEq

namespace Flag

/-- The long name of an option. -/
def name : Flag → String
  | config => "config"
  | verbose => "verbose"
  | quiet => "quiet"
  | version => "version"
  | help => "help"
  | maxIterations => "max-iterations"
  | twoPhase => "two-phase"
  | steps => "steps"
  | format => "format"

/-- The letter of an option, if it has one. -/
def letter? : Flag → Option Char
  | config | twoPhase => none
  | verbose => some 'v'
  | quiet => some 'q'
  | version => some 'V'
  | help => some 'h'
  | maxIterations => some 'n'
  | steps => some 's'
  | format => some 'f'

/-- Whether an option has a value. -/
def hasValue : Flag → Bool
  | config | maxIterations | format => true
  | _ => false

/-- Whether an option asks for something about the program, so that nothing is read after it. -/
def isQuestion : Flag → Bool
  | version | help => true
  | _ => false

/-- The options that concern all commands. -/
def common : List Flag := [config, verbose, quiet, help]

/-- The options that may stand before the name of the command. -/
def leading : List Flag := version :: common

end Flag

/-! ## Words -/

/-- A word of the command line. -/
inductive Word : Type where
  /-- An option with its value, which is empty if the option has none. -/
  | flag (f : Flag) (value : String)
  | operand (text : String)
  /-- The name of the command and all arguments after it. -/
  | command (name : String) (rest : List String)
deriving DecidableEq

/-- Whether an argument is an option, or the mark that ends them.  A single dash is neither. -/
def isDashed (argument : String) : Bool :=
  match argument.toList with
  | '-' :: _ :: _ => true
  | _ => false

/-- The option with a name among those that are accepted, and the attached value if any. -/
def longFlag? (accepted : List Flag) (cs : List Char) : Option (Flag × Option String) := do
  let name := String.ofList (cs.takeWhile (· != '='))
  let f ← accepted.find? (·.name == name)
  match cs.dropWhile (· != '=') with
  | [] => return (f, none)
  | _ :: value => return (f, some (String.ofList value))

/-- The options of joined letters.  The last one may wait for its value.  Nothing is read after a
letter that asks something. -/
def letterFlags? (accepted : List Flag) : List Char → Option (List Word × Option Flag)
  | [] => some ([], none)
  | c :: cs => do
    let f ← accepted.find? (·.letter? == some c)
    if f.hasValue then
      match cs with
      | [] => return ([], some f)
      | '=' :: value => return ([.flag f (String.ofList value)], none)
      | value => return ([.flag f (String.ofList value)], none)
    else if f.isQuestion then return ([.flag f ""], none)
    else
      let (words, waiting) ← letterFlags? accepted cs
      return (.flag f "" :: words, waiting)

/-- The words of one argument that is an option.  An option that has a value, but none attached,
waits for it. -/
def flagWords? (accepted : List Flag) (argument : String) : Option (List Word × Option Flag) :=
  match argument.toList with
  | '-' :: '-' :: cs =>
    match longFlag? accepted cs with
    | some (f, some value) => if f.hasValue then some ([.flag f value], none) else none
    | some (f, none) => if f.hasValue then some ([], some f) else some ([.flag f ""], none)
    | none => none
  | '-' :: cs => letterFlags? accepted cs
  | _ => none

/-- Whether words ask something, after which nothing is read any more. -/
def asks (words : List Word) : Bool :=
  words.any fun w => match w with
    | .flag f _ => f.isQuestion
    | _ => false

/-- Splits arguments into words.  Before the command an argument without a dash is its name;
after it, such an argument is an operand. -/
def words? (accepted : List Flag) (inCommand : Bool) : List String → Option (List Word)
  | [] => some []
  | argument :: rest =>
    if argument == "--" then some (rest.map .operand)
    else if isDashed argument then
      match flagWords? accepted argument with
      | none => none
      | some (words, none) =>
        if asks words then some words
        else (words? accepted inCommand rest).map (words ++ ·)
      | some (words, some f) =>
        if asks words then some words
        else match rest with
          | [] => none
          | value :: rest =>
            if isDashed value then none
            else (words? accepted inCommand rest).map (words ++ .flag f value :: ·)
    else if inCommand then (words? accepted inCommand rest).map (.operand argument :: ·)
    else some [.command argument rest]

/-! ## Choices -/

/-- What the words of a part of the command line choose. -/
structure Choices : Type where
  config : Option String
  /-- How often more log entries were asked for, if at all. -/
  verbose : Option Nat
  quiet : Bool
  maxIterations : Option Nat
  twoPhase : Bool
  steps : Bool
  format : Option OutputFormat
  operands : List String

/-- No choice at all. -/
def Choices.none : Choices := ⟨.none, .none, false, .none, false, false, .none, []⟩

/-- Makes a choice.  An option other than the one for log entries must not repeat, and values
must have a meaning.  To ask something is no choice. -/
def Choices.choose? (c : Choices) : Flag → String → Option Choices
  | .config, path => if c.config.isSome || path.isEmpty then .none else some { c with config := path }
  | .verbose, _ => some { c with verbose := some (c.verbose.getD 0 + 1) }
  | .quiet, _ => if c.quiet then .none else some { c with quiet := true }
  | .version, _ | .help, _ => some c
  | .maxIterations, text =>
    if c.maxIterations.isSome then .none
    else (Text.count? text).map fun n => { c with maxIterations := some n }
  | .twoPhase, _ => if c.twoPhase then .none else some { c with twoPhase := true }
  | .steps, _ => if c.steps then .none else some { c with steps := true }
  | .format, text =>
    if c.format.isSome then .none
    else (OutputFormat.ofWord? text).map fun f => { c with format := some f }

/-- The choices of words after a command that takes so many operands, and whether they ask for help
before anything is wrong. -/
def Choices.ofWords? (operandLimit : Nat) (c : Choices) : List Word → Option (Choices × Bool)
  | [] => some (c, false)
  | .flag .help _ :: _ => some (c, true)
  | .flag f value :: rest => (c.choose? f value).bind fun c => c.ofWords? operandLimit rest
  | .operand text :: rest =>
    if text.isEmpty || operandLimit ≤ c.operands.length then .none
    else { c with operands := c.operands ++ [text] }.ofWords? operandLimit rest
  | .command .. :: _ => .none

/-! ## Requests -/

/-- The name of a command.  The last one only tells about the others. -/
inductive CommandName : Type where
  | solve
  | check
  | demo
  | help
deriving DecidableEq

namespace CommandName

/-- How a command is written. -/
def word : CommandName → String
  | solve => "solve"
  | check => "check"
  | demo => "demo"
  | help => "help"

/-- All commands. -/
def all : List CommandName := [solve, check, demo, help]

/-- The command that is written so. -/
def ofWord? (word : String) : Option CommandName := all.find? (·.word == word)

/-- The options of a command. -/
def flags : CommandName → List Flag
  | solve => [.maxIterations, .twoPhase, .steps, .format]
  | check => [.twoPhase]
  | demo => [.steps, .format]
  | help => []

/-- How many operands a command takes; the only one there is names a file. -/
def operandLimit : CommandName → Nat
  | solve | check => 1
  | demo | help => 0

end CommandName

/-- What is to be done. -/
inductive Command : Type where
  | solve (file : String) (maxIterations : Option Nat) (twoPhase steps : Bool)
      (format : Option OutputFormat)
  | check (file : String) (twoPhase : Bool)
  | demo (steps : Bool) (format : Option OutputFormat)
deriving DecidableEq

/-- A command with the choices that concern all commands. -/
structure Invocation : Type where
  config : Option String
  verbose : Nat
  quiet : Bool
  command : Command
deriving DecidableEq

/-- What a command line asks for. -/
inductive Request : Type where
  | version
  /-- Help about the program, or about a command. -/
  | help (about : Option CommandName)
  | invoke (invocation : Invocation)
deriving DecidableEq

/-- The command with a name and choices. -/
def Choices.command? (c : Choices) (name : CommandName) : Option Command :=
  match name, c.operands with
  | .solve, [file] => some (.solve file c.maxIterations c.twoPhase c.steps c.format)
  | .check, [file] => some (.check file c.twoPhase)
  | .demo, [] => some (.demo c.steps c.format)
  | _, _ => .none

/-- The request of a command with choices made before its name.  A choice made after the name
counts more. -/
def Choices.commandRequest? (c : Choices) (name : CommandName) (arguments : List String) :
    Option Request := do
  let words ← words? (name.flags ++ Flag.common) true arguments
  let (d, helps) ← Choices.none.ofWords? name.operandLimit words
  if helps then return .help (some name)
  let command ← d.command? name
  return .invoke { config := d.config <|> c.config
                   verbose := (d.verbose <|> c.verbose).getD 0
                   quiet := c.quiet || d.quiet
                   command }

/-- The request of the command that tells about the others: its arguments are at most the name of one
of them. -/
def helpRequest? : List String → Option Request
  | [] => some (.help none)
  | [word] => (CommandName.ofWord? word).map fun name => .help (some name)
  | _ => none

/-- The request of words before the name of a command, given the choices so far. -/
def Choices.request? (c : Choices) : List Word → Option Request
  | [] => .none
  | .flag .version _ :: _ => some .version
  | .flag .help _ :: _ => some (.help .none)
  | .flag f value :: rest => (c.choose? f value).bind fun c => c.request? rest
  | .operand _ :: _ => .none
  | .command word arguments :: _ =>
    match CommandName.ofWord? word with
    | .none => .none
    | some .help => helpRequest? arguments
    | some name => c.commandRequest? name arguments

/-- What a command line asks for, unless it is wrong. -/
def parse? (arguments : List String) : Option Request := do
  Choices.none.request? (← words? Flag.leading false arguments)

end LinearProgram.CommandLine
