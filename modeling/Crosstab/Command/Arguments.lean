import Crosstab.Engine.Basic
import Crosstab.Text.Digit

/-!
The arguments of the program. They are read one by one, and the first that makes no sense ends the
reading. The option for the settings file may stand before the command as well as after it, and
counts there if it stands in both places.
-/

namespace Crosstab

open Crosstab.Sql Crosstab.Text

/-- What the program is asked to do. -/
inductive Command where
  | compile (file : String) (dialect : Dialect)
  | run (file : String)
  | values (entity field : String) (start : Option String) (limit : UInt64)
  | catalog
deriving DecidableEq

structure Invocation where
  config : Option String
  command : Command
deriving DecidableEq

/-- Why arguments are no invocation. -/
inductive Digression where
  | misuse
  | help
  | version
deriving DecidableEq

inductive Verb where
  | compile
  | run
  | values
  | catalog
deriving DecidableEq

namespace Verb

def ofName? : String → Option Verb
  | "compile" => some .compile
  | "run" => some .run
  | "values" => some .values
  | "catalog" => some .catalog
  | _ => none

def arity : Verb → Nat
  | .compile | .run => 1
  | .values => 2
  | .catalog => 0

def takesFile : Verb → Bool
  | .compile | .run => true
  | .values | .catalog => false

end Verb

inductive OptionName where
  | config
  | dialect
  | start
  | limit
deriving DecidableEq

/-- What an argument with a hyphen asks for. -/
inductive Flag where
  | valued (name : OptionName)
  | help
  | version
deriving DecidableEq

namespace Flag

/-- The flag of a long name, which depends on the command. -/
def ofLong? (verb : Option Verb) (name : String) : Option Flag :=
  match verb, name with
  | _, "config" => some (.valued .config)
  | _, "help" => some .help
  | none, "version" => some .version
  | some .compile, "dialect" => some (.valued .dialect)
  | some .values, "prefix" => some (.valued .start)
  | some .values, "limit" => some (.valued .limit)
  | _, _ => none

/-- The flag of a letter, which depends on the command. -/
def ofShort? (verb : Option Verb) (letter : Char) : Option Flag :=
  match verb, letter with
  | _, 'c' => some (.valued .config)
  | _, 'h' => some .help
  | none, 'V' => some .version
  | some .compile, 'd' => some (.valued .dialect)
  | some .values, 'p' => some (.valued .start)
  | some .values, 'l' => some (.valued .limit)
  | _, _ => none

end Flag

/-- What an argument looks like. -/
inductive Shape where
  | operand
  /-- Two hyphens, behind which everything is an operand. -/
  | separator
  /-- A name behind two hyphens, with what follows an equals sign. -/
  | long (name : String) (value : Option String)
  /-- A letter behind one hyphen, with what follows it. -/
  | short (letter : Char) (value : Option String)
deriving DecidableEq

/-- What an argument looks like. A lone hyphen is an operand. -/
def Shape.ofArgument (s : String) : Shape :=
  match s.toList with
  | ['-', '-'] => .separator
  | '-' :: '-' :: rest =>
    let name := String.ofList (rest.takeWhile (· != '='))
    match rest.dropWhile (· != '=') with
    | [] => .long name none
    | _ :: value => .long name (some (String.ofList value))
  | '-' :: letter :: rest =>
    match rest with
    | [] => .short letter none
    | '=' :: value => .short letter (some (String.ofList value))
    | value => .short letter (some (String.ofList value))
  | _ => .operand

structure Reading where
  verb : Option Verb := none
  /-- The settings file named before the command. -/
  outerConfig : Option String := none
  config : Option String := none
  dialect : Option Dialect := none
  start : Option String := none
  limit : Option UInt64 := none
  operands : List String := []
  /-- The option whose value comes next. -/
  awaiting : Option OptionName := none
  /-- Whether everything to come is an operand. -/
  literal : Bool := false

/-- A natural number of 64 bits in decimal digits, with or without a plus sign. -/
def readWord? (s : String) : Option UInt64 :=
  let digits :=
    match s.toList with
    | '+' :: rest => rest
    | cs => cs
  if !digits.isEmpty && digits.all isAsciiDigit && natOfDigits digits < Nat.pow 2 64 then
    some (UInt64.ofNat (natOfDigits digits))
  else none

namespace Reading

/-- A value put in a place that has to be free. -/
def fill {α : Type} (place value : Option α) : Except Digression (Option α) :=
  match place, value with
  | none, some x => .ok (some x)
  | _, _ => .error .misuse

/-- The value of an option. None may be given twice; a file has to have a name, a dialect has to be
written as it is called, and a limit has to be a number. -/
def store (r : Reading) (name : OptionName) (value : String) : Except Digression Reading := do
  match name, r.verb with
  | .config, none =>
    return { r with outerConfig := ← fill r.outerConfig (some value |>.filter (· ≠ "")) }
  | .config, some _ => return { r with config := ← fill r.config (some value |>.filter (· ≠ "")) }
  | .dialect, _ =>
    return { r with dialect := ← fill r.dialect (Dialect.all.find? fun d => d.name = value) }
  | .start, _ => return { r with start := ← fill r.start (some value) }
  | .limit, _ => return { r with limit := ← fill r.limit (readWord? value) }

/-- An operand: the command, or what it works on. -/
def operand (r : Reading) (s : String) : Except Digression Reading :=
  match r.verb with
  | none =>
    if r.literal then .error .misuse
    else if s = "help" then .error .help
    else
      match Verb.ofName? s with
      | some verb => .ok { r with verb := some verb }
      | none => .error .misuse
  | some verb =>
    if verb.arity ≤ r.operands.length || (verb.takesFile && s.isEmpty) then .error .misuse
    else .ok { r with operands := r.operands ++ [s] }

def flag (r : Reading) (f : Option Flag) (long : Bool) (value : Option String) :
    Except Digression Reading :=
  match f, value with
  | some (.valued name), some value => r.store name value
  | some (.valued name), none => .ok { r with awaiting := some name }
  | some .help, value => .error (if long && value.isSome then .misuse else .help)
  | some .version, value => .error (if long && value.isSome then .misuse else .version)
  | none, _ => .error .misuse

def step (r : Reading) (s : String) : Except Digression Reading :=
  match r.awaiting with
  | some name =>
    if Shape.ofArgument s = .operand then ({ r with awaiting := none }).store name s
    else .error .misuse
  | none =>
    if r.literal then r.operand s
    else
      match Shape.ofArgument s with
      | .operand => r.operand s
      | .separator => .ok { r with literal := true }
      | .long name value => r.flag (Flag.ofLong? r.verb name) true value
      | .short letter value => r.flag (Flag.ofShort? r.verb letter) false value

/-- The command, once all arguments have been read. -/
def command? (r : Reading) : Option Command :=
  match r.awaiting, r.verb, r.operands with
  | none, some .compile, [file] => some (.compile file (r.dialect.getD .postgres))
  | none, some .run, [file] => some (.run file)
  | none, some .values, [entity, field] =>
    some (.values entity field r.start (r.limit.getD defaultDistinctLimit))
  | none, some .catalog, [] => some .catalog
  | _, _, _ => none

end Reading

def Invocation.ofArguments (arguments : List String) : Except Digression Invocation := do
  let r ← arguments.foldlM Reading.step {}
  match r.command? with
  | some command => return { config := r.config.or r.outerConfig, command }
  | none => .error .misuse

end Crosstab
