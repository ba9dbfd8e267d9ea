import Telemetry.Decimal.Reading
import Telemetry.Json.Basic
import Telemetry.Text.Parts

set_option autoImplicit false

namespace Telemetry.CommandLine

open Decimal (Extended isDigit digitsValue)

inductive UsageError where
  | nothingGiven
  | missingCommand
  | unknownCommand
  | unknownArgument
  | missingArgument
  | missingValue
  | malformedValue
  | unneededValue
  | repeatedArgument
  | helpAsked
  | versionAsked
  deriving DecidableEq, Repr

def UsageError.kind : UsageError → String
  | .nothingGiven => "DisplayHelpOnMissingArgumentOrSubcommand"
  | .missingCommand => "MissingSubcommand"
  | .unknownCommand => "InvalidSubcommand"
  | .unknownArgument => "UnknownArgument"
  | .missingArgument => "MissingRequiredArgument"
  | .missingValue => "InvalidValue"
  | .malformedValue => "ValueValidation"
  | .unneededValue => "TooManyValues"
  | .repeatedArgument => "ArgumentConflict"
  | .helpAsked => "DisplayHelp"
  | .versionAsked => "DisplayVersion"

def UsageError.exitCode : UsageError → Nat
  | .helpAsked => 0
  | .versionAsked => 0
  | _ => 2

def versionText : String := "snowplow 0.1.0\n"

inductive Level where
  | top
  | track
  | structured
  | screenView
  | timing
  | selfDescribing
  | flush
  | pending
  | session
  | clear
  deriving DecidableEq, Repr

inductive ValueKind where
  | text
  | path
  | count
  | number
  deriving DecidableEq, Repr

inductive Argument where
  | text (value : String)
  | count (value : Nat)
  | number (value : Extended)
  deriving DecidableEq

namespace Level

def children : Level → List (String × Level)
  | .top => [("track", .track), ("flush", .flush), ("pending", .pending), ("session", .session),
      ("clear", .clear)]
  | .track => [("structured", .structured), ("screen-view", .screenView), ("timing", .timing),
      ("self-describing", .selfDescribing)]
  | _ => []

def child? (level : Level) (name : String) : Option Level :=
  (level.children.find? (·.1 == name)).map (·.2)

def trackOptions : List (String × ValueKind) :=
  [("context", .text), ("user-id", .text), ("timeout", .count)]

def ownOptions : Level → List (String × ValueKind)
  | .track => trackOptions
  | .structured => trackOptions ++ [("category", .text), ("action", .text), ("label", .text),
      ("property", .text), ("value", .number)]
  | .screenView => trackOptions ++ [("name", .text), ("id", .text)]
  | .timing => trackOptions ++ [("category", .text), ("variable", .text), ("timing", .count),
      ("label", .text)]
  | .selfDescribing => trackOptions ++ [("schema", .text), ("data", .text)]
  | .flush => [("timeout", .count)]
  | _ => []

/-- The options of a command. The settings file may be named behind any. -/
def options (level : Level) : List (String × ValueKind) := ("config", .path) :: level.ownOptions

def required : Level → List String
  | .structured => ["category", "action"]
  | .timing => ["category", "variable", "timing"]
  | .selfDescribing => ["schema", "data"]
  | _ => []

end Level

def readCount? (text : String) : Option Nat :=
  let digits := match text.toList with
    | '+' :: digits => digits
    | digits => digits
  let value := digitsValue digits
  if digits.isEmpty || !digits.all isDigit || maxWord < value then none else some value

def ValueKind.read (kind : ValueKind) (text : String) : Except UsageError Argument :=
  match kind with
  | .text => .ok (.text text)
  | .path => if text.isEmpty then .error .missingValue else .ok (.text text)
  | .count =>
    match readCount? text with
    | some value => .ok (.count value)
    | none => .error .malformedValue
  | .number =>
    match Extended.ofText? text with
    | some value => .ok (.number value)
    | none => .error .malformedValue

structure Waiting where
  name : String
  kind : ValueKind
  value : Option String

structure Reading where
  given : List (String × Argument) := []
  waiting : Option Waiting := none
  trailing : Bool := false

namespace Reading

def awaitsValue (reading : Reading) : Bool :=
  match reading.waiting with
  | some waiting => waiting.value.isNone
  | none => false

def take (reading : Reading) (name : String) (kind : ValueKind) (value : Option String) :
    Except UsageError Reading :=
  match value with
  | none => .error .missingValue
  | some value =>
    if reading.given.any (·.1 == name) then .error .repeatedArgument
    else (kind.read value).map fun argument =>
      { reading with given := reading.given ++ [(name, argument)] }

def settle (reading : Reading) : Except UsageError Reading :=
  match reading.waiting with
  | none => .ok reading
  | some waiting =>
    { reading with waiting := none }.take waiting.name waiting.kind waiting.value

def readOption (reading : Reading) (name : String) (kind : ValueKind) (attached : Option String) :
    Except UsageError Reading := do
  let reading ← reading.settle
  match attached with
  | some value => reading.take name kind value
  | none => .ok { reading with waiting := some ⟨name, kind, none⟩ }

def giveValue (reading : Reading) (value : String) : Reading :=
  { reading with waiting := reading.waiting.map fun waiting => { waiting with value := some value } }

end Reading

inductive Shape where
  | separator
  | long (name : String) (attached : Option String)
  | short (name : Char) (rest : List Char)
  | plain

def longShape (cs : List Char) : Shape :=
  let name := String.ofList (cs.takeWhile (· != '='))
  match cs.dropWhile (· != '=') with
  | [] => .long name none
  | _ :: value => .long name (some (String.ofList value))

def Shape.of (argument : String) : Shape :=
  match argument.toList with
  | ['-', '-'] => .separator
  | '-' :: '-' :: cs => longShape cs
  | '-' :: c :: rest => .short c rest
  | _ => .plain

/-- Answer a request for help or for the version after the option that was read last. -/
def Reading.ask (reading : Reading) (request : UsageError) : Except UsageError Reading :=
  match reading.settle with
  | .ok _ => .error request
  | .error cause => .error cause

def readLong (level : Level) (reading : Reading) (name : String) (attached : Option String) :
    Except UsageError Reading :=
  match level.options.find? (·.1 == name) with
  | some (name, kind) => reading.readOption name kind attached
  | none =>
    if name = "help" ∨ (name = "version" ∧ level = .top) then
      if attached.isSome then .error .unneededValue
      else reading.ask (if name = "help" then .helpAsked else .versionAsked)
    else .error .unknownArgument

def attachedShort : List Char → Option String
  | [] => none
  | '=' :: value => some (String.ofList value)
  | value => some (String.ofList value)

def readShort (level : Level) (reading : Reading) (name : Char) (rest : List Char) :
    Except UsageError Reading :=
  if name = 'c' then reading.readOption "config" .path (attachedShort rest)
  else if name = 'h' then reading.ask .helpAsked
  else if name = 'V' ∧ level = .top then reading.ask .versionAsked
  else .error .unknownArgument

def strayArgument (level : Level) (trailing : Bool) (argument : String) : UsageError :=
  if level.children.isEmpty then .unknownArgument
  else if trailing && ((level.child? argument).isSome || argument == "help") then .unknownArgument
  else .unknownCommand

/-- Look up the command to explain. Commands that others stand behind know `help` as one of them. -/
def explain (level : Level) : List String → UsageError
  | [] => .helpAsked
  | name :: rest =>
    match level.child? name with
    | some child => explain child rest
    | none =>
      if name = "help" ∧ !level.children.isEmpty ∧ rest.isEmpty then .helpAsked else .unknownCommand

abbrev Found := List (Level × List (String × Argument))

def finish (level : Level) (reading : Reading) : Except UsageError Found := do
  let reading ← reading.settle
  if !level.children.isEmpty then
    .error (if reading.given.isEmpty then .nothingGiven else .missingCommand)
  else if level.required.all fun name => reading.given.any (·.1 == name) then
    .ok [(level, reading.given)]
  else .error .missingArgument

/-- Read the arguments behind a command. Those of an inner command are judged before the last option of the
outer one. -/
def readLevel (level : Level) (reading : Reading) : List String → Except UsageError Found
  | [] => finish level reading
  | argument :: rest =>
    if reading.trailing then .error (strayArgument level true argument)
    else
      let command? := if reading.awaitsValue then none else level.child? argument
      match command? with
      | some child => do
        let inner ← readLevel child {} rest
        let reading ← reading.settle
        .ok ((level, reading.given) :: inner)
      | none =>
        if !reading.awaitsValue && argument == "help" && !level.children.isEmpty then
          .error (explain level rest)
        else
          match Shape.of argument with
          | .separator => readLevel level { reading with trailing := true } rest
          | .long name attached =>
            match readLong level reading name attached with
            | .ok reading => readLevel level reading rest
            | .error cause => .error cause
          | .short name attached =>
            match readShort level reading name attached with
            | .ok reading => readLevel level reading rest
            | .error cause => .error cause
          | .plain =>
            if reading.awaitsValue then readLevel level (reading.giveValue argument) rest
            else .error (strayArgument level false argument)

inductive EventArguments where
  | structured (category action : String) (label property : Option String) (value : Option Extended)
  | screenView (name id : Option String)
  | timing (category variableName : String) (milliseconds : Nat) (label : Option String)
  | selfDescribing (schema data : String)
  deriving DecidableEq

inductive Command where
  | track (event : EventArguments) (context userId : Option String) (timeout : Nat)
  | flush (timeout : Nat)
  | pending
  | session
  | clear
  deriving DecidableEq

structure Invocation where
  settingsPath : String
  command : Command
  deriving DecidableEq

def defaultSettingsPath : String := "snowplow.toml"

def defaultTimeout : Nat := 30

def argument? (found : Found) (name : String) : Option Argument :=
  found.reverse.findSome? fun (_, given) => (given.find? (·.1 == name)).map (·.2)

def textArgument? (found : Found) (name : String) : Option String :=
  match argument? found name with
  | some (.text value) => some value
  | _ => none

def countArgument? (found : Found) (name : String) : Option Nat :=
  match argument? found name with
  | some (.count value) => some value
  | _ => none

def numberArgument? (found : Found) (name : String) : Option Extended :=
  match argument? found name with
  | some (.number value) => some value
  | _ => none

def eventArguments? (found : Found) : Level → Option EventArguments
  | .structured => do
    some (.structured (← textArgument? found "category") (← textArgument? found "action")
      (textArgument? found "label") (textArgument? found "property")
      (numberArgument? found "value"))
  | .screenView => some (.screenView (textArgument? found "name") (textArgument? found "id"))
  | .timing => do
    some (.timing (← textArgument? found "category") (← textArgument? found "variable")
      (← countArgument? found "timing") (textArgument? found "label"))
  | .selfDescribing => do
    some (.selfDescribing (← textArgument? found "schema") (← textArgument? found "data"))
  | _ => none

def command? (found : Found) (level : Level) : Option Command :=
  let timeout := (countArgument? found "timeout").getD defaultTimeout
  match level with
  | .flush => some (.flush timeout)
  | .pending => some .pending
  | .session => some .session
  | .clear => some .clear
  | level => (eventArguments? found level).map fun event =>
      .track event (textArgument? found "context") (textArgument? found "user-id") timeout

def Invocation.ofArguments (arguments : List String) : Except UsageError Invocation := do
  let found ← readLevel .top {} arguments
  match (found.getLast?).bind fun last => command? found last.1 with
  | some command =>
    .ok ⟨(textArgument? found "config").getD defaultSettingsPath, command⟩
  | none => .error .missingArgument

end Telemetry.CommandLine
