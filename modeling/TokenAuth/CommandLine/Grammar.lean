import TokenAuth.Text.Cut

/-!
The grammar of command lines. An option has a long name and may have a letter; its value is attached to
it, with an equals sign where the name is long, or is the next argument. A value that stands apart is
taken in only when the next option is met or the line ends. What starts with a hyphen and is longer
than that is never such a value.
-/
namespace TokenAuth.CommandLine

open Text

/-- Why a command line is not carried out. Asking for help or the version is one of the reasons. -/
inductive UsageError
  | displayHelp
  | displayVersion
  | unknownArgument
  | invalidValue
  | valueValidation
  | tooManyValues
  | argumentConflict
  | missingRequiredArgument
  | invalidSubcommand
  | missingSubcommand
  deriving DecidableEq, Repr

namespace UsageError

def name : UsageError → String
  | displayHelp => "DisplayHelp"
  | displayVersion => "DisplayVersion"
  | unknownArgument => "UnknownArgument"
  | invalidValue => "InvalidValue"
  | valueValidation => "ValueValidation"
  | tooManyValues => "TooManyValues"
  | argumentConflict => "ArgumentConflict"
  | missingRequiredArgument => "MissingRequiredArgument"
  | invalidSubcommand => "InvalidSubcommand"
  | missingSubcommand => "MissingSubcommand"

def exitCode : UsageError → Nat
  | displayHelp | displayVersion => 0
  | _ => 2

end UsageError

structure OptionSpec where
  long : String
  letter : Option Char
  /-- The variable of the environment that gives the value if the line does not. -/
  fromEnvironment : Option String
  isRequired : Bool
  accepts : String → Bool

abbrev Spec := List OptionSpec

/-- Values by the long names of their options. -/
abbrev Values := List (String × String)

structure Progress where
  values : Values
  /-- The last option named without an attached value, with its value once that has been seen. -/
  pending : Option (OptionSpec × Option String)

namespace Progress

def start : Progress := ⟨[], none⟩

/-- Gives an option its value. Each option is given once. -/
def store (p : Progress) (o : OptionSpec) (value : String) : Except UsageError Progress :=
  if (p.values.lookup o.long).isSome then .error .argumentConflict
  else if o.accepts value then .ok { p with values := (o.long, value) :: p.values }
  else .error .valueValidation

/-- Takes in the value of the pending option. -/
def resolve (p : Progress) : Except UsageError Progress :=
  match p.pending with
  | none => .ok p
  | some (_, none) => .error .invalidValue
  | some (o, some value) => { p with pending := none }.store o value

/-- An option was named, with a value attached or not. -/
def takeOption (p : Progress) (o : OptionSpec) (attached : Option String) :
    Except UsageError Progress :=
  match p.resolve with
  | .error e => .error e
  | .ok p =>
    match attached with
    | some value => p.store o value
    | none => .ok { p with pending := some (o, none) }

def help (p : Progress) : UsageError :=
  match p.resolve with
  | .error e => e
  | .ok _ => .displayHelp

/-- An argument that starts with two hyphens, without them. -/
def takeLong (spec : Spec) (p : Progress) (cs : List Char) : Except UsageError Progress :=
  let (name, attached) := match cutFirst '=' cs with
    | some (name, value) => (String.ofList name, some (String.ofList value))
    | none => (String.ofList cs, none)
  match spec.find? (·.long = name) with
  | some o => p.takeOption o attached
  | none =>
    if name = "help" then .error (if attached.isSome then .tooManyValues else p.help)
    else .error .unknownArgument

/-- An argument that starts with one hyphen: the letter after it and the rest. -/
def takeLetter (spec : Spec) (p : Progress) (c : Char) (rest : List Char) :
    Except UsageError Progress :=
  match spec.find? (·.letter = some c) with
  | some o =>
    p.takeOption o <|
      match rest with
      | [] => none
      | '=' :: value => some (String.ofList value)
      | value => some (String.ofList value)
  | none => .error (if c = 'h' then p.help else .unknownArgument)

/-- An argument that is no option is the value that is still missing, if one is. -/
def takeValue (p : Progress) (value : String) : Except UsageError Progress :=
  match p.pending with
  | some (o, none) => .ok { p with pending := some (o, some value) }
  | _ => .error .unknownArgument

def takeArgument (spec : Spec) (p : Progress) (arg : String) : Except UsageError Progress :=
  match arg.toList with
  | '-' :: '-' :: cs => takeLong spec p cs
  | '-' :: c :: cs => takeLetter spec p c cs
  | _ => p.takeValue arg

/-- Two hyphens alone end the options, and nothing may follow them. -/
def takeAll (spec : Spec) (p : Progress) : List String → Except UsageError Progress
  | [] => .ok p
  | arg :: args =>
    if arg = "--" then (if args = [] then .ok p else .error .unknownArgument)
    else
      match takeArgument spec p arg with
      | .error e => .error e
      | .ok p => takeAll spec p args

end Progress

/-- Adds what the environment gives for options that are not on the line. -/
def addVariables (spec : Spec) (environment : List (String × String)) (values : Values) : Values :=
  spec.foldl
    (fun values o =>
      if (values.lookup o.long).isSome then values
      else
        match o.fromEnvironment.bind fun name => List.lookup name environment with
        | some value => (o.long, value) :: values
        | none => values)
    values

/-- The values of the options on a command line. -/
def parse (spec : Spec) (environment : List (String × String)) (args : List String) :
    Except UsageError Values :=
  match Progress.start.takeAll spec args with
  | .error e => .error e
  | .ok p =>
    match p.resolve with
    | .error e => .error e
    | .ok p =>
      let values := addVariables spec environment p.values
      if spec.all fun o => !o.isRequired || (values.lookup o.long).isSome then .ok values
      else .error .missingRequiredArgument

end TokenAuth.CommandLine
