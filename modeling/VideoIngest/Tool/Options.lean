import VideoIngest.Pipeline
import VideoIngest.Tool.Schedule

/-!
The command line: options with a value, flags, and what is wrong with arguments that are neither.

The value of an option is looked at when the next option begins or the arguments end, and what is
wrong with it is said then.
-/

namespace VideoIngest.Tool

inductive ArgumentError
  | missingRequired
  | unknown
  | invalidValue
  | valueValidation
  | conflict
  | tooManyValues
  | help
  deriving DecidableEq, Repr

inductive Setting
  | input
  | codec
  | fps
  deriving DecidableEq, Repr

inductive Flag
  | pace
  | dropRegressed
  | forwardRegressed
  deriving DecidableEq, Repr

inductive OptionKind
  | setting (setting : Setting)
  | flag (flag : Flag)
  | help
  deriving DecidableEq, Repr

def longNames : List (String × OptionKind) :=
  [("input", .setting .input), ("codec", .setting .codec), ("fps", .setting .fps),
    ("pace", .flag .pace), ("drop-regressed", .flag .dropRegressed),
    ("forward-regressed", .flag .forwardRegressed), ("help", .help)]

def shortNames : List (Char × OptionKind) :=
  [('i', .setting .input), ('c', .setting .codec), ('h', .help)]

/-- An option that has begun, with the value that it was given, if it has been. -/
structure Pending where
  setting : Setting
  value : Option String
  deriving DecidableEq, Repr

structure Given where
  input : Option String
  codec : Option Codec
  rate : Option Number.Value
  flags : List Flag
  pending : Option Pending
  deriving DecidableEq, Repr

namespace Given

def nothing : Given := ⟨none, none, none, [], none⟩

def has (given : Given) : Setting → Bool
  | .input => given.input.isSome
  | .codec => given.codec.isSome
  | .fps => given.rate.isSome

/-- Takes the value of an option that has not been given before. -/
def assign (setting : Setting) (value : String) (given : Given) : Except ArgumentError Given :=
  if given.has setting then .error .conflict
  else
    match setting with
    | .input =>
        if value.isEmpty then .error .invalidValue
        else .ok { given with input := some value }
    | .codec =>
        match Codec.ofName? value with
        | none => .error .valueValidation
        | some codec => .ok { given with codec := some codec }
    | .fps =>
        match Number.parse value with
        | none => .error .valueValidation
        | some rate => .ok { given with rate := some rate }

/-- Takes the value of the option that has begun. One without a value is an error. -/
def resolve (given : Given) : Except ArgumentError Given :=
  match given.pending with
  | none => .ok given
  | some ⟨_, none⟩ => .error .invalidValue
  | some ⟨setting, some value⟩ => { given with pending := none }.assign setting value

def raise (flag : Flag) (given : Given) : Except ArgumentError Given :=
  if flag ∈ given.flags then .error .conflict else .ok { given with flags := flag :: given.flags }

def onOption (kind : OptionKind) (attached : Option String) (given : Given) :
    Except ArgumentError Given :=
  match kind, attached with
  | .setting setting, some value => do (← given.resolve).assign setting value
  | .setting setting, none => do
      let given ← given.resolve
      return { given with pending := some ⟨setting, none⟩ }
  | .flag _, some _ | .help, some _ => .error .tooManyValues
  | .flag flag, none => do (← given.resolve).raise flag
  | .help, none => do
      let _ ← given.resolve
      throw .help

def onLong (text : List Char) (given : Given) : Except ArgumentError Given :=
  let name := text.takeWhile (· != '=')
  let attached := match text.dropWhile (· != '=') with
    | [] => none
    | _ :: value => some (String.ofList value)
  match longNames.find? fun entry => entry.1 == String.ofList name with
  | none => .error .unknown
  | some (_, kind) => given.onOption kind attached

def attachedToShort : List Char → Option String
  | [] => none
  | '=' :: value => some (String.ofList value)
  | value => some (String.ofList value)

def onShort (letter : Char) (rest : List Char) (given : Given) : Except ArgumentError Given :=
  match shortNames.find? fun entry => entry.1 == letter with
  | none => .error .unknown
  | some (_, .setting setting) => given.onOption (.setting setting) (attachedToShort rest)
  | some (_, kind) => given.onOption kind none

def onValue (text : String) (given : Given) : Except ArgumentError Given :=
  match given.pending with
  | some ⟨setting, none⟩ => .ok { given with pending := some ⟨setting, some text⟩ }
  | _ => .error .unknown

def onArgument (argument : String) (given : Given) : Except ArgumentError Given :=
  match argument.toList with
  | '-' :: '-' :: text => given.onLong text
  | '-' :: letter :: rest => given.onShort letter rest
  | _ => given.onValue argument

/-- All arguments in their order. Behind two bare dashes there may be none. -/
def onArguments (given : Given) : List String → Except ArgumentError Given
  | [] => given.resolve
  | "--" :: rest => if rest.isEmpty then given.resolve else .error .unknown
  | argument :: rest => do (← given.onArgument argument).onArguments rest

end Given

structure Options where
  input : String
  codec : Codec
  rate : Number.Value
  pace : Bool
  policy : RegressionPolicy
  deriving DecidableEq, Repr

namespace Options

/-- The rate where none is given: 25 chunks per second. -/
def standardRate : Number.Value := .finite ⟨25, 0⟩

def policyOf (flags : List Flag) : RegressionPolicy :=
  if Flag.dropRegressed ∈ flags then .drop
  else if Flag.forwardRegressed ∈ flags then .forward
  else .auto

def ofGiven (given : Given) : Except ArgumentError Options :=
  if Flag.dropRegressed ∈ given.flags ∧ Flag.forwardRegressed ∈ given.flags then .error .conflict
  else
    match given.input, given.codec with
    | some input, some codec =>
        .ok { input, codec, rate := given.rate.getD standardRate,
              pace := decide (Flag.pace ∈ given.flags), policy := policyOf given.flags }
    | _, _ => .error .missingRequired

def parse (arguments : List String) : Except ArgumentError Options := do
  ofGiven (← Given.nothing.onArguments arguments)

def config (options : Options) : PipelineConfig :=
  { PipelineConfig.standard with pacing := options.pace, policy := options.policy }

end Options
end VideoIngest.Tool
