import Registrar.Settings.Pool

/-!
# Options of the Server

Each setting is given on the command line, or else by a variable of the
environment, or else has its default; only the database URL has none. A value is
attached to its flag with `=`, or is the next argument, unless that begins with a
dash.

The command line is read from left to right. A flag that waits for its value is
settled when the next known flag comes or the line ends, so its own fault is
reported there, before anything that comes later; but an argument that is not
known is reported at once. Variables are only read for settings that the command
line does not give.

## Main definitions

* `Setting`: What can be set.
* `OptionsError`, `OptionsError.message`: Why the options cannot be used.
* `Choices`: The settings that have been given so far.
* `ServerOptions`: The options of the server.
* `ServerOptions.parse`: Read the options.
-/

namespace Registrar

/-- What can be set, in the order in which variables are read. -/
inductive Setting
  | databaseUrl
  | host
  | listenNumber
  | maxConnections
  | poolTimeout
  | idleTimeout
  | connectionLifetime
  deriving DecidableEq, Repr

namespace Setting

/-- Every setting with its flag and its variable. -/
def all : List (Setting × String × String) :=
  [(databaseUrl, "database-url", "USERAPP_DATABASE_URL"), (host, "host", "HOST"),
   (listenNumber, "port", "PORT"), (maxConnections, "max-connections", "USERAPP_MAX_CONNECTIONS"),
   (poolTimeout, "pool-timeout", "USERAPP_POOL_TIMEOUT"),
   (idleTimeout, "idle-timeout", "USERAPP_IDLE_TIMEOUT"),
   (connectionLifetime, "connection-lifetime", "USERAPP_CONNECTION_LIFETIME")]

/-- The setting of a flag. -/
def ofFlag? (flag : List Char) : Option Setting :=
  (all.find? fun entry => entry.2.1.toList = flag).map Prod.fst

end Setting

/-- Why the options cannot be used. -/
inductive OptionsError
  | missingRequiredArgument
  | unknownArgument
  | invalidValue
  | valueValidation
  | argumentConflict
  | tooManyValues
  | displayHelp
  deriving DecidableEq, Repr

/-- The wording of an error. -/
def OptionsError.message : OptionsError → String
  | missingRequiredArgument => "the database URL is required"
  | unknownArgument => "unexpected argument"
  | invalidValue => "a value is required"
  | valueValidation => "invalid value"
  | argumentConflict => "an argument cannot be used more than once"
  | tooManyValues => "unexpected value"
  | displayHelp => "every flag can also be given by a variable of the environment"

/-- The settings that have been given so far. -/
structure Choices where
  databaseUrl : Option String
  host : Option Address
  listenNumber : Option Nat
  maxConnections : Option Nat
  poolTimeout : Option Nat
  idleTimeout : Option Nat
  connectionLifetime : Option Nat
  deriving DecidableEq, Repr

namespace Choices

/-- Nothing given yet. -/
def none : Choices :=
  ⟨.none, .none, .none, .none, .none, .none, .none⟩

/-- A number below a bound, with an optional sign: a minus may stand before zero. -/
def smallNumber? (bound : Nat) (text : String) : Option Nat :=
  ((Text.int64? text.toList).filter fun n => 0 ≤ n ∧ n < (bound : Int)).map Int.toNat

/-- Give a setting that has not been given yet. -/
def fill {α : Type} (old given : Option α) : Except OptionsError (Option α) :=
  match old, given with
  | some _, _ => .error .argumentConflict
  | .none, .none => .error .valueValidation
  | .none, some value => .ok (some value)

/-- Give a setting a value. -/
def choose (choices : Choices) (setting : Setting) (value : String) :
    Except OptionsError Choices :=
  match setting with
  | .databaseUrl => do
    let filled ← fill choices.databaseUrl (some value)
    pure { choices with databaseUrl := filled }
  | .host => do
    let filled ← fill choices.host (Address.parse? value)
    pure { choices with host := filled }
  | .listenNumber => do
    let filled ← fill choices.listenNumber (smallNumber? (Nat.pow 2 16) value)
    pure { choices with listenNumber := filled }
  | .maxConnections => do
    let filled ← fill choices.maxConnections (smallNumber? (Nat.pow 2 32) value)
    pure { choices with maxConnections := filled }
  | .poolTimeout => do
    let filled ← fill choices.poolTimeout (Text.natural64? value.toList)
    pure { choices with poolTimeout := filled }
  | .idleTimeout => do
    let filled ← fill choices.idleTimeout (Text.natural64? value.toList)
    pure { choices with idleTimeout := filled }
  | .connectionLifetime => do
    let filled ← fill choices.connectionLifetime (Text.natural64? value.toList)
    pure { choices with connectionLifetime := filled }

/-- Whether a setting has been given. -/
def has (choices : Choices) : Setting → Bool
  | .databaseUrl => choices.databaseUrl.isSome
  | .host => choices.host.isSome
  | .listenNumber => choices.listenNumber.isSome
  | .maxConnections => choices.maxConnections.isSome
  | .poolTimeout => choices.poolTimeout.isSome
  | .idleTimeout => choices.idleTimeout.isSome
  | .connectionLifetime => choices.connectionLifetime.isSome

/-- Settle a flag with the value that came for it, if one came. -/
def settle (choices : Choices) : Option (Setting × Option String) → Except OptionsError Choices
  | .none => .ok choices
  | some (_, .none) => .error .invalidValue
  | some (setting, some value) => choices.choose setting value

end Choices

/-- What an argument is. -/
inductive Argument
  /-- Two dashes: no flags come after it. -/
  | endOfFlags
  /-- A flag that asks for help. -/
  | help
  /-- A flag of a setting, with the value that is attached to it. -/
  | setting (setting : Setting) (value : Option String)
  /-- The long help flag with a value, which it does not take. -/
  | helpWithValue
  /-- Another flag. -/
  | unknownFlag
  /-- No flag at all. -/
  | plain (text : String)
  deriving DecidableEq, Repr

namespace Argument

/-- What a flag after two dashes is. -/
def long (flag : List Char) (value : Option String) : Argument :=
  match Setting.ofFlag? flag with
  | some found => setting found value
  | none =>
    if flag = "help".toList then
      match value with
      | none => help
      | some _ => helpWithValue
    else unknownFlag

/-- What an argument is. A single dash is plain text. -/
def ofString (text : String) : Argument :=
  match text.toList with
  | ['-', '-'] => endOfFlags
  | '-' :: '-' :: rest =>
    match Text.cutAt? '=' rest with
    | some (flag, value) => long flag (some (String.ofList value))
    | none => long rest none
  | '-' :: 'h' :: _ => help
  | '-' :: _ :: _ => unknownFlag
  | _ => plain text

end Argument

/-- The options of the server. -/
structure ServerOptions where
  databaseUrl : String
  host : Address
  listenNumber : Nat
  pool : PoolSettings
  deriving DecidableEq, Repr

namespace ServerOptions

/-- How a database URL is shown; it may hold a password. -/
def shownUrl : String := "ConnectionUri(<redacted>)"

/-- The address that is listened at unless another one is given. -/
def anyHost : Address := .v4 #v[0, 0, 0, 0]

/-- The number to listen at unless another one is given. -/
def standardNumber : Nat := 8080

/-- Read the command line onto what was given before. A flag that waits for its
    value is `pending`, with the value once it has come. -/
def readArguments (choices : Choices) (pending : Option (Setting × Option String)) :
    List Argument → Except OptionsError Choices
  | [] => choices.settle pending
  | .endOfFlags :: [] => choices.settle pending
  | .endOfFlags :: _ :: _ => .error .unknownArgument
  -- What is not known is reported at once, whatever a pending flag lacks.
  | .unknownFlag :: _ => .error .unknownArgument
  | .helpWithValue :: _ => .error .tooManyValues
  | .help :: _ => do
    let _ ← choices.settle pending
    .error .displayHelp
  | .setting setting value :: rest => do
    -- The faults of the pending flag come before those of this one.
    let choices ← choices.settle pending
    match value with
    | some value => do
      let choices ← choices.choose setting value
      readArguments choices none rest
    | none => readArguments choices (some (setting, none)) rest
  | .plain text :: rest =>
    match pending with
    | some (setting, none) => readArguments choices (some (setting, some text)) rest
    -- No flag waits for a value, and there are no arguments without a flag.
    | _ => .error .unknownArgument

/-- Read the variables of the settings that have not been given. -/
def readVariables (environment : List (String × String)) :
    List (Setting × String × String) → Choices → Except OptionsError Choices
  | [], choices => .ok choices
  | (setting, _, name) :: rest, choices =>
    match choices.has setting, environment.lookup name with
    | false, some value => do
      let choices ← choices.choose setting value
      readVariables environment rest choices
    | _, _ => readVariables environment rest choices

/-- The options that the choices make up, with defaults for the rest. -/
def ofChoices (choices : Choices) : Except OptionsError ServerOptions :=
  match choices.databaseUrl with
  | none => .error .missingRequiredArgument
  | some url =>
    let standard := PoolSettings.standard
    .ok {
      databaseUrl := url
      host := choices.host.getD anyHost
      listenNumber := choices.listenNumber.getD standardNumber
      pool := {
        maxConnections := choices.maxConnections.getD standard.maxConnections
        poolTimeout := choices.poolTimeout.getD standard.poolTimeout
        idleTimeout := choices.idleTimeout.getD standard.idleTimeout
        connectionLifetime := choices.connectionLifetime.getD standard.connectionLifetime } }

/-- Read the options from the command line and the environment. -/
def parse (arguments : List String) (environment : List (String × String)) :
    Except OptionsError ServerOptions := do
  let choices ← readArguments Choices.none none (arguments.map Argument.ofString)
  let choices ← readVariables environment Setting.all choices
  ofChoices choices

/-- The address to listen at. -/
def address (options : ServerOptions) : String :=
  options.host.endpoint options.listenNumber

end ServerOptions

end Registrar
