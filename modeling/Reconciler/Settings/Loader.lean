import Reconciler.Settings.Basic

/-!
# Loading settings

The settings are declared: each has a key and a default, a mark stands in front of the names of
their variables, and their file is looked for under some names. What reads them is a loader, which
is handed the declaration and a command line. The command line is that of a program that was given
no arguments.

## The model

A `Loader` is any function from a declaration, a command line, an environment and a place to values.
Beside it stand the layers that it takes the values from. Nothing more is fixed about them here.

The environment holds the variables whose names begin with the mark. The other variables that a
loader may look at, those that say where the directories of a user are, belong to the place.
-/

namespace Reconciler

/-- What a source gives for a setting. -/
inductive Scalar where
  /-- An integer. -/
  | integer (value : Int)
  /-- A truth value. -/
  | boolean (value : Bool)
  /-- Anything else. -/
  | other
  deriving DecidableEq

/-- The variables that belong to a program, with their texts. -/
abbrev Environment := List (String × String)

/-- What a source gives for the settings, by their keys. -/
abbrev Layer := String → Option Scalar

/-- What the first of some layers that says anything gives. -/
def topmost (layers : List Layer) : Layer := fun key => layers.findSome? (· key)

/-- Where a settings file is looked for. -/
structure Discovery where
  /-- The name of the directory for the files of the program. -/
  appName : String
  /-- The variable that names the file. -/
  pathVariable : String
  /-- The name of the file in the directory of the program. -/
  fileName : String
  /-- The name of the file in the directory of the user. -/
  dotfileName : String
  /-- The name of the file in the directory of a project. -/
  projectFileName : String

/-- Settings as they are declared. -/
structure Declaration where
  /-- What the names of their variables begin with. -/
  mark : String
  /-- Where their file is looked for. -/
  discovery : Discovery
  /-- The keys of those that are numbers, with their defaults. -/
  numbers : List (String × Nat)
  /-- The keys of those that are switches, with their defaults. -/
  switches : List (String × Bool)

/-- The layer of the defaults. -/
def Declaration.defaults (d : Declaration) : Layer := fun key =>
  ((d.numbers.lookup key).map fun n => .integer n).or ((d.switches.lookup key).map .boolean)

/-- The name of the variable for a key: the mark and the key in capital letters. -/
def variableName (mark key : String) : String :=
  mark ++ "_" ++ String.ofList (key.toList.map Char.toUpper)

/-- The values that were loaded, by their keys. -/
structure Loaded where
  /-- The values of the numbers. -/
  number : String → Nat
  /-- The values of the switches. -/
  switch : String → Bool

/-- A loader of declared settings, for programs that run in places of some type. A place is all that
a loader looks at besides the variables of the program: the directories and the files. -/
structure Loader (Place : Type) where
  /-- What a command line gives. -/
  arguments : Declaration → List String → Layer
  /-- How the text of a variable is read. -/
  reading : String → Scalar
  /-- What a variable gives and for which key, if its name begins with the mark. -/
  given? : (mark : String) → String × String → Option (String × Scalar)
  /-- What an environment gives. -/
  environment : (mark : String) → Environment → Layer
  /-- What the settings file gives that is found. -/
  file : Discovery → Environment → Place → Layer
  /-- Loads what is declared. -/
  load : Declaration → List String → Environment → Place → Except String Loaded

namespace Settings

/-- The key of the switch that ends a wait with the first refused request. -/
def abortKey : String := "abort_on_client_error"

/-- The declaration of the settings. -/
def declaration : Declaration where
  mark := "ECC"
  discovery :=
    { appName := "ecc"
      pathVariable := "ECC_CONFIG_PATH"
      fileName := "ecc.toml"
      dotfileName := ".ecc.toml"
      projectFileName := "ecc.toml" }
  numbers := SecondsSetting.all.map fun k => (k.fileKey, k.value {})
  switches := [(abortKey, ({} : Settings).abortOnClientError)]

/-- The command line that settings are loaded with: the name of the program alone. -/
def commandLine : List String := ["ecc"]

/-- The settings with the values that were loaded. -/
def ofLoaded (values : Loaded) : Settings where
  pollIntervalSecs := values.number SecondsSetting.pollInterval.fileKey
  createTimeoutSecs := values.number SecondsSetting.createTimeout.fileKey
  updateTimeoutSecs := values.number SecondsSetting.updateTimeout.fileKey
  deleteTimeoutSecs := values.number SecondsSetting.deleteTimeout.fileKey
  abortOnClientError := values.switch abortKey

/-- The settings that a loader finds in an environment and a place. -/
def loadWith {Place : Type} (L : Loader Place) (env : Environment) (place : Place) :
    Except SettingsError Settings :=
  match L.load declaration commandLine env place with
  | .ok values => .ok (ofLoaded values)
  | .error detail => .error (.unreadable detail)

end Settings

end Reconciler
