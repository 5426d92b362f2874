import Reconciler.Settings.Environment
import Reconciler.Toml.Meaning

/-!
# A loader to run with

A running reconciler has its settings loaded by a library that is no part of this one. The loader
here stands in for it where the reconciler is rehearsed: it reads the variables of an environment and
the files of one directory, in the TOML format. A file must be a document and must not name another
that it builds on, since none can be found.

No statement about settings rests on it. They hold with any loader that behaves as documented, and
this one does.

## The model

The layers are merged key by key, the command line on top, and every setting must then have a value
of its kind. Of the command line only the switches are understood.
-/

namespace Reconciler

/-- What a value in a settings file gives. -/
def Scalar.ofToml : Toml.Value → Scalar
  | .integer i => .integer i
  | .boolean b => .boolean b
  | _ => .other

/-- The number that a source gives, if it is one from zero on. -/
def Scalar.number? : Scalar → Option Nat
  | .integer (.ofNat n) => some n
  | _ => none

/-- The truth value that a source gives, if it is one. -/
def Scalar.switch? : Scalar → Option Bool
  | .boolean b => some b
  | _ => none

/-- The files of a directory with their texts. -/
abbrev Directory := List (String × String)

namespace TomlLoader

/-- What a command line gives: whether a switch is among the arguments. -/
def arguments (d : Declaration) (args : List String) : Layer := fun key =>
  if (d.switches.lookup key).isSome then
    some (.boolean (args.tail.contains ("--" ++ key.map fun c => if c = '_' then '-' else c)))
  else none

/-- The key by which a settings file names another that it builds on. -/
def baseKey : String := "extends"

/-- The text of the settings file: the one that the variable names if it is there, else that of the
project. -/
def found? (disc : Discovery) (env : Environment) (dir : Directory) : Option String :=
  ((env.lookup disc.pathVariable).bind fun path => dir.lookup path).or
    (dir.lookup disc.projectFileName)

/-- The entries of the settings file; without a file there are none. -/
def entries (disc : Discovery) (env : Environment) (dir : Directory) :
    Except String Toml.Entries :=
  match found? disc env dir with
  | none => .ok []
  | some text =>
    match Toml.read? text with
    | some es =>
      if (es.get? baseKey).isSome then .error "the settings build on a file that is not there"
      else .ok es
    | none => .error "the settings file is not a TOML document"

/-- What the settings file gives. -/
def file (disc : Discovery) (env : Environment) (dir : Directory) : Layer := fun key =>
  match entries disc env dir with
  | .ok es => (es.get? key).map .ofToml
  | .error _ => none

/-- The number that a layer gives, if it is one from zero on. -/
def number? (layer : Layer) (key : String) : Option Nat := (layer key).bind Scalar.number?

/-- The truth value that a layer gives, if it is one. -/
def switch? (layer : Layer) (key : String) : Option Bool := (layer key).bind Scalar.switch?

/-- Loads what is declared. -/
def load (d : Declaration) (args : List String) (env : Environment) (dir : Directory) :
    Except String Loaded :=
  match entries d.discovery env dir with
  | .error detail => .error detail
  | .ok _ =>
    let merged :=
      topmost [arguments d args, Environment.layer d.mark env, file d.discovery env dir, d.defaults]
    if d.numbers.all (fun e => (number? merged e.1).isSome) &&
        d.switches.all (fun e => (switch? merged e.1).isSome) then
      .ok
        { number := fun key => (number? merged key).getD 0
          switch := fun key => (switch? merged key).getD false }
    else .error "a setting has a value of another kind"

end TomlLoader

/-- The loader that reads TOML files. -/
def tomlLoader : Loader Directory where
  arguments := TomlLoader.arguments
  reading := .ofVariable
  given? := Environment.given?
  environment := Environment.layer
  file := TomlLoader.file
  load := TomlLoader.load

/-- The settings from an environment and the text of the settings file, if there is one. -/
def Settings.load (env : Environment) (file : Option String) : Except SettingsError Settings :=
  loadWith tomlLoader env (file.toList.map fun text =>
    (declaration.discovery.projectFileName, text))

end Reconciler
