import Registrar.Text.Basic

/-!
# Switches on a command line

A command takes switches, which start with a hyphen: `--name`, `--name=value`, `--name value`, or
a letter as in `-n value`, `-nvalue` and `-n=value`; letters without values may be written
together.  `--` ends the switches.

* `Switch`: a switch and what it does to the settings of a command.
* `Switch.scan`: the settings after all the switches in front, and the first argument that is
  none.  Switches are taken in order and the first one that is wrong, or that asks for something
  to be printed, ends the scan.
-/

namespace Registrar

/-- Why a command is not carried out. -/
inductive Stop where
  /-- The arguments make no command. -/
  | misuse
  /-- The version of the command with this title is asked for. -/
  | version (title : String)
  /-- Help on the command with this title is asked for. -/
  | help (title : String)
  deriving DecidableEq

/-- What a switch does to the settings `σ` of a command. -/
inductive SwitchEffect (σ : Type) where
  /-- A switch without value; refused when it may not be given again. -/
  | flag (set : σ → Option σ)
  /-- A switch with a value; refused when the value is wrong or it may not be given again. -/
  | value (set : String → σ → Option σ)
  /-- A switch that asks for something to be printed. -/
  | stop (reason : Stop)

/-- A switch of a command with the settings `σ`. -/
structure Switch (σ : Type) where
  /-- The name of the switch. -/
  name : String
  /-- The letter that stands for it. -/
  letter : Option Char
  /-- What it does. -/
  effect : SwitchEffect σ

namespace Switch

variable {σ : Type}

/-- A switch that waits for its value. -/
abbrev Pending (σ : Type) := Option (String → σ → Option σ)

/-- The settings after a change, which may be refused. -/
def accept (s : Option σ) : Except Stop (σ × Pending σ) :=
  match s with
  | some s => .ok (s, none)
  | none => .error .misuse

/-- The effect of the switch with a name. -/
def named? (switches : List (Switch σ)) (name : String) : Option (SwitchEffect σ) :=
  (switches.find? (·.name = name)).map (·.effect)

/-- The effect of the switch with a letter. -/
def lettered? (switches : List (Switch σ)) (c : Char) : Option (SwitchEffect σ) :=
  (switches.find? (·.letter = some c)).map (·.effect)

/-- The settings after a switch that is given by its name, with the value behind an equals
sign. -/
def takeName (switches : List (Switch σ)) (s : σ) (word : List Char) :
    Except Stop (σ × Pending σ) :=
  let (name, value) := match Text.cutFirst? (· = '=') word with
    | some (name, value) => (name, some value)
    | none => (word, none)
  match named? switches (.ofList name), value with
  | some (.flag set), none => accept (set s)
  | some (.value set), some v => accept (set (.ofList v) s)
  | some (.value set), none => .ok (s, some set)
  | some (.stop reason), none => .error reason
  | _, _ => .error .misuse

/-- The settings after switches that are given by their letters. -/
def takeLetters (switches : List (Switch σ)) (s : σ) : List Char → Except Stop (σ × Pending σ)
  | [] => .ok (s, none)
  | c :: cs =>
    match lettered? switches c with
    | some (.flag set) =>
      match set s with
      | some s => takeLetters switches s cs
      | none => .error .misuse
    | some (.value set) =>
      match cs with
      | [] => .ok (s, some set)
      | '=' :: value => accept (set (.ofList value) s)
      | value => accept (set (.ofList value) s)
    | some (.stop reason) => .error reason
    | none => .error .misuse

/-- The argument is written like a switch; a lone hyphen is not. -/
def isSwitch (arg : String) : Bool := arg.startsWith "-" && arg ≠ "-"

/-- The settings after one argument that is written like a switch. -/
def take (switches : List (Switch σ)) (s : σ) (arg : String) : Except Stop (σ × Pending σ) :=
  match arg.toList with
  | '-' :: '-' :: word => takeName switches s word
  | cs => takeLetters switches s (cs.drop 1)

/-- The settings after the arguments, when the switch before them waits for its value. -/
def scanFrom (switches : List (Switch σ)) :
    Pending σ → σ → List String → Except Stop (σ × Option (String × List String))
  | some _, _, [] => .error .misuse
  | none, s, [] => .ok (s, none)
  | some set, s, value :: args =>
    if isSwitch value then .error .misuse
    else match set value s with
      | some s => scanFrom switches none s args
      | none => .error .misuse
  | none, s, arg :: args =>
    if arg = "--" then if args = [] then .ok (s, none) else .error .misuse
    else if isSwitch arg then
      match take switches s arg with
      | .ok (s, pending) => scanFrom switches pending s args
      | .error stop => .error stop
    else .ok (s, some (arg, args))

/-- The settings after the switches in front of the arguments, and the first argument that is no
switch with what follows it. -/
def scan (switches : List (Switch σ)) (s : σ) (args : List String) :
    Except Stop (σ × Option (String × List String)) :=
  scanFrom switches none s args

end Switch

end Registrar
