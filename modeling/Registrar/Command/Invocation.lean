import Registrar.Calendar.Numeric
import Registrar.Command.Switch
import Registrar.Role
import Registrar.Service

/-!
# Invocations

What the arguments of the process ask for: one of two commands, and what the command needs.

* `Invocation.read`: the invocation that the arguments make.
-/

namespace Registrar

/-- The name of the program. -/
def programName : String := "coursegate"

/-- The version of the program. -/
def programVersion : String := "0.1.0"

/-- A request that is to be evaluated. -/
structure Inquiry where
  /-- The pipeline that judges the request. -/
  pipeline : PipelineKind
  /-- The token that the subject shows. -/
  token : String
  /-- What is to be used. -/
  resource : String
  /-- What is to be done with it. -/
  action : String
  /-- The role in which the subject acts, when it is given. -/
  role : Option Role
  /-- The facts that are given, as they are written. -/
  facts : List String
  /-- The date that counts as the date of the day, when it is given. -/
  today : Option Date
  /-- The name of the request, when it is given. -/
  requestId : Option String
  /-- The decision is printed as JSON. -/
  json : Bool
  deriving DecidableEq

/-- What is to be done. -/
inductive Command where
  /-- A request is evaluated. -/
  | evaluate (inquiry : Inquiry)
  /-- The policy in force is shown, as JSON if so asked. -/
  | showPolicy (json : Bool)
  deriving DecidableEq

/-- What the arguments of the process ask for. -/
structure Invocation where
  /-- The configuration file, when it is given. -/
  config : Option String
  /-- How much is logged, when it is given. -/
  logLevel : Option String
  /-- Everything is logged that helps to find faults. -/
  debug : Bool
  /-- What is to be done. -/
  command : Command
  deriving DecidableEq

/-! ### Settings while the arguments are read -/

/-- What is given before the command. -/
structure CommonSettings where
  /-- The configuration file. -/
  config : Option String
  /-- How much is logged. -/
  logLevel : Option String
  /-- Everything is logged that helps to find faults. -/
  debug : Bool

/-- What is given for the evaluation of a request. -/
structure InquirySettings where
  /-- The pipeline. -/
  pipeline : Option PipelineKind
  /-- The token. -/
  token : Option String
  /-- The resource. -/
  resource : Option String
  /-- The action. -/
  action : Option String
  /-- The role. -/
  role : Option Role
  /-- The facts. -/
  facts : List String
  /-- The date of the day. -/
  today : Option Date
  /-- The name of the request. -/
  requestId : Option String
  /-- The decision is printed as JSON. -/
  json : Bool

/-- What is given for showing the policy. -/
structure ShowSettings where
  /-- The policy is printed as JSON. -/
  json : Bool

namespace Switch

variable {σ α : Type}

/-- A value that is read and given only once. -/
def once (read : String → Option α) (get : σ → Option α) (set : σ → α → σ) : SwitchEffect σ :=
  .value fun raw s =>
    match get s with
    | some _ => none
    | none => (read raw).map (set s)

/-- A flag that is given only once. -/
def onceFlag (get : σ → Bool) (set : σ → σ) : SwitchEffect σ :=
  .flag fun s => if get s then none else some (set s)

/-- The switches that every command has. -/
def standard (title : String) : List (Switch σ) :=
  [⟨"help", some 'h', .stop (.help title)⟩, ⟨"version", some 'V', .stop (.version title)⟩]

/-- The switches before the command. -/
def common : List (Switch CommonSettings) :=
  [⟨"config", some 'c', once (fun path => if path = "" then none else some path) (·.config)
      fun s v => { s with config := some v }⟩,
    ⟨"log-level", some 'l', once some (·.logLevel) fun s v => { s with logLevel := some v }⟩,
    ⟨"debug", some 'd', onceFlag (·.debug) fun s => { s with debug := true }⟩] ++
  standard programName

/-- The switches of the evaluation of a request. -/
def inquiry : List (Switch InquirySettings) :=
  [⟨"pipeline", some 'p', once PipelineKind.read? (·.pipeline)
      fun s v => { s with pipeline := some v }⟩,
    ⟨"token", some 't', once some (·.token) fun s v => { s with token := some v }⟩,
    ⟨"resource", some 'r', once some (·.resource) fun s v => { s with resource := some v }⟩,
    ⟨"action", some 'a', once some (·.action) fun s v => { s with action := some v }⟩,
    ⟨"role", none, once (fun raw => (Role.read raw).toOption) (·.role)
      fun s v => { s with role := some v }⟩,
    ⟨"meta", some 'm', .value fun raw s => some { s with facts := s.facts ++ [raw] }⟩,
    ⟨"today", none, once Date.read? (·.today) fun s v => { s with today := some v }⟩,
    ⟨"request-id", none, once some (·.requestId) fun s v => { s with requestId := some v }⟩,
    ⟨"json", none, onceFlag (·.json) fun s => { s with json := true }⟩] ++
  standard (programName ++ "-evaluate")

/-- The switches of the command that shows the policy. -/
def showing : List (Switch ShowSettings) :=
  [⟨"json", none, onceFlag (·.json) fun s => { s with json := true }⟩] ++
  standard (programName ++ "-policy-show")

end Switch

/-- The inquiry that the settings make, when nothing is missing. -/
def InquirySettings.inquiry? (s : InquirySettings) : Option Inquiry := do
  return {
    pipeline := s.pipeline.getD .general
    token := ← s.token
    resource := ← s.resource
    action := ← s.action
    role := s.role
    facts := s.facts
    today := s.today
    requestId := s.requestId
    json := s.json }

namespace Command

/-- The command that evaluates a request. -/
def readEvaluate (args : List String) : Except Stop Command := do
  match ← Switch.scan Switch.inquiry ⟨none, none, none, none, none, [], none, none, false⟩ args with
  | (s, none) =>
    match s.inquiry? with
    | some inquiry => return .evaluate inquiry
    | none => throw .misuse
  | (_, some _) => throw .misuse

/-- The command that shows the policy. -/
def readShow (args : List String) : Except Stop Command := do
  match ← Switch.scan Switch.showing ⟨false⟩ args with
  | (s, none) => return .showPolicy s.json
  | (_, some _) => throw .misuse

/-- A command about the policy. -/
def readPolicy (args : List String) : Except Stop Command := do
  let title := programName ++ "-policy"
  match ← Switch.scan (Switch.standard title) () args with
  | (_, some ("show", args)) => readShow args
  | (_, some ("help", [])) | (_, some ("help", ["help"])) => throw (.help title)
  | (_, some ("help", ["show"])) => throw (.help (title ++ "-show"))
  | _ => throw .misuse

end Command

namespace Invocation

/-- The title of the command on which words ask for help. -/
def helpTitle? : List String → Option String
  | [] | ["help"] => some programName
  | ["evaluate"] => some (programName ++ "-evaluate")
  | ["policy"] | ["policy", "help"] => some (programName ++ "-policy")
  | ["policy", "show"] => some (programName ++ "-policy-show")
  | _ => none

/-- The command that a word and the arguments after it make. -/
def readCommand : String → List String → Except Stop Command
  | "evaluate", args => Command.readEvaluate args
  | "policy", args => Command.readPolicy args
  | "help", args =>
    match helpTitle? args with
    | some title => .error (.help title)
    | none => .error .misuse
  | _, _ => .error .misuse

/-- The invocation that the arguments make. -/
def read (args : List String) : Except Stop Invocation := do
  match ← Switch.scan Switch.common ⟨none, none, false⟩ args with
  | (s, some (word, args)) => return ⟨s.config, s.logLevel, s.debug, ← readCommand word args⟩
  | (_, none) => throw .misuse

end Invocation

end Registrar
