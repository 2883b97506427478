import Registrar.Command.Entry
import Registrar.Command.Report
import Registrar.Configuration
import Registrar.Directory
import Registrar.Policy.Loading

/-!
# Running a command

`Surroundings.run` carries out what the arguments of the process ask for.  It reads files through
its surroundings and gives back what is to be printed; a failure is told in one line, up to where
only the system or a file format can say more.

* `Surroundings.configuration`: the configuration in force.
* `Inquiry.request`: the request that the arguments describe.
-/

namespace Registrar

/-- What a process finds around it. -/
structure Surroundings (m : Type → Type) where
  /-- What stands at a path. -/
  read : String → m FileContent
  /-- The folder in which the user keeps configurations. -/
  configFolder : Option String
  /-- The variables. -/
  environment : Environment
  /-- The date of the day. -/
  today : m Date
  /-- A name that no other request has. -/
  freshId : m String

/-- What a process leaves behind. -/
structure Answer where
  /-- The code with which it ends. -/
  exitCode : UInt32
  /-- What it prints. -/
  output : String
  /-- Why it failed, when it did. -/
  failure : Option String
  deriving DecidableEq

/-- How much is logged. -/
inductive LogLevel where
  /-- Errors only. -/
  | error
  /-- Warnings too. -/
  | warn
  /-- What is done, too. -/
  | info
  /-- What helps to find faults, too. -/
  | debug
  /-- Everything. -/
  | trace
  deriving DecidableEq

namespace LogLevel

/-- The levels and their names, from the first to the fifth. -/
def all : List (LogLevel × String) :=
  [(error, "error"), (warn, "warn"), (info, "info"), (debug, "debug"), (trace, "trace")]

/-- The level with a number from one to five. -/
def numbered? (n : Nat) : Option LogLevel := if n = 0 then none else (all[n - 1]?).map (·.1)

/-- The level that digits, perhaps with a plus sign, stand for. -/
def ofDigits? : List Char → Option LogLevel
  | '+' :: cs => (Text.digits? cs).bind numbered?
  | cs => (Text.digits? cs).bind numbered?

/-- The level that a text stands for: a number from one to five, or a name in any letter case. -/
def read? (raw : String) : Option LogLevel :=
  ofDigits? raw.toList <|> (all.find? fun l => Text.sameWord raw l.2).map (·.1)

end LogLevel

namespace Inquiry

/-- The request that the arguments describe, under a name. -/
def requestNamed (q : Inquiry) (id : String) : Except EntryError Request := do
  let bare := Request.new id q.token q.resource q.action
  let acting := match q.role with
    | some role => bare.inRole role
    | none => bare
  return (← q.facts.mapM readEntry).foldl (fun r e => r.set e.1 e.2) acting

end Inquiry

namespace Surroundings

variable {m : Type → Type} [Monad m]

/-- The file with the configuration and what stands there: the given one, or the first one that
is there of the file in the working folder and the file in the folder of the user. -/
def configurationFile (s : Surroundings m) : Option String → m (Option (String × FileContent))
  | some path => return some (path, ← s.read path)
  | none => do
    match ← s.read "config/coursegate.yaml" with
    | .absent =>
      match s.configFolder with
      | some folder =>
        let path := folder ++ "/coursegate/config.yaml"
        match ← s.read path with
        | .absent => return none
        | content => return some (path, content)
      | none => return none
    | content => return some ("config/coursegate.yaml", content)

/-- The configuration in a file. -/
def configurationIn : Option (String × FileContent) → Except String Configuration
  | none => .ok .blank
  | some (path, .absent) => .error ("Config file not found: " ++ path)
  | some (path, .unreadable) => .error ("Failed to read config file " ++ path)
  | some (path, .text content) =>
    match Configuration.read? content with
    | some c => .ok c
    | none => .error ("Failed to parse config file " ++ path)

/-- The configuration in force. -/
def configuration (s : Surroundings m) (given : Option String) :
    ExceptT String m Configuration := do
  let file ← s.configurationFile given
  let c ← configurationIn file
  return c.override s.environment

/-- The policy in force. -/
def policy (s : Surroundings m) (c : Configuration) : ExceptT String m Tables := do
  let files ← c.policyPaths.mapM fun path => (s.read path : m FileContent)
  match Tables.load files (some s.environment) with
  | .ok t => return t
  | .error e => throw ("Failed to load policy tables: " ++ e.message)

/-- The roster in the directory file. -/
def roster (s : Surroundings m) (c : Configuration) : ExceptT String m Roster := do
  match c.directoryPath with
  | none => return .empty
  | some path =>
    match Roster.load (← s.read path) with
    | .ok r => return r
    | .error e =>
      throw ("Failed to load directory " ++ path ++ (e.message?.map (": " ++ ·)).getD "")

/-- A request is evaluated. -/
def evaluate (s : Surroundings m) (c : Configuration) (q : Inquiry) : ExceptT String m Answer := do
  let tables ← s.policy c
  let roster ← s.roster c
  let id ← match q.requestId with
    | some id => pure id
    | none => (s.freshId : m String)
  let request ← (q.requestNamed id).mapError EntryError.message
  let today ← match q.today with
    | some date => pure date
    | none => (s.today : m Date)
  let service : Service := ⟨tables, roster.records, today⟩
  let case ← ((service.evaluate q.pipeline (.ofRequest request)).result.mapError RunError.message)
  let d := Decision.ofCase case
  return ⟨d.exitCode, if q.json then d.jsonReport else d.report q.pipeline, none⟩

/-- The policy is shown. -/
def showPolicy (s : Surroundings m) (c : Configuration) (json : Bool) :
    ExceptT String m Answer := do
  let tables ← s.policy c
  return ⟨0, if json then tables.jsonReport c.policyPaths else tables.report, none⟩

/-- The invocation is carried out. -/
def perform (s : Surroundings m) (i : Invocation) : ExceptT String m Answer := do
  let c ← s.configuration i.config
  let level := (i.logLevel <|> c.logLevel).getD "warn"
  if !i.debug && (LogLevel.read? level).isNone then throw "Invalid log level:"
  match i.command with
  | .evaluate inquiry => s.evaluate c inquiry
  | .showPolicy json => s.showPolicy c json

/-- What is printed when no command is carried out. -/
def answerStop : Stop → Answer
  | .misuse => ⟨2, "", some "the arguments make no command; --help says what there is"⟩
  | .version title => ⟨0, title ++ " " ++ programVersion ++ "\n", none⟩
  | .help title => ⟨0, "Usage: " ++ title.replace "-" " " ++ " [OPTIONS]\n", none⟩

/-- What the process does when it is called with arguments. -/
def run (s : Surroundings m) (args : List String) : m Answer := do
  match Invocation.read args with
  | .error stop => return answerStop stop
  | .ok invocation =>
    match ← (s.perform invocation).run with
    | .ok answer => return answer
    | .error message => return ⟨1, "", some message⟩

end Surroundings

end Registrar
