import Registrar.Credential
import Registrar.Stage.Basic

/-!
# Who is asking

The first stage of every pipeline finds the subject to whom the token belongs, and notes who it
is.  The request keeps a role that it has already.
-/

namespace Registrar

/-- The request with the subject's role and what is known about the subject. -/
def Request.identify (r : Request) (s : Subject) : Request :=
  ((((r.claimRole s.role).note .subjectId (.int s.id.toInt)).note .subjectName
    (.string s.name)).note .subjectEmail (.string s.email))

namespace Stage

/-- Finds the subject. -/
def identity (records : Records) : Stage where
  name := "token"
  handle r :=
    match Credential.read? r.token with
    | none => pure (.reject r .invalidToken "missing or malformed subject token")
    | some token => do
      match ← Consult.ask "token" (.subject token) (records.subject token) with
      | some subject => return .proceed (r.identify subject)
      | none => return .reject r .invalidToken "token does not resolve to a known subject"

end Stage

end Registrar
