import ContractBuild.Session.Basic
import ContractBuild.Settings.Error

/-!
# Failures

Running cargo can fail for reasons that are no result of a build: settings that cannot be used, a message that cannot be
taken, or output that cannot be read.
-/

namespace ContractBuild.Cargo

/-- Why the running of cargo is given up. -/
inductive Failure where
  | settings (error : Settings.Error)
  | session (error : Session.Error)
  | output (fault : Utf8.Fault)

/-- The wording of a failure. -/
def Failure.message : Failure → Text
  | .settings e => e.message
  | .session e => e.text
  | .output f => f.message

end ContractBuild.Cargo
