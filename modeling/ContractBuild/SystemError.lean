import ContractBuild.Text.Quoted

/-!
# Errors of the system

The system says why it refuses something by a number and a reason, and at times it names the path that it is about. A
process can also fail to start for a reason that comes as a text.
-/

namespace ContractBuild

/-- Why the system refuses something. -/
structure SystemError where
  number : Int
  reason : Text
  path : Option Text
deriving DecidableEq

namespace SystemError

/-- The wording of an error. -/
def message (e : SystemError) : Text :=
  let known := "[Errno " ++ Text.ofInt e.number ++ "] " ++ e.reason
  match e.path with
  | none => known
  | some path => known ++ ": " ++ path.quoted

/-- The same error about another path. -/
def about (e : SystemError) (path : Text) : SystemError := { e with path := some path }

/-- Nothing stands at the path. -/
def notFound (path : Text) : SystemError := ⟨2, "No such file or directory", some path⟩

/-- What stands at the path must not be used this way. -/
def denied (path : Text) : SystemError := ⟨13, "Permission denied", some path⟩

/-- Something stands at the path already. -/
def alreadyThere (path : Text) : SystemError := ⟨17, "File exists", some path⟩

/-- There is a file where a folder is needed. -/
def notFolder (path : Text) : SystemError := ⟨20, "Not a directory", some path⟩

/-- There is a folder where a file is needed. -/
def isFolder (path : Text) : SystemError := ⟨21, "Is a directory", some path⟩

end SystemError

/-- Why a process could not be started. -/
inductive SpawnError where
  | described (message : Text)
  | system (error : SystemError)
deriving DecidableEq

/-- The wording of an error. -/
def SpawnError.message : SpawnError → Text
  | .described t => t
  | .system e => e.message

end ContractBuild
