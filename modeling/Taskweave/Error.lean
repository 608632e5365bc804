import Taskweave.Time.Duration

/-!
# Errors

`Error` lists the causes for which an operation of the library is refused. `Error.message` is the
text shown for one; `Error.chain` continues with the causes beneath it, outermost first.
-/

namespace Taskweave

/-- What the operating system refuses. -/
inductive OsFault where
  | noSuchFile
  | argumentsTooLong
  | exists
  | notADirectory
  | isADirectory
  | invalidArgument
  | nameTooLong
  /-- A path with a NUL in it, refused before the system sees it. -/
  | nulInPath
  /-- A file whose bytes are no UTF-8. -/
  | notUtf8
  /-- A NUL in what is handed to a process, refused before the system sees it. -/
  | nulInData
deriving DecidableEq, Repr

/-- The text for a fault, with the system's number where it has one. -/
def OsFault.message : OsFault → String
  | .noSuchFile => "No such file or directory (os error 2)"
  | .argumentsTooLong => "Argument list too long (os error 7)"
  | .exists => "File exists (os error 17)"
  | .notADirectory => "Not a directory (os error 20)"
  | .isADirectory => "Is a directory (os error 21)"
  | .invalidArgument => "Invalid argument (os error 22)"
  | .nameTooLong => "File name too long (os error 36)"
  | .nulInPath => "file name contained an unexpected NUL byte"
  | .notUtf8 => "stream did not contain valid UTF-8"
  | .nulInData => "nul byte found in provided data"

/-- Why a configuration is refused. -/
inductive ConfigFault where
  | noTasks
  | zeroWorkflowLimit
  | pollInterval (fault : DurationFault)
  | emptyCommand (role : String)
  | invalidPattern (role : String)
  | roleTimeout (role : String) (fault : DurationFault)
  | unknownRole (task role : String)
  | selfDependency (task : String)
  | unknownDependency (task dependency : String)
  | zeroLimit
  | duration (fault : DurationFault)
  | invalidPath (path : String)
  | updatesNotObject
deriving DecidableEq, Repr

/-- The explanation of a fault. -/
def ConfigFault.message : ConfigFault → String
  | .noTasks => "workflow must contain at least one [task.<id>] section"
  | .zeroWorkflowLimit => "[config].max_concurrency must be >= 1 (got 0)"
  | .pollInterval fault => "[config].poll_interval: " ++ fault.message
  | .emptyCommand role => "role '" ++ role ++ "' has an empty cmd"
  | .invalidPattern role => "role '" ++ role ++ "' has invalid fail_on_stdout regex"
  | .roleTimeout role fault => "role '" ++ role ++ "' timeout: " ++ fault.message
  | .unknownRole task role => "task '" ++ task ++ "' uses unknown role '" ++ role ++ "'"
  | .selfDependency task => "task '" ++ task ++ "' cannot depend on itself in `after`"
  | .unknownDependency task dependency =>
    "task '" ++ task ++ "' has unknown dependency '" ++ dependency ++ "' in `after`"
  | .zeroLimit => "max_concurrency must be >= 1 (got 0)"
  | .duration fault => fault.message
  | .invalidPath path => "invalid store path '" ++ path ++ "'"
  | .updatesNotObject => "role state updates must be a JSON object"

/-- Why an operation is refused. -/
inductive Error where
  | unknownRole (role : String)
  | duplicateTask (id : String)
  | duplicateRole (role : String)
  | notFound (key : String)
  | config (fault : ConfigFault)
  /-- The `after` lists have a cycle; `task` lies on it. -/
  | cycle (task : String)
  | io (fault : OsFault)
  | toml
  | json
  /-- Any other fault: a message and the messages beneath it. -/
  | other (message : String) (causes : List String)
deriving DecidableEq, Repr

namespace Error

/-- The text shown for an error. -/
def message : Error → String
  | .unknownRole role => "Unknown role: " ++ role
  | .duplicateTask id => "Duplicate task id: " ++ id
  | .duplicateRole role => "Role already registered: " ++ role
  | .notFound key => "Not found: " ++ key
  | .config fault => "Configuration error: " ++ fault.message
  | .cycle task =>
    "Cycle detected in workflow: cycle detected in task graph involving task '" ++ task ++ "'"
  | .io fault => "IO error: " ++ fault.message
  | .toml => "TOML parsing error"
  | .json => "JSON error"
  | .other message _ => message

/-- The message and the messages of the causes beneath it. -/
def chain : Error → List String
  | .io fault => [(Error.io fault).message, fault.message]
  | .other message causes => message :: causes
  | e => [e.message]

end Error

end Taskweave
