import Taskweave.Execution.ExecutorError

/-!
# Executor calls

A call of an executor runs on its own and ends in one of the ways of `CallEnd`. What is reported of
it is a result in every case (`CallEnd.result`): a call that panics, or that is stopped from
outside, counts as one whose executor broke down.
-/

namespace Taskweave

/-- How a call of an executor ends. -/
inductive CallEnd where
  /-- It returns. -/
  | returned (result : ExecutionResult)
  /-- It panics, with a message if the payload of the panic is a text. -/
  | panicked (message : Option String)
  /-- It is stopped before it returns. -/
  | stopped (reason : String)

namespace CallEnd

/-- The message of a panic without one. -/
def noMessage : String := "non-string panic payload"

/-- What is reported of a call that ends so. -/
def result : CallEnd → ExecutionResult
  | .returned result => result
  | .panicked message => .error (.panicked (message.getD noMessage))
  | .stopped reason => .error (.panicked reason)

end CallEnd

end Taskweave
