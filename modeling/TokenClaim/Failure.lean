/-!
A failure as it is told to a user: what could not be done, and the causes behind it.
-/

set_option autoImplicit false

namespace TokenClaim

structure Failure where
  message : String
  /-- The nearest cause first. -/
  causes : List String
  deriving DecidableEq

namespace Failure

def of (message : String) : Failure := ⟨message, []⟩

def within (message : String) (failure : Failure) : Failure :=
  ⟨message, failure.message :: failure.causes⟩

def inline (failure : Failure) : String :=
  String.intercalate ": " (failure.message :: failure.causes)

/-- Each cause on a line of its own; several causes are numbered from zero. -/
def report (failure : Failure) : String :=
  match failure.causes with
  | [] => failure.message
  | [cause] => failure.message ++ "\n\nCaused by:\n    " ++ cause
  | causes =>
    failure.message ++ "\n\nCaused by:" ++
      String.join (causes.zipIdx.map fun (cause, index) => s!"\n    {index}: {cause}")

end Failure

end TokenClaim
