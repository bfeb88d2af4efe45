import AdmissionControl.Decision
import AdmissionControl.Table

namespace AdmissionControl

/-- A cancellation token. A token that was made from another is cancelled with it. -/
structure Token where
  cancelled : Bool := false
  parent : Option (Ref Token) := none
  deriving Inhabited

namespace Token

/-- Whether a token or one that it comes from is cancelled. A token comes only from earlier ones,
so that as many steps as there are tokens reach the first. -/
def isCancelledWithin (tokens : Table Token) : Nat → Ref Token → Bool
  | 0, ref => (tokens.get ref).cancelled
  | steps + 1, ref =>
    let token := tokens.get ref
    token.cancelled || match token.parent with
      | some parent => isCancelledWithin tokens steps parent
      | none => false

def isCancelled (tokens : Table Token) (ref : Ref Token) : Bool :=
  isCancelledWithin tokens tokens.size ref

end Token

/-- What is known about a request. The deadline is a moment in milliseconds. -/
structure Context where
  key : Option String := none
  deadline : Option Nat := none
  token : Option (Ref Token) := none
  deriving DecidableEq, Inhabited

/-- Why the caller of a request has gone already, if it has. -/
def Context.abandoned? (context : Context) (tokens : Table Token) (now : Nat) : Option Reason :=
  if context.token.any (Token.isCancelled tokens) then some .cancelled
  else if context.deadline.any (· ≤ now) then some .deadlineExceeded
  else none

end AdmissionControl
