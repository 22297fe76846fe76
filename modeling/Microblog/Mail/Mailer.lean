import Microblog.Mail.Welcome

/-!
# Mailers

A mailer takes a mail and says whether it could be handed over. One fails
always, one takes every mail and drops it, and one keeps what it takes.
-/

namespace Microblog.Mail

/-- Why a mail was not delivered. -/
inductive Fault where
  /-- The provider could not be reached. -/
  | unreachable
  | rejected (status : Nat)
  | exhausted (attempts : Nat)
  deriving DecidableEq, Repr

def Fault.message : Fault → String
  | unreachable => "mail transport failed"
  | rejected status => "mail provider rejected the message with status " ++ toString status
  | exhausted attempts => "mail not delivered after " ++ toString attempts ++ " attempts"

/-- A mail to be sent; in a sandbox it is checked but not delivered. -/
structure Message where
  template : Template
  email : String
  vars : Vars
  sandbox : Bool
  deriving DecidableEq, Repr

inductive Mailer where
  | failing
  | discarding
  | recording (sent : List Message)
  deriving DecidableEq, Repr

namespace Mailer

/-- Hands over a mail. -/
def send (m : Message) : Mailer → Except Fault Unit × Mailer
  | failing => (.error (.exhausted 3), failing)
  | discarding => (.ok (), discarding)
  | recording sent => (.ok (), recording (sent ++ [m]))

/-- The mails that have been kept, oldest first. -/
def sent : Mailer → List Message
  | recording sent => sent
  | _ => []

end Mailer

end Microblog.Mail
