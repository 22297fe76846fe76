import Microblog.Json.Value
import Microblog.Mail.Mailer

/-!
# The mail provider

Mails are posted to a provider as JSON. An attempt that fails is repeated after
a pause, which is one second longer each time; after the last one the mail is
given up.
-/

namespace Microblog.Mail.Provider

/-- Where mails are posted. -/
def url : String := "https://api.sendgrid.com/v3/mail/send"

/-- The name under which mails are sent. -/
def fromName : String := "Social"

/-- How often delivery is attempted. -/
def maxAttempts : Nat := 3

/-- What is posted. -/
def payload (sender subject body username email : String) (sandbox : Bool) : Json.Value :=
  .object [
    ("personalizations", .array [.object [
      ("to", .array [.object [("email", .string email), ("name", .string username)]])]]),
    ("from", .object [("email", .string sender), ("name", .string fromName)]),
    ("subject", .string subject),
    ("content", .array [.object [("type", .string "text/html"), ("value", .string body)]]),
    ("mail_settings", .object [("sandbox_mode", .object [("enable", .bool sandbox)])])]

/-- The outcome of a delivery and the seconds waited for it. -/
structure Delivery where
  outcome : Except Fault Unit
  waited : Nat

/-- Makes the attempts that are left, given how each one ends. -/
def attemptFrom (ends : Nat → Except Fault Unit) (n waited : Nat) : (left : Nat) → Delivery
  | 0 => ⟨.error (.exhausted maxAttempts), waited⟩
  | left + 1 =>
    match ends n with
    | .ok () => ⟨.ok (), waited⟩
    | .error _ => attemptFrom ends (n + 1) (if left = 0 then waited else waited + n) left

/-- Delivers a mail, given how each attempt ends; attempts are numbered from 1. -/
def deliver (ends : Nat → Except Fault Unit) : Delivery := attemptFrom ends 1 0 maxAttempts

/-- How every attempt ends at a provider that cannot be reached. -/
def down : Nat → Except Fault Unit := fun _ => .error .unreachable

end Microblog.Mail.Provider
