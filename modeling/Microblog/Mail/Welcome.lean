/-!
# The welcome mail

What a user is sent on registration: a greeting and the link that activates the
account.
-/

namespace Microblog.Mail

/-- The values that a mail is written with. -/
structure Vars where
  username : String
  activationUrl : String
  deriving DecidableEq, Repr

/-- The one kind of mail there is. -/
inductive Template where
  | userWelcome
  deriving DecidableEq, Repr

namespace Template

def name : Template → String
  | userWelcome => "UserWelcome"

def subject : Template → String
  | userWelcome => "Finish registration with Social"

/-- The text in HTML. -/
def body (v : Vars) : Template → String
  | userWelcome =>
    "<p>Hi " ++ v.username ++ ",</p>" ++
    "<p>Thanks for signing up. Confirm your email to activate your account:</p>" ++
    "<p><a href=\"" ++ v.activationUrl ++ "\">" ++ v.activationUrl ++ "</a></p>" ++
    "<p>If you did not sign up you can ignore this email.</p>"

end Template

end Microblog.Mail
