import Microblog.Service.App
import Microblog.Text.Utf8

/-!
# Authentication

A member sends a bearer token, an operator sends a name and a password. Whatever
is wrong with a bearer token, the client is told no more than that it is not
authorised.
-/

namespace Microblog.Service

open Account Http

namespace App

/-- The user id that the bearer token of a request stands for. -/
def bearer? (app : App) (headers : Headers) (o : Occasion) : Option Int64 :=
  match authorization headers "Bearer" with
  | .error _ => none
  | .ok token =>
    match app.authority.verify o.unix token with
    | .error _ => none
    | .ok claims => claims.userId.toOption

/-- The user who sends a request. -/
def authenticate (headers : Headers) (o : Occasion) (app : App) : Except Refusal User × App :=
  match app.bearer? headers o with
  | none => (.error .unauthorized, app)
  | some id =>
    match app.resolve id o.instant with
    | (.error _, app) => (.error .unauthorized, app)
    | (.ok user, app) => (.ok user, app)

/-- The text in the basic credentials of a request. -/
def basicText? (headers : Headers) : Option String :=
  match authorization headers "Basic" with
  | .error _ => none
  | .ok encoded =>
    (Bytes.Base64.decodePadded? .standard encoded.toList).bind Text.Utf8.decode?

/-- Whether a text is a name and a password with a colon between them. -/
def isPair (user password text : String) : Bool :=
  match Text.cutAt (· == ':') text.toList with
  | none => false
  | some (u, p) => u == user.toList && p == password.toList

/-- Refuses a request that is not the operator's. Without both a configured name and a configured
password nobody is the operator. -/
def demandOperator (app : App) (headers : Headers) : Except Refusal Unit :=
  let basic := app.config.basicAuth
  match basicText? headers with
  | none => .error .unauthorizedBasic
  | some text =>
    if basic.user = "" ∨ basic.password = "" then .error .internal
    else if isPair basic.user basic.password text then .ok ()
    else .error .unauthorizedBasic

end App

end Microblog.Service
