import Portainer.Common.Machine
import Portainer.Users.Model.Authentication
import Portainer.Users.Model.Teams
import Portainer.Users.Model.Users
/-!
# Requests — users, teams and logins as one machine

A request with the token it carries, and an attempt with the outcomes of
the calls it makes. Logins and the creation of the first administrator are
public, a user's own changes need a token, and everything else needs the
token of an administrator.
-/

namespace Portainer

namespace Users

/-- A request to one of the handlers. What a directory or a provider
answers comes with the request. -/
inductive Request
  | adminInit (payload : AdminInitPayload)
  | authenticate (payload : AuthenticatePayload) (userGroups : List String)
  | validateOAuth (code username : String)
  | userCreate (payload : UserCreatePayload)
  | userUpdate (id : UserID) (payload : UserUpdatePayload)
  | userUpdatePassword (id : UserID) (payload : UserUpdatePasswordPayload)
  | userDelete (id : UserID)
  | teamCreate (name : String)
  | teamUpdate (id : TeamID) (name : String)
  | teamDelete (id : TeamID)
  | teamMembershipCreate (payload : TeamMembershipPayload)
  | teamMembershipUpdate (id : TeamMembershipID) (payload : TeamMembershipPayload)
  | teamMembershipDelete (id : TeamMembershipID)
  | settingsUpdate (payload : SettingsUpdatePayload)

/-- A handler behind a check, for what it does to the store. -/
def behind {α : Type} (access : Handler Server RequestContext)
    (handler : RequestContext → Handler Server α) : Handler Server Unit := do
  let context ← access
  let _ ← handler context

/-- A public handler. -/
def publicAccess {α : Type} (handler : Handler Server α) : Handler Server Unit := do
  let _ ← handler

/-- The handler of a request with a token, behind its check. -/
def handle (services : Services) (token : Option TokenData) (salt : String) :
    Request → Handler Server Unit
  | .adminInit payload => publicAccess (adminInit services salt payload)
  | .authenticate payload userGroups => publicAccess (authenticate services payload userGroups)
  | .validateOAuth code username => publicAccess (validateOAuth services code username)
  | .userCreate payload =>
    behind (adminAccess token) fun context => userCreate services salt context.restricted payload
  | .userUpdate id payload => behind (authenticatedAccess token) fun context =>
    userUpdate services salt context.tokenData id payload
  | .userUpdatePassword id payload => behind (authenticatedAccess token) fun context =>
    userUpdatePassword services salt context.tokenData id payload
  | .userDelete id => behind (adminAccess token) fun context => userDelete context.tokenData id
  | .teamCreate name => behind (adminAccess token) fun _ => teamCreate services name
  | .teamUpdate id name => behind (adminAccess token) fun _ => teamUpdate id name
  | .teamDelete id => behind (adminAccess token) fun _ => teamDelete id
  | .teamMembershipCreate payload =>
    behind (adminAccess token) fun context => teamMembershipCreate context.restricted payload
  | .teamMembershipUpdate id payload =>
    behind (adminAccess token) fun context => teamMembershipUpdate context.restricted id payload
  | .teamMembershipDelete id =>
    behind (adminAccess token) fun context => teamMembershipDelete context.restricted id
  | .settingsUpdate payload => behind (adminAccess token) fun _ => settingsUpdate payload

/-- A request with its token, the salt that its hash draws and the outcomes
of its calls. -/
structure Attempt where
  request : Request
  token : Option TokenData := none
  salt : String := ""
  faults : Callee → List (Option String) := fun _ => []

/-- The system an attempt starts in. -/
def Attempt.sys (a : Attempt) (s : Server) : Sys Callee Server := ⟨s, a.faults⟩

/-- The request carries a token of an administrator. -/
def Attempt.ByAdministrator (a : Attempt) : Prop :=
  ∃ t, a.token = some t ∧ t.role = .administrator

/-- **The server under requests**, which succeed or fail. -/
def machine (services : Services) : Machine Server Attempt where
  step s a := some ((handle services a.token a.salt a.request).run (a.sys s)).2.store

end Users

end Portainer
