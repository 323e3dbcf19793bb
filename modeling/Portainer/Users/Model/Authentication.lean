import Portainer.Users.Model.Services
/-!
# Logins — passwords, directories and providers

The handlers of `handler/auth`. Each of them ends by signing a token that
says what the database says about the user at that moment. A directory and
a provider bring along users that the database does not know yet.
-/

namespace Portainer

namespace Users

open HandlerError (internalServerError badRequest forbidden)

variable (services : Services)

/-- `composeTokenData`. -/
def composeTokenData (user : User) : TokenData := ⟨user.id, user.username, user.role⟩

/-- `writeToken` and `writeTokenForOAuth`. -/
def writeToken (user : User) : Handler Server TokenData := do
  (generateToken (composeTokenData user)).mapError
    (internalServerError "Unable to generate JWT token")
  return composeTokenData user

/-- The answer to credentials that are not right. -/
def invalidCredentials (err : String) : HandlerError := ⟨422, "Invalid credentials", err⟩

/-! ## Passwords and directories -/

/-- `authenticateInternal`. -/
def authenticateInternal (user : User) (password : String) : Handler Server TokenData := do
  .require (services.compareHashAndPassword user.password password = true)
    (invalidCredentials errUnauthorized)
  writeToken user

/-- `teamExists`. -/
def teamExists (teamName : String) (ldapGroups : List String) : Bool :=
  ldapGroups.any fun group => services.toLower group = services.toLower teamName

/-- `teamMembershipExists`. -/
def teamMembershipExists (teamID : TeamID) (memberships : List TeamMembership) : Bool :=
  memberships.any fun m => m.teamID = teamID

/-- One turn of the loop over the teams. -/
def addIntoTeam (user : User) (userGroups : List String) (userMemberships : List TeamMembership)
    (team : Team) : Fallible Server Unit :=
  if teamExists services team.name userGroups ∧ ¬ teamMembershipExists team.id userMemberships then do
    let _ ← createTeamMembership { id := 0, userID := user.id, teamID := team.id, role := .teamMember }
    return ()
  else pure ()

/-- `addUserIntoTeams`, with the groups that the directory answers. -/
def addUserIntoTeams (user : User) (userGroups : List String) : Fallible Server Unit := do
  let teams ← Server.team.getAll
  .call .ldapService id
  let userMemberships ← Server.teamMembershipsByUserID user.id
  teams.forM (addIntoTeam services user userGroups userMemberships)

/-- `authenticateLDAP`. The directory says no by a fault. -/
def authenticateLDAP (user : User) (password : String) (userGroups : List String) :
    Handler Server TokenData := do
  match ← (Action.call .ldapService id).attempt with
  | .error _ => authenticateInternal services user password
  | .ok _ => do
    -- a failure is only logged
    let _ ← (addUserIntoTeams services user userGroups).attempt
    writeToken user

/-- `authenticateLDAPAndCreateUser`. -/
def authenticateLDAPAndCreateUser (username : String) (userGroups : List String) :
    Handler Server TokenData := do
  Action.mapError invalidCredentials (.call .ldapService id)
  let user ← (createUser services { id := 0, username := username, role := .standardUser }).mapError
    (internalServerError "Unable to persist user inside the database")
  let _ ← (addUserIntoTeams services user userGroups).attempt
  writeToken user

structure AuthenticatePayload where
  username : String
  password : String

def AuthenticatePayload.validate (payload : AuthenticatePayload) : Except String Unit :=
  if payload.username = "" then .error "Invalid username"
  else if payload.password = "" then .error "Invalid password"
  else .ok ()

/-- `authenticate`, with the groups that the directory answers. -/
def authenticate (payload : AuthenticatePayload) (userGroups : List String) :
    Handler Server TokenData := do
  Action.mapError (badRequest "Invalid request payload") (.ofExcept payload.validate)
  let settings ← Server.getSettings.mapError
    (internalServerError "Unable to retrieve settings from the database")
  let user ← (userByUsername services payload.username).mapError
    (internalServerError "Unable to retrieve a user with the specified username from the database")
  match settings.authenticationMethod, user with
  | .ldap, some user => authenticateLDAP services user payload.password userGroups
  | .ldap, none =>
    if settings.ldapSettings.autoCreateUsers then
      authenticateLDAPAndCreateUser services payload.username userGroups
    else .fail (invalidCredentials errUnauthorized)
  | _, some user => authenticateInternal services user payload.password
  | _, none => .fail (invalidCredentials errUnauthorized)

/-! ## Providers -/

/-- The user that a provider brings along, in the default team if there is
one. -/
def createOAuthUser (username : String) (defaultTeamID : TeamID) : Handler Server User := do
  let user ← (createUser services { id := 0, username := username, role := .standardUser }).mapError
    (internalServerError "Unable to persist user inside the database")
  if defaultTeamID ≠ 0 then do
    let _ ← (createTeamMembership
        { id := 0, userID := user.id, teamID := defaultTeamID, role := .teamMember }).mapError
      (internalServerError "Unable to persist team membership inside the database")
    return user
  else return user

/-- `validateOAuth`, with the name that the provider answers. -/
def validateOAuth (code : String) (username : String) : Handler Server TokenData := do
  .require (code ≠ "") (badRequest "Invalid request payload" "Invalid OAuth authorization code")
  let settings ← Server.getSettings.mapError
    (internalServerError "Unable to retrieve settings from the database")
  .require (settings.authenticationMethod = .oauth)
    (forbidden "OAuth authentication is not enabled" "OAuth authentication is not enabled")
  Action.mapError (fun _ => internalServerError "Unable to authenticate through OAuth" errUnauthorized)
    (.call .oauthService id)
  let user ← (userByUsername services username).mapError
    (internalServerError "Unable to retrieve a user with the specified username from the database")
  match user with
  | some user => writeToken user
  | none => do
    .require (settings.oauthSettings.oauthAutoCreateUsers = true)
      (forbidden ("Account not created beforehand in Portainer " ++
        "and automatic user provisioning not enabled") errUnauthorized)
    let user ← createOAuthUser services username settings.oauthSettings.defaultTeamID
    writeToken user

end Users

end Portainer
