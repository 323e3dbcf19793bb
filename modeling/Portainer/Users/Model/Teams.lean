import Portainer.Users.Model.Services
/-!
# Teams and memberships — create, update, delete

The handlers of `handler/teams` and `handler/teammemberships` that write,
and `settingsUpdate` for the settings that logins depend on.
-/

namespace Portainer

namespace Users

open HandlerError (internalServerError ofLookup badRequest forbidden)

variable (services : Services)

/-! ## Teams -/

/-- `teamCreate`, with the name of the payload. -/
def teamCreate (name : String) : Handler Server Team := do
  .require (name ≠ "") (badRequest "Invalid request payload" "Invalid team name")
  let team ← (teamByName services name).mapError
    (internalServerError "Unable to retrieve teams from the database")
  .require (team = none)
    ⟨409, "A team with the same name already exists", "Team already exists"⟩
  let id ← (Server.team.createObject fun id => { id := id, name := name }).mapError
    (internalServerError "Unable to persist the team inside the database")
  return { id := id, name := name }

/-- `teamUpdate`, with the name of the payload. -/
def teamUpdate (teamID : TeamID) (name : String) : Handler Server Team := do
  let team ← (Server.team.getObject teamID).mapError
    (ofLookup "Unable to find a team with the specified identifier inside the database")
  let updated : Team := { team with name := if name ≠ "" then name else team.name }
  (Server.team.updateObject updated).mapError fun err =>
    ⟨404, "Unable to persist team changes inside the database", err⟩
  return updated

/-- `updateDefaultTeamIfDeleted`. -/
def updateDefaultTeamIfDeleted (teamID : TeamID) : Fallible Server Unit := do
  let settings ← Server.getSettings.mapError fun err => "failed to fetch settings: " ++ err
  if teamID ≠ settings.oauthSettings.defaultTeamID then pure ()
  else
    (Server.updateSettings
        { settings with oauthSettings := { settings.oauthSettings with defaultTeamID := 0 } }).mapError
      fun err => "failed to update settings: " ++ err

def teamDelete (teamID : TeamID) : Handler Server Unit := do
  let _ ← (Server.team.getObject teamID).mapError
    (ofLookup "Unable to find a team with the specified identifier inside the database")
  (Server.team.deleteObject teamID).mapError
    (internalServerError "Unable to delete the team from the database")
  (deleteTeamMembershipsWhere fun m => m.teamID = teamID).mapError
    (internalServerError "Unable to delete associated team memberships from the database")
  (updateDefaultTeamIfDeleted teamID).mapError (internalServerError "Unable to reset default team")

/-! ## Memberships -/

/-- `portainer.MembershipRole` of a number that was validated: 1 or 2. -/
def membershipRole (role : Int) : MembershipRole := if role = 1 then .teamLeader else .teamMember

/-- `teamMembershipCreatePayload` and `teamMembershipUpdatePayload`. -/
structure TeamMembershipPayload where
  userID : Int
  teamID : Int
  role : Int

def TeamMembershipPayload.validate (payload : TeamMembershipPayload) : Except String Unit :=
  if payload.userID = 0 then .error "Invalid UserID"
  else if payload.teamID = 0 then .error "Invalid TeamID"
  else if payload.role ≠ 1 ∧ payload.role ≠ 2 then
    .error "Invalid role value. Value must be one of: 1 (leader) or 2 (member)"
  else .ok ()

def teamMembershipCreate (securityContext : RestrictedRequestContext)
    (payload : TeamMembershipPayload) : Handler Server TeamMembership := do
  Action.mapError (badRequest "Invalid request payload") (.ofExcept payload.validate)
  .require (authorizedTeamManagement payload.teamID securityContext = true)
    (forbidden "Permission denied to manage team memberships" errResourceAccessDenied)
  let memberships ← (Server.teamMembershipsByUserID payload.userID).mapError
    (internalServerError "Unable to retrieve team memberships from the database")
  .require (∀ m ∈ memberships, ¬ (m.userID = payload.userID ∧ m.teamID = payload.teamID))
    ⟨409, "Team membership already registered",
      "Team membership already exists for this user and team"⟩
  (createTeamMembership
      { id := 0
        userID := payload.userID
        teamID := payload.teamID
        role := membershipRole payload.role }).mapError
    (internalServerError "Unable to persist team memberships inside the database")

def teamMembershipUpdate (securityContext : RestrictedRequestContext) (membershipID : TeamMembershipID)
    (payload : TeamMembershipPayload) : Handler Server TeamMembership := do
  Action.mapError (badRequest "Invalid request payload") (.ofExcept payload.validate)
  .require (authorizedTeamManagement payload.teamID securityContext = true)
    (forbidden "Permission denied to update the membership" errResourceAccessDenied)
  let membership ← (Server.teamMembership.getObject membershipID).mapError
    (ofLookup "Unable to find a team membership with the specified identifier inside the database")
  .require (¬ (securityContext.isTeamLeader ∧ membership.role ≠ membershipRole payload.role))
    (forbidden "Permission denied to update the role of membership" errResourceAccessDenied)
  let updated : TeamMembership :=
    { membership with
      userID := payload.userID
      teamID := payload.teamID
      role := membershipRole payload.role }
  (Server.teamMembership.updateObject updated).mapError
    (internalServerError "Unable to persist membership changes inside the database")
  return updated

def teamMembershipDelete (securityContext : RestrictedRequestContext)
    (membershipID : TeamMembershipID) : Handler Server Unit := do
  let membership ← (Server.teamMembership.getObject membershipID).mapError
    (ofLookup "Unable to find a team membership with the specified identifier inside the database")
  .require (authorizedTeamManagement membership.teamID securityContext = true)
    (forbidden "Permission denied to delete the membership" errResourceAccessDenied)
  (Server.teamMembership.deleteObject membershipID).mapError
    (internalServerError "Unable to remove the team membership from the database")

/-! ## Settings -/

/-- `settingsUpdatePayload`: `none` for what is absent. -/
structure SettingsUpdatePayload where
  blackListedLabels : Option (List Pair) := none
  authenticationMethod : Option Int := none
  ldapSettings : Option LDAPSettings := none
  oauthSettings : Option OAuthSettings := none

def SettingsUpdatePayload.validate (payload : SettingsUpdatePayload) : Except String Unit :=
  if ∃ m ∈ payload.authenticationMethod, m ≠ 1 ∧ m ≠ 2 ∧ m ≠ 3 then
    .error ("Invalid authentication method value. " ++
      "Value must be one of: 1 (internal), 2 (LDAP/AD) or 3 (OAuth)")
  else .ok ()

/-- `portainer.AuthenticationMethod` of a number that was validated. -/
def authenticationMethod (method : Int) : AuthenticationMethod :=
  if method = 1 then .internal else if method = 2 then .ldap else .oauth

def settingsUpdate (payload : SettingsUpdatePayload) : Handler Server Settings := do
  Action.mapError (badRequest "Invalid request payload") (.ofExcept payload.validate)
  let settings ← Server.getSettings.mapError
    (internalServerError "Unable to retrieve the settings from the database")
  let updated : Settings :=
    { blackListedLabels := payload.blackListedLabels <|> settings.blackListedLabels
      authenticationMethod :=
        (payload.authenticationMethod.map authenticationMethod).getD settings.authenticationMethod
      ldapSettings := payload.ldapSettings.getD settings.ldapSettings
      oauthSettings := payload.oauthSettings.getD settings.oauthSettings }
  (Server.updateSettings updated).mapError
    (internalServerError "Unable to persist settings changes inside the database")
  return updated

end Users

end Portainer
