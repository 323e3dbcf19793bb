import Portainer.Model.Server
/-!
# The bouncer — who a request is from

The middleware of `http/security`. A request names its user by a token,
which carries the identifier, the name and the role that the user had when
it was signed. The bouncer checks the token, then asks the database whether
the user exists, and takes the role from the token.
-/

namespace Portainer

open HandlerError (internalServerError)

/-- `ErrUnauthorized`. -/
def errUnauthorized : String := "Unauthorized"

/-- `ErrResourceAccessDenied`. -/
def errResourceAccessDenied : String := "Access denied to resource"

/-- `errInvalidJWTToken`. -/
def errInvalidJWTToken : String := "Invalid JWT token"

/-- `RestrictedRequestContext`. -/
structure RestrictedRequestContext where
  isAdmin : Bool
  userID : UserID
  userMemberships : List TeamMembership := []
  isTeamLeader : Bool := false

/-- `newRestrictedContextRequest`. -/
def newRestrictedContextRequest (userID : UserID) (userRole : UserRole) :
    Fallible Server RestrictedRequestContext :=
  if userRole = .administrator then pure { isAdmin := true, userID := userID }
  else do
    let memberships ← Server.teamMembershipsByUserID userID
    return {
      isAdmin := false
      userID := userID
      userMemberships := memberships
      isTeamLeader := memberships.any fun m => m.role = .teamLeader }

/-- `RetrieveTokenData`, of a request that carries it or not. -/
def retrieveTokenData (tokenData : Option TokenData) : Except String TokenData :=
  match tokenData with
  | some tokenData => .ok tokenData
  | none => .error "Unable to find JWT data in request context"

/-- `AuthorizedTeamManagement`. -/
def authorizedTeamManagement (teamID : TeamID) (context : RestrictedRequestContext) : Bool :=
  context.isAdmin ||
    context.userMemberships.any fun m => m.teamID = teamID && m.role = .teamLeader

/-! ## Tokens -/

/-- `GenerateToken` and `GenerateTokenForOAuth`: the token is as good as
what it says. -/
def generateToken (tokenData : TokenData) : Fallible Server Unit :=
  .call .jwtService fun s => { s with issuedTokens := tokenData :: s.issuedTokens }

/-- `ParseAndVerifyToken`. A token that has expired is a fault. -/
def parseAndVerifyToken (token : TokenData) : Fallible Server TokenData :=
  .lookup .jwtService errInvalidJWTToken fun s =>
    if token ∈ s.issuedTokens then some token else none

/-! ## Middleware -/

/-- What the bouncer stores in the context of a request. -/
structure RequestContext where
  tokenData : TokenData
  restricted : RestrictedRequestContext

/-- `mwCheckAuthentication`. -/
def mwCheckAuthentication (token : Option TokenData) : Handler Server TokenData := do
  let token ← .ofExcept (token.elim (.error ⟨401, "Unauthorized", errUnauthorized⟩) .ok)
  let tokenData ← (parseAndVerifyToken token).mapError fun err => ⟨401, "Invalid JWT token", err⟩
  let _ ← (Server.user.getObject tokenData.id).mapError fun err =>
    if err = errObjectNotFound then ⟨401, "Unauthorized", errUnauthorized⟩
    else internalServerError "Unable to retrieve user details from the database" err
  return tokenData

/-- `mwCheckPortainerAuthorizations`. -/
def mwCheckPortainerAuthorizations (tokenData : TokenData) (administratorOnly : Bool) :
    Handler Server Unit :=
  if tokenData.role = .administrator then pure ()
  else if administratorOnly then .fail ⟨403, "Access denied", errUnauthorized⟩
  else do
    let _ ← (Server.user.getObject tokenData.id).mapError fun err =>
      if err = errObjectNotFound then ⟨401, "Unauthorized", errUnauthorized⟩
      else internalServerError "Unable to retrieve user details from the database" err
    return ()

/-- `mwUpgradeToRestrictedRequest`. -/
def mwUpgradeToRestrictedRequest (tokenData : TokenData) : Handler Server RequestContext := do
  let context ← (newRestrictedContextRequest tokenData.id tokenData.role).mapError
    (internalServerError "Unable to create restricted request context ")
  return ⟨tokenData, context⟩

/-- `AuthenticatedAccess`. -/
def authenticatedAccess (token : Option TokenData) : Handler Server RequestContext := do
  let tokenData ← mwCheckAuthentication token
  mwUpgradeToRestrictedRequest tokenData

/-- `RestrictedAccess`. -/
def restrictedAccess (token : Option TokenData) : Handler Server RequestContext := do
  let tokenData ← mwCheckAuthentication token
  mwCheckPortainerAuthorizations tokenData false
  mwUpgradeToRestrictedRequest tokenData

/-- `AdminAccess`. -/
def adminAccess (token : Option TokenData) : Handler Server RequestContext := do
  let tokenData ← mwCheckAuthentication token
  mwCheckPortainerAuthorizations tokenData true
  mwUpgradeToRestrictedRequest tokenData

/-! ## Access to endpoints

The functions that decide which endpoints a user sees and which one a request
may be about. Both go through the group of the endpoint: the filter looks for
it in a list of groups, the check asks the database.
-/

namespace Inventory

/-- `getAssociatedGroup`. -/
def getAssociatedGroup (endpoint : Endpoint) (groups : List EndpointGroup) : Option EndpointGroup :=
  groups.find? (·.id = endpoint.groupID)

/-- The loop of `FilterEndpoints`. It dereferences the group of each
endpoint: `none` is a group that is nil. -/
def filterAuthorized (groups : List EndpointGroup) (context : RestrictedRequestContext) :
    List Endpoint → Option (List Endpoint)
  | [] => some []
  | endpoint :: rest =>
    match getAssociatedGroup endpoint groups with
    | none => none
    | some endpointGroup =>
      (filterAuthorized groups context rest).map fun filteredEndpoints =>
        if authorizedEndpointAccess endpoint endpointGroup context.userID context.userMemberships then
          endpoint :: filteredEndpoints
        else filteredEndpoints

/-- `FilterEndpoints`. -/
def filterEndpoints (endpoints : List Endpoint) (groups : List EndpointGroup)
    (context : RestrictedRequestContext) : Option (List Endpoint) :=
  if context.isAdmin then some endpoints else filterAuthorized groups context endpoints

/-- `ErrEndpointAccessDenied`. -/
def errEndpointAccessDenied : String := "Access denied to endpoint"

/-- `AuthorizedEndpointOperation`. -/
def authorizedEndpointOperation (tokenData : Option TokenData) (endpoint : Endpoint) :
    Fallible Server Unit := do
  let tokenData ← .ofExcept (retrieveTokenData tokenData)
  if tokenData.role = .administrator then pure ()
  else do
    let memberships ← Server.teamMembershipsByUserID tokenData.id
    let group ← Server.endpointGroup.getObject endpoint.groupID
    .require (authorizedEndpointAccess endpoint group tokenData.id memberships = true)
      errEndpointAccessDenied

end Inventory

end Portainer
