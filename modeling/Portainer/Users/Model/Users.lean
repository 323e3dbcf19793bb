import Portainer.Users.Model.Services
/-!
# Users — create, update, delete

The handlers of `handler/users` that write. The first administrator is
created by anybody, as long as there is none; all other users by an
administrator. A user may change name and password, and an administrator
may change these and the role of everybody.
-/

namespace Portainer

namespace Users

open HandlerError (internalServerError ofLookup badRequest forbidden)

/-- `portainer.UserRole` of a number that was validated: 1 or 2. -/
def userRole (role : Int) : UserRole := if role = 1 then .administrator else .standardUser

/-- `govalidator.Contains` with a space. -/
def hasSpace (s : String) : Bool := ' ' ∈ s.toList

def errCryptoHashFailure : String := "Unable to hash data"

variable (services : Services)

/-- `Hash`, as the handlers call it. -/
def hashPassword (salt password : String) : Handler Server String :=
  (services.hash salt password).mapError fun _ =>
    internalServerError "Unable to hash user password" errCryptoHashFailure

/-! ## Create -/

structure AdminInitPayload where
  username : String
  password : String

def AdminInitPayload.validate (payload : AdminInitPayload) : Except String Unit :=
  if payload.username = "" ∨ hasSpace payload.username then
    .error "Invalid username. Must not contain any whitespace"
  else if payload.password = "" then .error "Invalid password"
  else .ok ()

/-- `UsersByRole`. -/
def usersByRole (role : UserRole) : Fallible Server (List User) :=
  .query .databaseRead fun s => s.dataStore.user.all.filter fun u => u.role = role

def adminInit (salt : String) (payload : AdminInitPayload) : Handler Server User := do
  Action.mapError (badRequest "Invalid request payload") (.ofExcept payload.validate)
  let users ← (usersByRole .administrator).mapError
    (internalServerError "Unable to retrieve users from the database")
  .require (users = [])
    ⟨409, "Unable to create administrator user", "An administrator user already exists"⟩
  let password ← hashPassword services salt payload.password
  (createUser services
      { id := 0, username := payload.username, role := .administrator, password := password }).mapError
    (internalServerError "Unable to persist user inside the database")

structure UserCreatePayload where
  username : String
  password : String := ""
  role : Int

def UserCreatePayload.validate (payload : UserCreatePayload) : Except String Unit :=
  if payload.username = "" ∨ hasSpace payload.username then
    .error "Invalid username. Must not contain any whitespace"
  else if payload.role ≠ 1 ∧ payload.role ≠ 2 then
    .error "Invalid role value. Value must be one of: 1 (administrator) or 2 (regular user)"
  else .ok ()

/-- The password of a new user, where passwords are kept here. -/
def newPassword (salt password : String) (method : AuthenticationMethod) : Handler Server String :=
  if method = .internal then hashPassword services salt password else pure ""

def userCreate (salt : String) (securityContext : RestrictedRequestContext)
    (payload : UserCreatePayload) : Handler Server User := do
  Action.mapError (badRequest "Invalid request payload") (.ofExcept payload.validate)
  .require (securityContext.isAdmin ∨ securityContext.isTeamLeader)
    (forbidden "Permission denied to create user" errResourceAccessDenied)
  .require (¬ (securityContext.isTeamLeader ∧ payload.role = 1))
    (forbidden "Permission denied to create administrator user" errResourceAccessDenied)
  let user ← (userByUsername services payload.username).mapError
    (internalServerError "Unable to retrieve users from the database")
  .require (user = none)
    ⟨409, "Another user with the same username already exists", "User already exists"⟩
  let settings ← Server.getSettings.mapError
    (internalServerError "Unable to retrieve settings from the database")
  let password ← newPassword services salt payload.password settings.authenticationMethod
  let created ← (createUser services
      { id := 0
        username := payload.username
        role := userRole payload.role
        password := password }).mapError
    (internalServerError "Unable to persist user inside the database")
  -- `hideFields`, which is for the answer
  return { created with password := "" }

/-! ## Update -/

structure UserUpdatePayload where
  username : String := ""
  password : String := ""
  role : Int := 0

def UserUpdatePayload.validate (payload : UserUpdatePayload) : Except String Unit :=
  if hasSpace payload.username then .error "Invalid username. Must not contain any whitespace"
  else if payload.role ≠ 0 ∧ payload.role ≠ 1 ∧ payload.role ≠ 2 then
    .error "Invalid role value. Value must be one of: 1 (administrator) or 2 (regular user)"
  else .ok ()

/-- The name after the update, which nobody else may have. -/
def updatedUsername (user : User) (username : String) : Handler Server String :=
  if username ≠ "" ∧ username ≠ user.username then do
    let sameNameUser ← (userByUsername services username).mapError
      (internalServerError "Unable to retrieve users from the database")
    .require (∀ u ∈ sameNameUser, u.id = user.id)
      ⟨409, "Another user with the same username already exists", "User already exists"⟩
    return username
  else pure user.username

/-- The password after the update. -/
def updatedPassword (salt : String) (user : User) (password : String) : Handler Server String :=
  if password ≠ "" then hashPassword services salt password else pure user.password

def userUpdate (salt : String) (tokenData : TokenData) (userID : UserID)
    (payload : UserUpdatePayload) : Handler Server User := do
  .require (tokenData.role = .administrator ∨ tokenData.id = userID)
    (forbidden "Permission denied to update user" errUnauthorized)
  Action.mapError (badRequest "Invalid request payload") (.ofExcept payload.validate)
  .require (tokenData.role = .administrator ∨ payload.role = 0)
    (forbidden "Permission denied to update user to administrator role" errResourceAccessDenied)
  let user ← (Server.user.getObject userID).mapError
    (ofLookup "Unable to find a user with the specified identifier inside the database")
  let username ← updatedUsername services user payload.username
  let password ← updatedPassword services salt user payload.password
  let updated : User :=
    { user with
      username := username
      password := password
      role := if payload.role ≠ 0 then userRole payload.role else user.role }
  (updateUser services updated).mapError
    (internalServerError "Unable to persist user changes inside the database")
  return { updated with username := services.toLower username }

structure UserUpdatePasswordPayload where
  password : String
  newPassword : String

def UserUpdatePasswordPayload.validate (payload : UserUpdatePasswordPayload) : Except String Unit :=
  if payload.password = "" then .error "Invalid current password"
  else if payload.newPassword = "" then .error "Invalid new password"
  else .ok ()

def userUpdatePassword (salt : String) (tokenData : TokenData) (userID : UserID)
    (payload : UserUpdatePasswordPayload) : Handler Server Unit := do
  .require (tokenData.role = .administrator ∨ tokenData.id = userID)
    (forbidden "Permission denied to update user" errUnauthorized)
  Action.mapError (badRequest "Invalid request payload") (.ofExcept payload.validate)
  let user ← (Server.user.getObject userID).mapError
    (ofLookup "Unable to find a user with the specified identifier inside the database")
  .require (services.compareHashAndPassword user.password payload.password = true)
    (forbidden "Specified password do not match actual password" errUnauthorized)
  let password ← hashPassword services salt payload.newPassword
  (updateUser services { user with password := password }).mapError
    (internalServerError "Unable to persist user changes inside the database")

/-! ## Delete -/

/-- `deleteUser`: the user, then the memberships. -/
def deleteUser (user : User) : Handler Server Unit := do
  (Server.user.deleteObject user.id).mapError
    (internalServerError "Unable to remove user from the database")
  (deleteTeamMembershipsWhere fun m => m.userID = user.id).mapError
    (internalServerError "Unable to remove user memberships from the database")

/-- An administrator who signs in with a password that is kept here. -/
def isLocalAdmin (u : User) : Bool := u.role = .administrator && u.password ≠ ""

/-- `deleteAdminUser`. -/
def deleteAdminUser (user : User) : Handler Server Unit :=
  if user.password = "" then deleteUser user
  else do
    let users ← Server.user.getAll.mapError
      (internalServerError "Unable to retrieve users from the database")
    .require (2 ≤ users.countP isLocalAdmin)
      (internalServerError "Cannot remove local administrator user"
        "Cannot remove the last local administrator account")
    deleteUser user

def userDelete (tokenData : TokenData) (userID : UserID) : Handler Server Unit := do
  .require (userID ≠ 1)
    (forbidden "Cannot remove the initial admin account" "Cannot remove the initial admin account")
  .require (tokenData.id ≠ userID)
    (forbidden "Cannot remove your own user account. Contact another administrator"
      "Cannot remove your own user account. Contact another administrator")
  let user ← (Server.user.getObject userID).mapError
    (ofLookup "Unable to find a user with the specified identifier inside the database")
  if user.role = .administrator then deleteAdminUser user else deleteUser user

end Users

end Portainer
