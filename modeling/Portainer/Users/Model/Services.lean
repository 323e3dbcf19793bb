import Portainer.Model.Bouncer
/-!
# Users and teams — services

What the handlers of users, teams and logins are given: the case of
letters, as Go's package `unicode` has it, and the hash of passwords. The
data service of users lowers the names it stores, and looks them up up to
case; that of teams stores them as they are.
-/

namespace Portainer

namespace Users

/-- What the handlers are given. -/
structure Services where
  /-- `unicode.ToLower`. -/
  lower : Char → Char
  lower_lower : ∀ c, lower (lower c) = lower c
  /-- The letters that `unicode.SimpleFold` leads to, by one of them. -/
  foldClass : Char → Char
  /-- `bcrypt.GenerateFromPassword`, with the salt that it draws. -/
  generateFromPassword : String → String → String
  generateFromPassword_ne : ∀ salt data, generateFromPassword salt data ≠ ""
  /-- `bcrypt.CompareHashAndPassword` succeeds. -/
  compareHashAndPassword : String → String → Bool

theorem toLower_toLower (c : Char) : c.toLower.toLower = c.toLower := by
  have hlower : ∀ d : Char, ¬ (d.val ≥ 'A'.val ∧ d.val ≤ 'Z'.val) → d.toLower = d := fun d h => dif_neg h
  refine hlower _ ?_
  by_cases h : c.val ≥ 'A'.val ∧ c.val ≤ 'Z'.val
  · have hval : c.toLower.val = c.val + ('a'.val - 'A'.val) := congrArg Char.val (dif_pos h)
    rw [hval]
    grind
  · rwa [hlower c h]

/-- Letters of ASCII, and hashes that are easy to read. -/
def plainServices : Services where
  lower := Char.toLower
  lower_lower := toLower_toLower
  foldClass := Char.toLower
  generateFromPassword salt data := "$" ++ (salt ++ ("$" ++ data))
  generateFromPassword_ne salt data := by simp
  compareHashAndPassword hash data := hash.toList.drop (hash.length - data.length) = data.toList

variable (services : Services)

/-- `strings.ToLower`. -/
def Services.toLower (s : String) : String := String.ofList (s.toList.map services.lower)

/-- `strings.EqualFold`. -/
def Services.equalFold (s t : String) : Bool :=
  s.toList.map services.foldClass = t.toList.map services.foldClass

/-- `Hash`: it drops the error of bcrypt and then returns the empty text. -/
def Services.hash (salt data : String) : Fallible Server String := do
  match ← (Action.call .cryptoService id).attempt with
  | .ok _ => pure (services.generateFromPassword salt data)
  | .error _ => pure ""

/-! ## Data services -/

/-- `UserByUsername`, for the callers that take a user who is not found for
no error. -/
def userByUsername (username : String) : Fallible Server (Option User) :=
  .query .databaseRead fun s =>
    s.dataStore.user.all.find? fun u => services.equalFold u.username (services.toLower username)

/-- `CreateUser`. It returns the user as it is stored. -/
def createUser (user : User) : Fallible Server User := do
  let id ← Server.user.createObject fun id =>
    { user with id := id, username := services.toLower user.username }
  return { user with id := id, username := services.toLower user.username }

/-- `UpdateUser`. -/
def updateUser (user : User) : Fallible Server Unit :=
  Server.user.updateObject { user with username := services.toLower user.username }

/-- `TeamByName`, likewise. -/
def teamByName (name : String) : Fallible Server (Option Team) :=
  .query .databaseRead fun s => s.dataStore.team.all.find? fun t => services.equalFold t.name name

/-- `CreateTeamMembership`. -/
def createTeamMembership (membership : TeamMembership) : Fallible Server TeamMembership := do
  let id ← Server.teamMembership.createObject fun id => { membership with id := id }
  return { membership with id := id }

/-- `DeleteTeamMembershipByUserID` and `DeleteTeamMembershipByTeamID`. -/
def deleteTeamMembershipsWhere (c : TeamMembership → Bool) : Fallible Server Unit :=
  .call .databaseWrite (Server.teamMembership.change (·.deleteWhere c))

end Users

end Portainer
