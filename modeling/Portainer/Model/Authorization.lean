import Portainer.Model.DataStore
/-!
# Authorization — resource controls and access policies

The pure functions of `internal/authorization`, `http/security` and
`internal/stackutils`, and the operations of the data store on memberships
and resource controls.
-/

namespace Portainer

/-! ## Resource controls -/

/-- `stackutils.ResourceControlID`. -/
def stackResourceControlID (endpointID : EndpointID) (name : String) : String :=
  s!"{endpointID}_{name}"

/-- `NewPrivateResourceControl`: for one user. -/
def newPrivateResourceControl (resourceIdentifier : String) (resourceType : ResourceControlType)
    (userID : UserID) : ResourceControl :=
  { resourceID := resourceIdentifier, type := resourceType, userAccesses := [⟨userID, .readWrite⟩] }

/-- `NewAdministratorsOnlyResourceControl`. -/
def newAdministratorsOnlyResourceControl (resourceIdentifier : String)
    (resourceType : ResourceControlType) : ResourceControl :=
  { resourceID := resourceIdentifier, type := resourceType, administratorsOnly := true }

/-- `NewSystemResourceControl`: public, and never stored. -/
def newSystemResourceControl (resourceIdentifier : String) (resourceType : ResourceControlType) :
    ResourceControl :=
  { resourceID := resourceIdentifier, type := resourceType, isPublic := true, system := true }

/-- `NewPublicResourceControl`. -/
def newPublicResourceControl (resourceIdentifier : String) (resourceType : ResourceControlType) :
    ResourceControl :=
  { resourceID := resourceIdentifier, type := resourceType, isPublic := true }

/-- `NewRestrictedResourceControl`: for some users and teams. -/
def newRestrictedResourceControl (resourceIdentifier : String) (resourceType : ResourceControlType)
    (userIDs : List UserID) (teamIDs : List TeamID) : ResourceControl :=
  { resourceID := resourceIdentifier
    type := resourceType
    userAccesses := userIDs.map fun i => ⟨i, .readWrite⟩
    teamAccesses := teamIDs.map fun i => ⟨i, .readWrite⟩ }

/-- `UserCanAccessResource`, for a resource control that is there. -/
def userCanAccessResource (userID : UserID) (userTeamIDs : List TeamID) (rc : ResourceControl) :
    Bool :=
  rc.userAccesses.any (fun a => userID = a.userID) ||
    rc.teamAccesses.any (fun a => userTeamIDs.any fun i => i = a.teamID) || rc.isPublic

/-- `GetResourceControlByResourceIDAndType`: the first that is about the
resource, or has it among its sub-resources, whose type is not looked
at. -/
def getResourceControlByResourceIDAndType (resourceID : String) (resourceType : ResourceControlType)
    (resourceControls : List ResourceControl) : Option ResourceControl :=
  resourceControls.find? fun rc =>
    (resourceID = rc.resourceID ∧ resourceType = rc.type) ∨ resourceID ∈ rc.subResourceIDs

/-! ## Access policies -/

/-- `AuthorizedAccess`. -/
def authorizedAccess (userID : UserID) (memberships : List TeamMembership)
    (userAccessPolicies : UserAccessPolicies) (teamAccessPolicies : TeamAccessPolicies) : Bool :=
  userAccessPolicies.contains userID ||
    memberships.any fun m => teamAccessPolicies.contains m.teamID

/-- `authorizedEndpointAccess`: through the group, or else directly. -/
def authorizedEndpointAccess (endpoint : Endpoint) (endpointGroup : EndpointGroup)
    (userID : UserID) (memberships : List TeamMembership) : Bool :=
  authorizedAccess userID memberships endpointGroup.userAccessPolicies
      endpointGroup.teamAccessPolicies ||
    authorizedAccess userID memberships endpoint.userAccessPolicies endpoint.teamAccessPolicies

/-- `AuthorizedRegistryAccess`. -/
def authorizedRegistryAccess (registry : Registry) (user : User)
    (teamMemberships : List TeamMembership) (endpointID : EndpointID) : Bool :=
  let accesses := (registry.registryAccesses[endpointID]?).getD {}
  user.role = .administrator ||
    authorizedAccess user.id teamMemberships accesses.userAccessPolicies accesses.teamAccessPolicies

namespace DataStore

/-! ## Memberships and resource controls in the store -/

/-- `TeamMembershipsByUserID`. -/
def teamMembershipsByUserID (db : DataStore) (userID : UserID) : List TeamMembership :=
  db.teamMembership.all.filter fun m => m.userID = userID

/-- The teams of a user, as the handlers collect them. -/
def userTeamIDs (db : DataStore) (userID : UserID) : List TeamID :=
  (db.teamMembershipsByUserID userID).map TeamMembership.teamID

/-- `ResourceControlByResourceIDAndType`. A resource control that names the
resource ends the scan; one that has it as a sub-resource does not, and the
last of those seen is the result. -/
def resourceControlByResourceIDAndType (db : DataStore) (resourceID : String)
    (resourceType : ResourceControlType) : Option ResourceControl :=
  scan none db.resourceControl.all
where
  scan (found : Option ResourceControl) : List ResourceControl → Option ResourceControl
    | [] => found
    | rc :: rcs =>
      if rc.resourceID = resourceID ∧ rc.type = resourceType then some rc
      else if resourceID ∈ rc.subResourceIDs then scan (some rc) rcs
      else scan found rcs

/-- What the scan ends with is one of the resource controls. -/
theorem mem_of_scan {resourceID : String} {resourceType : ResourceControlType}
    {found : Option ResourceControl} {rcs : List ResourceControl} {rc : ResourceControl}
    (h : resourceControlByResourceIDAndType.scan resourceID resourceType found rcs = some rc) :
    found = some rc ∨ rc ∈ rcs := by
  induction rcs generalizing found with
  | nil => exact .inl h
  | cons first rcs ih =>
    unfold resourceControlByResourceIDAndType.scan at h
    split at h
    · exact .inr (Option.some.inj h ▸ List.mem_cons_self)
    · split at h
      · rcases ih h with hfirst | hrest
        · exact .inr (Option.some.inj hfirst ▸ List.mem_cons_self)
        · exact .inr (List.mem_cons_of_mem _ hrest)
      · exact (ih h).imp_right (List.mem_cons_of_mem _)

theorem get?_of_resourceControlByResourceIDAndType {db : DataStore} {resourceID : String}
    {resourceType : ResourceControlType} {rc : ResourceControl}
    (h : db.resourceControlByResourceIDAndType resourceID resourceType = some rc) :
    db.resourceControl.get? rc.id = some rc := by
  rcases mem_of_scan h with hnone | hmem
  · nomatch hnone
  · exact Bucket.mem_all.mp hmem

/-- `CreateResourceControl`: under the next identifier, which the caller's
record gets as well. -/
def createResourceControl (db : DataStore) (rc : ResourceControl) : DataStore :=
  { db with
    resourceControl :=
      db.resourceControl.nextSequence.put { rc with id := db.resourceControl.next } }

end DataStore

end Portainer
