import Portainer.Model.Types
/-!
# Roles — what a user is authorised to do on an endpoint, model

`getUserEndpointAuthorizations` of `internal/authorization`. Access policies
give users and teams a role on an endpoint or on a group of endpoints, and a
role stands for a set of authorizations. Four levels are tried, one after
the other, and the first that yields any authorization is taken.
-/

namespace Portainer

open Std

namespace Roles

/-- `Authorizations`. -/
abbrev Authorizations := ExtTreeMap String Bool

/-- `EndpointAuthorizations`. -/
abbrev EndpointAuthorizations := ExtTreeMap EndpointID Authorizations

/-- A role. -/
structure Role where
  id : RoleID
  authorizations : Authorizations := ∅
  priority : Int := 0

/-- `getAuthorizationsFromRoles`: of the roles that exist, the one of the
highest priority, which has to be above zero. -/
def getAuthorizationsFromRoles (roleIdentifiers : List RoleID) (roles : List Role) : Authorizations :=
  let associatedRoles := roleIdentifiers.filterMap fun id => roles.find? (·.id = id)
  (associatedRoles.foldl (fun (best : Authorizations × Int) role =>
    if best.2 < role.priority then (role.authorizations, role.priority) else best) (∅, 0)).1

/-- The role a user has by the policies of an endpoint or a group, if any. -/
def userPolicyRoles (user : User) (policies : UserAccessPolicies) : List RoleID :=
  (policies[user.id]?.map AccessPolicy.roleID).toList

/-- The roles that the teams of the memberships have by the policies. -/
def teamPolicyRoles (memberships : List TeamMembership) (policies : TeamAccessPolicies) : List RoleID :=
  memberships.filterMap fun membership => policies[membership.teamID]?.map AccessPolicy.roleID

def getAuthorizationsFromUserEndpointPolicy (user : User) (endpoint : Endpoint) (roles : List Role) :
    Authorizations :=
  getAuthorizationsFromRoles (userPolicyRoles user endpoint.userAccessPolicies) roles

def getAuthorizationsFromUserEndpointGroupPolicy (user : User) (endpoint : Endpoint) (roles : List Role)
    (groupAccessPolicies : ExtTreeMap EndpointGroupID UserAccessPolicies) : Authorizations :=
  getAuthorizationsFromRoles
    (userPolicyRoles user (groupAccessPolicies[endpoint.groupID]?.getD ∅)) roles

def getAuthorizationsFromTeamEndpointPolicies (memberships : List TeamMembership)
    (endpoint : Endpoint) (roles : List Role) : Authorizations :=
  getAuthorizationsFromRoles (teamPolicyRoles memberships endpoint.teamAccessPolicies) roles

def getAuthorizationsFromTeamEndpointGroupPolicies (memberships : List TeamMembership)
    (endpoint : Endpoint) (roles : List Role)
    (groupAccessPolicies : ExtTreeMap EndpointGroupID TeamAccessPolicies) : Authorizations :=
  getAuthorizationsFromRoles
    (teamPolicyRoles memberships (groupAccessPolicies[endpoint.groupID]?.getD ∅)) roles

/-- The policies of the groups, under their identifiers. -/
def groupPolicies {β : Type} (policies : EndpointGroup → β) (endpointGroups : List EndpointGroup) :
    ExtTreeMap EndpointGroupID β :=
  endpointGroups.foldl (fun m endpointGroup => m.insert endpointGroup.id (policies endpointGroup)) ∅

/-- What the loop over the endpoints finds for one of them: the first of
the four levels that yields an authorization. -/
def endpointEntry (user : User) (endpointGroups : List EndpointGroup) (roles : List Role)
    (userMemberships : List TeamMembership) (endpoint : Endpoint) : Option Authorizations :=
  let authorizations := getAuthorizationsFromUserEndpointPolicy user endpoint roles
  if authorizations.isEmpty = false then some authorizations
  else
    let authorizations := getAuthorizationsFromUserEndpointGroupPolicy user endpoint roles
      (groupPolicies EndpointGroup.userAccessPolicies endpointGroups)
    if authorizations.isEmpty = false then some authorizations
    else
      let authorizations := getAuthorizationsFromTeamEndpointPolicies userMemberships endpoint roles
      if authorizations.isEmpty = false then some authorizations
      else
        let authorizations := getAuthorizationsFromTeamEndpointGroupPolicies userMemberships endpoint
          roles (groupPolicies EndpointGroup.teamAccessPolicies endpointGroups)
        if authorizations.isEmpty = false then some authorizations else none

def getUserEndpointAuthorizations (user : User) (endpoints : List Endpoint)
    (endpointGroups : List EndpointGroup) (roles : List Role)
    (userMemberships : List TeamMembership) : EndpointAuthorizations :=
  endpoints.foldl (fun endpointAuthorizations endpoint =>
    match endpointEntry user endpointGroups roles userMemberships endpoint with
    | some authorizations => endpointAuthorizations.insert endpoint.id authorizations
    | none => endpointAuthorizations) ∅

end Roles

end Portainer
