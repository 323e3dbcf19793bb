import Portainer.Users.Helpers.Handlers
/-!
# What the logins leave

A login signs a token that says what the store says about the user. On the
way it may have created the user and put them into teams, and a failure to
do the latter does not stop it.
-/

namespace Portainer

open Action (Leaves)

namespace Users

variable {services : Services} {R : Callee → Prop} {s : Server} {I E : Server → Prop}

/-- **A token may be signed** for any user who is stored. -/
def KeptByTokens (I : Server → Prop) : Prop :=
  ∀ s u, I s → s.dataStore.user.get? u.id = some u → I (issue (composeTokenData u) s)

/-- **A membership may be created** where the user is not in the team. -/
def KeptByJoining (I : Server → Prop) : Prop :=
  ∀ s userID teamID, I s → NotIn userID teamID s →
    I (addMembership { id := 0, userID := userID, teamID := teamID, role := .teamMember } s)

theorem leaves_writeToken {user : User} (hissue : KeptByTokens I) (hs : I s)
    (huser : s.dataStore.user.get? user.id = some user) :
    Leaves R (writeToken user) s (fun _ => I) I :=
  .call_bind hs (.pure (hissue s user hs huser))

theorem leaves_authenticateInternal {user : User} {password : String} (hissue : KeptByTokens I)
    (hs : I s) (huser : s.dataStore.user.get? user.id = some user) :
    Leaves R (authenticateInternal services user password) s (fun _ => I) I :=
  .require_bind hs fun _ => leaves_writeToken hissue hs huser

/-- Where the loop over the teams stands: the user is in none of the teams to
come, unless a membership was read. -/
structure Joining (I : Server → Prop) (userID : UserID) (userMemberships : List TeamMembership)
    (b : Bucket User) (teams : List Team) (s : Server) : Prop where
  inv : I s
  users : s.dataStore.user = b
  distinct : (teams.map key).Nodup
  notIn : ∀ t ∈ teams, teamMembershipExists t.id userMemberships = false → NotIn userID t.id s

theorem Joining.skip {userID : UserID} {userMemberships : List TeamMembership} {b : Bucket User}
    {team : Team} {teams : List Team} (h : Joining I userID userMemberships b (team :: teams) s) :
    Joining I userID userMemberships b teams s where
  inv := h.inv
  users := h.users
  distinct := (List.nodup_cons.mp h.distinct).2
  notIn t ht := h.notIn t (List.mem_cons_of_mem team ht)

theorem mem_addMembership {membership m : TeamMembership}
    (h : m ∈ (addMembership membership s).dataStore.teamMembership.all) :
    m ∈ s.dataStore.teamMembership.all ∨
      m = { membership with id := s.dataStore.teamMembership.next } := by
  have hget := Bucket.mem_all.mp h
  simp only [addMembership, Table.change, Server.teamMembership, Bucket.get?_put,
    Bucket.get?_nextSequence] at hget
  split at hget
  · exact .inr (Option.some.inj hget).symm
  · exact .inl (Bucket.mem_all.mpr hget)

theorem Joining.join {userID : UserID} {userMemberships : List TeamMembership} {b : Bucket User}
    {team : Team} {teams : List Team} (hjoin : KeptByJoining I)
    (h : Joining I userID userMemberships b (team :: teams) s)
    (hnew : teamMembershipExists team.id userMemberships = false) :
    Joining I userID userMemberships b teams (addMembership
      { id := 0, userID := userID, teamID := team.id, role := .teamMember } s) where
  inv := hjoin s userID team.id h.inv (h.notIn team List.mem_cons_self hnew)
  users := h.users
  distinct := (List.nodup_cons.mp h.distinct).2
  notIn := by
    intro t ht hother m hm hmem
    rcases mem_addMembership hm with hm | rfl
    · exact h.notIn t (List.mem_cons_of_mem team ht) hother m hm hmem
    · -- the teams of the list have distinct identifiers
      have hteam : team.id = t.id := hmem.2
      refine (List.nodup_cons.mp h.distinct).1 (List.mem_map.mpr ⟨t, ht, ?_⟩)
      exact hteam.symm

theorem leaves_addUserIntoTeams {user : User} {userGroups : List String} (hjoin : KeptByJoining I)
    (hs : I s) :
    Leaves R (addUserIntoTeams services user userGroups) s
      (fun _ s' => I s' ∧ s'.dataStore.user = s.dataStore.user)
      (fun s' => I s' ∧ s'.dataStore.user = s.dataStore.user) := by
  refine .read_bind (P := (· = s.dataStore.team.all)) (.query ⟨rfl, rfl⟩ ⟨hs, rfl⟩) fun teams hteams => ?_
  refine .read_bind (P := fun _ => True) (.call ⟨rfl, trivial⟩ ⟨hs, rfl⟩) fun _ _ => ?_
  refine .read_bind (P := (· = s.dataStore.teamMembershipsByUserID user.id))
    (.query ⟨rfl, rfl⟩ ⟨hs, rfl⟩) fun userMemberships hmemberships => ?_
  have hstart : Joining I user.id userMemberships s.dataStore.user teams s := by
    refine ⟨hs, rfl, hteams ▸ Bucket.nodup_keys_all _, fun t _ hnone m hm hmem => ?_⟩
    have hread : m ∈ userMemberships :=
      hmemberships ▸ List.mem_filter.mpr ⟨hm, by simpa using hmem.1⟩
    have := List.any_eq_false.mp hnone m hread
    simp [hmem.2] at this
  refine Leaves.conseq (Q := fun _ => Joining I user.id userMemberships s.dataStore.user [])
    (.forM_todo (T := Joining I user.id userMemberships s.dataStore.user) hstart
      fun team teams s₁ h => ?_) (fun _ s' h => ⟨h.inv, h.users⟩) fun _ he => he
  unfold addIntoTeam
  refine .ite (fun hnew => ?_) fun _ => .pure h.skip
  refine (leaves_createTeamMembership ⟨h.inv, h.users⟩).bind fun _ s₂ hs₂ => .pure ?_
  subst hs₂
  exact h.join hjoin (by simpa using hnew.2)

/-- The failure of this is ignored. -/
theorem leaves_joined_writeToken {user : User} {userGroups : List String} (hjoin : KeptByJoining I)
    (hissue : KeptByTokens I) (hs : I s) (huser : s.dataStore.user.get? user.id = some user) :
    Leaves R (do
      let _ ← (addUserIntoTeams services user userGroups).attempt
      writeToken user) s (fun _ => I) I := by
  refine Leaves.bind (M := fun _ s' => I s' ∧ s'.dataStore.user = s.dataStore.user) (.attempt ?_)
    fun _ s' h => leaves_writeToken hissue h.1 (by rw [h.2]; exact huser)
  exact (leaves_addUserIntoTeams hjoin hs).conseq (fun _ _ h => h) fun _ h _ => h

theorem leaves_authenticateLDAP {user : User} {password : String} {userGroups : List String}
    (hjoin : KeptByJoining I) (hissue : KeptByTokens I) (hs : I s)
    (huser : s.dataStore.user.get? user.id = some user) :
    Leaves R (authenticateLDAP services user password userGroups) s (fun _ => I) I := by
  refine Leaves.bind (M := fun _ s' => s' = s) (.attempt_call rfl fun _ _ => rfl) fun r s' h => ?_
  subst h
  cases r with
  | error _ => exact leaves_authenticateInternal hissue hs huser
  | ok _ => exact leaves_joined_writeToken hjoin hissue hs huser

theorem leaves_authenticateLDAPAndCreateUser {username : String} {userGroups : List String}
    (hjoin : KeptByJoining I) (hissue : KeptByTokens I) (hs : I s)
    (hcreate : I (addUser services { id := 0, username := username, role := .standardUser } s)) :
    Leaves R (authenticateLDAPAndCreateUser services username userGroups) s (fun _ => I) I := by
  refine .call_bind hs ((leaves_createUser hs).bind fun user s' h => ?_)
  obtain ⟨rfl, rfl⟩ := h
  exact leaves_joined_writeToken hjoin hissue hcreate get?_addUser_next

theorem leaves_authenticate {payload : AuthenticatePayload} {userGroups : List String}
    (hjoin : KeptByJoining I) (hissue : KeptByTokens I) (hs : I s)
    (hcreate : NameFree services payload.username s →
      I (addUser services { id := 0, username := payload.username, role := .standardUser } s)) :
    Leaves R (authenticate services payload userGroups) s (fun _ => I) I := by
  refine .read_bind (P := fun _ => True) (.mapError (.ofExcept (fun _ _ => ⟨rfl, trivial⟩) hs))
    fun _ _ => .query_bind hs ?_
  refine .read_bind (P := (· = s.dataStore.user.all.find? fun u =>
    services.equalFold u.username (services.toLower payload.username)))
    (.mapError (.query ⟨rfl, rfl⟩ hs)) fun user huser => ?_
  have hstored : ∀ u, user = some u → s.dataStore.user.get? u.id = some u := fun u hu =>
    Bucket.mem_all.mp (List.mem_of_find?_eq_some (huser ▸ hu))
  split
  · exact leaves_authenticateLDAP hjoin hissue hs (hstored _ rfl)
  · refine .ite (fun _ => ?_) fun _ => .fail hs
    exact leaves_authenticateLDAPAndCreateUser hjoin hissue hs (hcreate (nameFree_of_find? huser.symm))
  · exact leaves_authenticateInternal hissue hs (hstored _ rfl)
  · exact .fail hs

theorem leaves_createOAuthUser {username : String} {defaultTeamID : TeamID} (hs : I s)
    (hcreate : I (addUser services { id := 0, username := username, role := .standardUser } s))
    (hdefault : defaultTeamID ≠ 0 → I (addMembership
      { id := 0, userID := s.dataStore.user.next, teamID := defaultTeamID, role := .teamMember }
      (addUser services { id := 0, username := username, role := .standardUser } s))) :
    Leaves R (createOAuthUser services username defaultTeamID) s
      (fun user s' => I s' ∧ s'.dataStore.user.get? user.id = some user) I := by
  refine (leaves_createUser hs).bind fun user s' h => ?_
  obtain ⟨rfl, rfl⟩ := h
  refine .ite (fun hteam => ?_) fun _ => .pure ⟨hcreate, get?_addUser_next⟩
  refine (Leaves.mapError (leaves_createTeamMembership hcreate)).bind fun _ s' h => ?_
  subst h
  exact .pure ⟨hdefault hteam, get?_addUser_next⟩

theorem leaves_validateOAuth {code username : String} (hissue : KeptByTokens I) (hs : I s)
    (hcreate : NameFree services username s →
      I (addUser services { id := 0, username := username, role := .standardUser } s))
    (hdefault : NameFree services username s → s.dataStore.settings.authenticationMethod = .oauth →
      s.dataStore.settings.oauthSettings.oauthAutoCreateUsers = true →
      s.dataStore.settings.oauthSettings.defaultTeamID ≠ 0 → I (addMembership
        { id := 0
          userID := s.dataStore.user.next
          teamID := s.dataStore.settings.oauthSettings.defaultTeamID
          role := .teamMember }
        (addUser services { id := 0, username := username, role := .standardUser } s))) :
    Leaves R (validateOAuth services code username) s (fun _ => I) I := by
  refine .require_bind hs fun _ => .query_bind hs (.require_bind hs fun hmethod => .call_bind hs ?_)
  refine .read_bind (P := (· = s.dataStore.user.all.find? fun u =>
    services.equalFold u.username (services.toLower username)))
    (.mapError (.query ⟨rfl, rfl⟩ hs)) fun user huser => ?_
  cases user with
  | some u =>
    exact leaves_writeToken hissue hs (Bucket.mem_all.mp (List.mem_of_find?_eq_some huser.symm))
  | none =>
    have hfree := nameFree_of_find? huser.symm
    refine .require_bind hs fun hauto => ?_
    refine (leaves_createOAuthUser hs (hcreate hfree) (hdefault hfree hmethod hauto)).bind
      fun user s' h => ?_
    exact leaves_writeToken hissue h.1 h.2

end Users

end Portainer
