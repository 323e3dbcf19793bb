import Portainer.Users.Helpers.Logins
/-!
# Unique names — users, teams and memberships

The names of users are stored in lower case and are pairwise distinct up to
case, teams have distinct names, and nobody is in a team twice. Most writers
look before they store. `teamUpdate`, `teamMembershipUpdate` and `adminInit`
do not, and `validateOAuth` puts a user it creates into the default team
without asking whether somebody has prepared that membership. Along
requests that meet what these do not check, the keys stay unique
(`uniqueIdentities_of_run`).
-/

namespace Portainer

open Action (Leaves)

namespace Users

variable {services : Services} {s s' : Server}

/-! ## The property -/

/-- **Names tell users and teams apart**, and a user is in a team once. -/
structure UniqueIdentities (services : Services) (s : Server) : Prop where
  usernames : s.dataStore.user.Unique fun u v => services.equalFold u.username v.username = true
  teamNames : s.dataStore.team.Unique fun t t' => t.name = t'.name
  memberships : s.dataStore.teamMembership.Unique fun m m' =>
    m.userID = m'.userID ∧ m.teamID = m'.teamID

/-! ## Letters -/

theorem equalFold_iff {x y : String} : services.equalFold x y = true ↔
    x.toList.map services.foldClass = y.toList.map services.foldClass := by
  simp [Services.equalFold]

theorem equalFold_refl (x : String) : services.equalFold x x = true := equalFold_iff.mpr rfl

theorem equalFold_symm {x y : String} (h : services.equalFold x y = true) :
    services.equalFold y x = true :=
  equalFold_iff.mpr (equalFold_iff.mp h).symm

theorem equalFold_trans {x y z : String} (hxy : services.equalFold x y = true)
    (hyz : services.equalFold y z = true) : services.equalFold x z = true :=
  equalFold_iff.mpr ((equalFold_iff.mp hxy).trans (equalFold_iff.mp hyz))

/-- A name in lower case stays as it is. -/
theorem lower_toLower (x : String) : services.toLower (services.toLower x) = services.toLower x := by
  have hmap : (x.toList.map services.lower).map services.lower = x.toList.map services.lower := by
    rw [List.map_map]
    exact List.map_congr_left fun c _ => services.lower_lower c
  simp only [Services.toLower, String.toList_ofList, hmap]

/-! ## The invariant -/

/-- **The keys are unique**, the names of users are in lower case, and the
number that is drawn next for a user is not in use. -/
structure Distinct (services : Services) (s : Server) : Prop where
  unique : UniqueIdentities services s
  lowered : ∀ i u, s.dataStore.user.get? i = some u → services.toLower u.username = u.username

theorem Distinct.withSettings {settings : Settings} (hs : Distinct services s) :
    Distinct services (withSettings settings s) :=
  ⟨⟨hs.unique.usernames, hs.unique.teamNames, hs.unique.memberships⟩, hs.lowered⟩

theorem Distinct.issue {tokenData : TokenData} (hs : Distinct services s) :
    Distinct services (issue tokenData s) :=
  ⟨⟨hs.unique.usernames, hs.unique.teamNames, hs.unique.memberships⟩, hs.lowered⟩

theorem Distinct.addUser {user : User} (hs : Distinct services s)
    (hfree : NameFree services user.username s) : Distinct services (addUser services user s) := by
  refine ⟨⟨hs.unique.usernames.create (fun _ _ => equalFold_symm) fun v hv hfold => ?_,
    hs.unique.teamNames, hs.unique.memberships⟩, fun i u hu => ?_⟩
  · have hnot := hfree v hv
    rw [equalFold_symm hfold] at hnot
    nomatch hnot
  · rw [get?_addUser] at hu
    split at hu
    · rw [← Option.some.inj hu]
      exact lower_toLower _
    · exact hs.lowered i u hu

/-- **A user may be renamed** if whoever is found under the name is the
user. -/
theorem Distinct.setUser {user stored : User} (hs : Distinct services s)
    (hstored : s.dataStore.user.get? user.id = some stored)
    (hname : MayRename services stored user.username s) : Distinct services (setUser services user s) := by
  have hkey : stored.id = user.id := Bucket.key_of_get? hstored
  refine ⟨⟨hs.unique.usernames.put (fun _ _ => equalFold_symm) fun j v hv hfold => ?_,
    hs.unique.teamNames, hs.unique.memberships⟩, fun i u hu => ?_⟩
  · show j = user.id
    rcases hname with hsame | hfound
    · -- the name of before, which is in lower case
      have hold : services.toLower user.username = stored.username := by
        rw [hsame]
        exact hs.lowered _ _ hstored
      rw [hold] at hfold
      exact (hs.unique.usernames _ j stored v hstored hv hfold).symm
    · cases hfind : s.dataStore.user.all.find? fun u =>
          services.equalFold u.username (services.toLower user.username) with
      | none =>
        have hnot := List.find?_eq_none.mp hfind v (Bucket.mem_all_of_get? hv)
        exact absurd (equalFold_symm hfold) hnot
      | some u =>
        have hu := Bucket.mem_all.mp (List.mem_of_find?_eq_some hfind)
        have hufold := List.find?_some hfind
        have huv : u.id = j := hs.unique.usernames _ j u v hu hv (equalFold_trans hufold hfold)
        rw [← huv, hfound u hfind, hkey]
  · rw [get?_setUser] at hu
    split at hu
    · rw [← Option.some.inj hu]
      exact lower_toLower _
    · exact hs.lowered i u hu

theorem Distinct.deleteUser {id : UserID} (hs : Distinct services s) :
    Distinct services (Server.user.change (·.delete id) s) := by
  refine ⟨⟨hs.unique.usernames.delete, hs.unique.teamNames, hs.unique.memberships⟩, fun i u hu => ?_⟩
  have hget : (Server.user.change (·.delete id) s).dataStore.user.get? i =
      if id = i then none else s.dataStore.user.get? i := Bucket.get?_delete
  rw [hget] at hu
  split at hu
  · nomatch hu
  · exact hs.lowered i u hu

theorem Distinct.addMembership {membership : TeamMembership} (hs : Distinct services s)
    (hnot : NotIn membership.userID membership.teamID s) :
    Distinct services (addMembership membership s) := by
  refine ⟨⟨hs.unique.usernames, hs.unique.teamNames, hs.unique.memberships.create
    (fun _ _ h => ⟨h.1.symm, h.2.symm⟩) fun m hm h => ?_⟩, hs.lowered⟩
  exact hnot m hm ⟨h.1.symm, h.2.symm⟩

theorem notIn_addUser {user : User} {userID : UserID} {teamID : TeamID} (h : NotIn userID teamID s) :
    NotIn userID teamID (addUser services user s) := h

theorem Distinct.dropMemberships {c : TeamMembership → Bool} (hs : Distinct services s) :
    Distinct services (dropMemberships c s) :=
  ⟨⟨hs.unique.usernames, hs.unique.teamNames, hs.unique.memberships.deleteWhere⟩, hs.lowered⟩

/-! ## Requests -/

/-- A team other than this one has the name. -/
def OtherTeamNamed (s : Server) (id : TeamID) (name : String) : Prop :=
  ∃ i t, s.dataStore.team.get? i = some t ∧ t.name = name ∧ i ≠ id

theorem not_otherTeamNamed {id : TeamID} {name : String}
    (h : ∀ t ∈ s.dataStore.team.all, t.name ≠ name) : ¬ OtherTeamNamed s id name := by
  rintro ⟨i, t, ht, hname, -⟩
  exact h t (Bucket.mem_all_of_get? ht) hname

/-- A membership other than this one is of the user in the team. -/
def OtherMembership (s : Server) (id : TeamMembershipID) (userID : UserID) (teamID : TeamID) : Prop :=
  ∃ i m, s.dataStore.teamMembership.get? i = some m ∧ (m.userID = userID ∧ m.teamID = teamID) ∧ i ≠ id

/-- **The request stores no key twice**, where its handler does not look: a
first administrator gets a name that is free, a team and a membership are
not changed into others, and nobody is in the default team before they are
created there. -/
def StoresNewKeys (services : Services) (s : Server) (a : Attempt) : Prop :=
  match a.request with
  | .adminInit payload => (∀ u ∈ s.dataStore.user.all, u.role ≠ .administrator) →
      NameFree services payload.username s
  | .validateOAuth _ username => NameFree services username s →
      s.dataStore.settings.authenticationMethod = .oauth →
      s.dataStore.settings.oauthSettings.oauthAutoCreateUsers = true →
      s.dataStore.settings.oauthSettings.defaultTeamID ≠ 0 →
        NotIn s.dataStore.user.next s.dataStore.settings.oauthSettings.defaultTeamID s
  | .teamUpdate id name => name ≠ "" → ¬ OtherTeamNamed s id name
  | .teamMembershipUpdate id payload => ¬ OtherMembership s id payload.userID payload.teamID
  | _ => True

/-- **One request, successful or not.** -/
theorem Distinct.step {a : Attempt} (hs : Distinct services s) (hC : StoresNewKeys services s a)
    (hstep : (machine services).step s a = some s') : Distinct services s' := by
  obtain rfl := Option.some.inj hstep
  obtain ⟨request, token, salt, faults⟩ := a
  have hleaves : ∀ {x : Handler Server Unit},
      Leaves (fun _ => False) x s (fun _ => Distinct services) (Distinct services) →
        Distinct services (x.run ⟨s, faults⟩).2.store := fun h => h.store rfl fun _ hk => hk.elim
  have hissue : KeptByTokens (Distinct services) := fun _ _ h _ => h.issue
  have hjoin : KeptByJoining (Distinct services) := fun _ _ _ h hnot => h.addMembership hnot
  have hsettings : ∀ s settings, Distinct services s →
      Distinct services (Users.withSettings settings s) :=
    fun _ _ h => h.withSettings
  cases request with
  | adminInit payload =>
    exact hleaves (leaves_publicAccess (leaves_adminInit hs fun _ hnone _ => hs.addUser (hC hnone)))
  | authenticate payload userGroups =>
    exact hleaves (leaves_publicAccess (leaves_authenticate hjoin hissue hs fun hfree =>
      hs.addUser hfree))
  | validateOAuth code username =>
    refine hleaves (leaves_publicAccess (leaves_validateOAuth hissue hs (fun hfree => hs.addUser hfree)
      fun hfree hmethod hauto hteam => ?_))
    have hadded : Distinct services (Users.addUser services
        { id := 0, username := username, role := .standardUser } s) := hs.addUser hfree
    exact hadded.addMembership (notIn_addUser (hC hfree hmethod hauto hteam))
  | userCreate payload =>
    exact hleaves (leaves_behind_adminAccess hs fun _ _ _ => leaves_userCreate hs fun _ hfree =>
      hs.addUser hfree)
  | userUpdate id payload =>
    refine hleaves (leaves_behind_authenticatedAccess hs fun _ _ => leaves_userUpdate hs
      fun user username password huser _ _ hname _ => ?_)
    have hkey : user.id = id := Bucket.key_of_get? huser
    have hstored : s.dataStore.user.get? user.id = some user := hkey.symm ▸ huser
    exact hs.setUser hstored hname
  | userUpdatePassword id payload =>
    refine hleaves (leaves_behind_authenticatedAccess hs fun _ _ => leaves_userUpdatePassword hs
      fun user password huser _ => ?_)
    have hkey : user.id = id := Bucket.key_of_get? huser
    have hstored : s.dataStore.user.get? user.id = some user := hkey.symm ▸ huser
    exact hs.setUser hstored (.inl rfl)
  | userDelete id =>
    exact hleaves (leaves_behind_adminAccess hs fun _ _ _ => leaves_userDelete hs fun _ _ _ =>
      ⟨hs.deleteUser, hs.deleteUser.dropMemberships⟩)
  | teamCreate name =>
    refine hleaves (leaves_behind_adminAccess hs fun _ _ _ => leaves_teamCreate hs fun hfree => ?_)
    refine ⟨⟨hs.unique.usernames, hs.unique.teamNames.create (fun _ _ => Eq.symm) fun t ht hname => ?_,
      hs.unique.memberships⟩, hs.lowered⟩
    have hnot := hfree t ht
    rw [← show name = t.name from hname, equalFold_refl] at hnot
    nomatch hnot
  | teamUpdate id name =>
    refine hleaves (leaves_behind_adminAccess hs fun _ _ _ => leaves_teamUpdate hs fun team hteam => ?_)
    have hkey : team.id = id := Bucket.key_of_get? hteam
    refine ⟨⟨hs.unique.usernames, hs.unique.teamNames.put (fun _ _ => Eq.symm) fun j t ht hname => ?_,
      hs.unique.memberships⟩, hs.lowered⟩
    show j = team.id
    rw [hkey]
    by_cases hempty : name ≠ ""
    · have hsame : name = t.name := by simpa [hempty] using hname
      by_contra hne
      exact hC hempty ⟨j, t, ht, hsame.symm, hne⟩
    · have hsame : team.name = t.name := by simpa [hempty] using hname
      exact (hs.unique.teamNames id j team t hteam ht hsame).symm
  | teamDelete id =>
    have hdelete : Distinct services (Server.team.change (·.delete id) s) :=
      ⟨⟨hs.unique.usernames, hs.unique.teamNames.delete, hs.unique.memberships⟩, hs.lowered⟩
    exact hleaves (leaves_behind_adminAccess hs fun _ _ _ => leaves_teamDelete hs hdelete
      hdelete.dropMemberships hsettings)
  | teamMembershipCreate payload =>
    exact hleaves (leaves_behind_adminAccess hs fun _ _ _ => leaves_teamMembershipCreate hs fun hnot =>
      hs.addMembership hnot)
  | teamMembershipUpdate id payload =>
    refine hleaves (leaves_behind_adminAccess hs fun _ _ _ => leaves_teamMembershipUpdate hs
      fun membership hget => ?_)
    have hkey : membership.id = id := Bucket.key_of_get? hget
    refine ⟨⟨hs.unique.usernames, hs.unique.teamNames, hs.unique.memberships.put
      (fun _ _ h => ⟨h.1.symm, h.2.symm⟩) fun j m hm h => ?_⟩, hs.lowered⟩
    show j = membership.id
    rw [hkey]
    by_contra hne
    exact hC ⟨j, m, hm, ⟨h.1.symm, h.2.symm⟩, hne⟩
  | teamMembershipDelete id =>
    exact hleaves (leaves_behind_adminAccess hs fun _ _ _ => leaves_teamMembershipDelete hs
      ⟨⟨hs.unique.usernames, hs.unique.teamNames, hs.unique.memberships.delete⟩, hs.lowered⟩)
  | settingsUpdate payload =>
    exact hleaves (leaves_behind_adminAccess hs fun _ _ _ => leaves_settingsUpdate hs hsettings)

/-- **Identity keys stay unique** along requests that store none twice. -/
theorem uniqueIdentities_of_run {attempts : List Attempt} (hs : Distinct services s)
    (hC : (machine services).Along (StoresNewKeys services) s attempts)
    (hrun : (machine services).run s attempts = some s') : UniqueIdentities services s' := by
  have h : Distinct services s' :=
    Machine.run_invariant (fun _ _ _ h hC hstep => Distinct.step h hC hstep) hs hC hrun
  exact h.unique

/-- A new server stores no keys. -/
theorem distinct_newServer : Distinct services {} := by
  refine ⟨⟨fun i j a a' h => ?_, fun i j a a' h => ?_, fun i j a a' h => ?_⟩, fun i u h => ?_⟩ <;>
    simp at h

/-- An administrator with two teams. -/
def twoTeams : List Attempt :=
  [{ request := .adminInit ⟨"admin", "secret"⟩ },
    { request := .authenticate ⟨"admin", "secret"⟩ [] },
    { request := .teamCreate "red", token := some ⟨1, "admin", .administrator⟩ },
    { request := .teamCreate "blue", token := some ⟨1, "admin", .administrator⟩ }]

/-- The second team gets another name. -/
def teamRename (name : String) : Attempt where
  request := .teamUpdate 2 name
  token := some ⟨1, "admin", .administrator⟩

theorem uniqueIdentities_of_run_renamed : ∃ s',
    (machine plainServices).run {} (twoTeams ++ [teamRename "green"]) = some s' ∧
      UniqueIdentities plainServices s' := by
  have hC : (machine plainServices).Along (StoresNewKeys plainServices) {}
      (twoTeams ++ [teamRename "green"]) := by
    refine ⟨fun _ _ hu => by simp at hu, fun s₁ h₁ => ⟨trivial, fun s₂ h₂ => ⟨trivial, fun s₃ h₃ =>
      ⟨trivial, fun s₄ h₄ => ⟨fun _ => ?_, fun _ _ => trivial⟩⟩⟩⟩⟩
    cases h₁
    cases h₂
    cases h₃
    cases h₄
    exact not_otherTeamNamed (by decide)
  exact ⟨_, rfl, uniqueIdentities_of_run distinct_newServer hC rfl⟩

/-- **A team is renamed to another's name.** -/
theorem not_uniqueIdentities : ∃ s',
    (machine plainServices).run {} (twoTeams ++ [teamRename "red"]) = some s' ∧
      ¬ UniqueIdentities plainServices s' := by
  refine ⟨_, rfl, fun h => ?_⟩
  exact absurd (h.teamNames 1 2 _ _ rfl rfl rfl) (by decide)

end Users

end Portainer
