import Portainer.Users.Helpers.Bouncer
/-!
# What the handlers leave

One specification for each handler: a predicate that holds before it, and
of every store that its writes make, holds after it, in success and in
failure. What the handler has seen by the time of a write comes with the
store that the write makes.
-/

namespace Portainer

open Action (Leaves)

/-! ## Data services -/

namespace Table

variable {α : Type} [Record α] {t : Table α} {R : Callee → Prop} {s : Server} {E : Server → Prop}

theorem leaves_createObject_of {a : Int → α} {Q : Int → Server → Prop} (he : ¬ R .databaseWrite → E s)
    (h : Q (t.bucket s.dataStore).next
      (t.change (fun b => b.nextSequence.put (a (t.bucket s.dataStore).next)) s)) :
    Leaves R (t.createObject a) s Q E := by
  unfold createObject
  refine .read_bind (P := fun id => id = (t.bucket s.dataStore).next) (.get ⟨rfl, rfl⟩) fun id hid => ?_
  subst hid
  exact (Leaves.call_of (Q := fun _ s' => s' = _) rfl he).bind fun _ _ hs => .pure (hs ▸ h)

theorem leaves_createObject {a : Int → α} {Q : Int → Server → Prop} (he : E s)
    (h : Q (t.bucket s.dataStore).next
      (t.change (fun b => b.nextSequence.put (a (t.bucket s.dataStore).next)) s)) :
    Leaves R (t.createObject a) s Q E :=
  leaves_createObject_of (fun _ => he) h

end Table

namespace Users

variable {services : Services} {R : Callee → Prop} {s : Server} {I E : Server → Prop}
variable {salt : String}

/-! ## The stores that are made -/

/-- The store with one more user. -/
def addUser (services : Services) (user : User) (s : Server) : Server :=
  Server.user.change (fun b => b.nextSequence.put
    { user with id := s.dataStore.user.next, username := services.toLower user.username }) s

/-- The store with the record of a user replaced. -/
def setUser (services : Services) (user : User) (s : Server) : Server :=
  Server.user.change (·.put { user with username := services.toLower user.username }) s

theorem get?_addUser {user : User} {id : UserID} : (addUser services user s).dataStore.user.get? id =
    if s.dataStore.user.next = id then some { user with
      id := s.dataStore.user.next
      username := services.toLower user.username }
    else s.dataStore.user.get? id := Bucket.get?_put

theorem get?_addUser_next {user : User} :
    (addUser services user s).dataStore.user.get? s.dataStore.user.next = some { user with
      id := s.dataStore.user.next
      username := services.toLower user.username } := Bucket.get?_put_self

theorem get?_setUser {user : User} {id : UserID} : (setUser services user s).dataStore.user.get? id =
    if user.id = id then some { user with username := services.toLower user.username }
    else s.dataStore.user.get? id := Bucket.get?_put

/-- The store with one more membership. -/
def addMembership (membership : TeamMembership) (s : Server) : Server :=
  Server.teamMembership.change
    (fun b => b.nextSequence.put { membership with id := s.dataStore.teamMembership.next }) s

/-- The store without some memberships. -/
def dropMemberships (c : TeamMembership → Bool) (s : Server) : Server :=
  Server.teamMembership.change (·.deleteWhere c) s

/-- The store once a token is signed. -/
def issue (tokenData : TokenData) (s : Server) : Server :=
  { s with issuedTokens := tokenData :: s.issuedTokens }

/-- The store with other settings. -/
def withSettings (settings : Settings) (s : Server) : Server :=
  { s with dataStore := { s.dataStore with settings := settings } }

/-- Nobody has the name, up to case. -/
def NameFree (services : Services) (name : String) (s : Server) : Prop :=
  ∀ u ∈ s.dataStore.user.all, services.equalFold u.username (services.toLower name) = false

theorem nameFree_of_find? {name : String}
    (h : s.dataStore.user.all.find? (fun u => services.equalFold u.username (services.toLower name)) =
      none) : NameFree services name s := by
  intro u hu
  have := List.find?_eq_none.mp h u hu
  simpa using this

/-! ## Users -/

theorem leaves_createUser {user : User} {g : String → HandlerError} (hs : E s) :
    Leaves R ((createUser services user).mapError g) s (fun created s' => s' = addUser services user s ∧
      created = { user with
        id := s.dataStore.user.next
        username := services.toLower user.username }) E := by
  refine .mapError ((Table.leaves_createObject (Q := fun id s' => id = s.dataStore.user.next ∧
    s' = addUser services user s) hs ⟨rfl, rfl⟩).bind fun id s' h => ?_)
  obtain ⟨rfl, rfl⟩ := h
  exact .pure ⟨rfl, rfl⟩

theorem leaves_hashPassword {password : String} :
    Leaves R (hashPassword services salt password) s
      (fun hash s' => s' = s ∧ (R .cryptoService → hash ≠ "")) E := by
  refine .mapError (Leaves.bind (M := fun r s' => s' = s ∧ ∀ text, r = .error text → ¬ R .cryptoService)
    (.attempt_call ⟨rfl, fun _ h => by nomatch h⟩ fun hR _ => ⟨rfl, fun _ _ => hR⟩) fun r s' h => ?_)
  obtain ⟨rfl, hr⟩ := h
  cases r with
  | ok _ => exact .pure ⟨rfl, fun _ => services.generateFromPassword_ne _ _⟩
  | error text => exact .pure ⟨rfl, fun hR => absurd hR (hr text rfl)⟩

theorem leaves_adminInit {payload : AdminInitPayload} (hs : I s)
    (h : ∀ password, (∀ u ∈ s.dataStore.user.all, u.role ≠ .administrator) →
      (R .cryptoService → password ≠ "") → I (addUser services
        { id := 0, username := payload.username, role := .administrator, password := password } s)) :
    Leaves R (adminInit services salt payload) s (fun _ => I) I := by
  refine .read_bind (P := fun _ => True) (.mapError (.ofExcept (fun _ _ => ⟨rfl, trivial⟩) hs))
    fun _ _ => .query_bind hs (.require_bind hs fun hnone => ?_)
  refine .read_bind leaves_hashPassword fun password hpassword => ?_
  refine (leaves_createUser hs).conseq (fun _ s' h' => ?_) fun _ he => he
  obtain ⟨rfl, -⟩ := h'
  refine h password (fun u hu hrole => ?_) hpassword
  exact List.filter_eq_nil_iff.mp hnone u hu (by simpa using hrole)

theorem leaves_newPassword {password : String} {method : AuthenticationMethod} :
    Leaves R (newPassword services salt password method) s (fun _ s' => s' = s ∧ True) E := by
  unfold newPassword
  exact .ite (fun _ => leaves_hashPassword.conseq (fun _ _ h => ⟨h.1, trivial⟩) fun _ he => he)
    fun _ => .pure ⟨rfl, trivial⟩

theorem leaves_userCreate {context : RestrictedRequestContext} {payload : UserCreatePayload} (hs : I s)
    (h : ∀ password, NameFree services payload.username s → I (addUser services
      { id := 0
        username := payload.username
        role := userRole payload.role
        password := password } s)) :
    Leaves R (userCreate services salt context payload) s (fun _ => I) I := by
  refine .read_bind (P := fun _ => True) (.mapError (.ofExcept (fun _ _ => ⟨rfl, trivial⟩) hs))
    fun _ _ => .require_bind hs fun _ => .require_bind hs fun _ => .query_bind hs
    (.require_bind hs fun hnone => .query_bind hs ?_)
  refine .read_bind leaves_newPassword fun password _ => ?_
  refine (leaves_createUser hs).bind fun _ s' h' => ?_
  obtain ⟨rfl, -⟩ := h'
  exact .pure (h password (nameFree_of_find? hnone))

/-- The name of a user may become `username`: it is the one they have, or
whoever is found under it is the user. -/
def MayRename (services : Services) (user : User) (username : String) (s : Server) : Prop :=
  username = user.username ∨ ∀ u, s.dataStore.user.all.find? (fun u =>
    services.equalFold u.username (services.toLower username)) = some u → u.id = user.id

theorem leaves_updatedUsername {user : User} {name : String} (hs : E s) :
    Leaves R (updatedUsername services user name) s
      (fun username s' => s' = s ∧ MayRename services user username s) E := by
  unfold updatedUsername
  refine .ite (fun _ => ?_) fun _ => .pure ⟨rfl, .inl rfl⟩
  exact .query_bind hs (.require_bind hs fun hsame => .pure ⟨rfl, .inr fun u hu => hsame u hu⟩)

theorem leaves_updatedPassword {user : User} {new : String} :
    Leaves R (updatedPassword services salt user new) s (fun password s' => s' = s ∧
      (new = "" ∧ password = user.password ∨ new ≠ "" ∧ (R .cryptoService → password ≠ ""))) E := by
  unfold updatedPassword
  refine .ite (fun hnew => ?_) fun hnew => .pure ⟨rfl, .inl ⟨by simpa using hnew, rfl⟩⟩
  exact leaves_hashPassword.conseq (fun _ _ h => ⟨h.1, .inr ⟨hnew, h.2⟩⟩) fun _ he => he

theorem UserUpdatePayload.role_of_valid (payload : UserUpdatePayload) (h : payload.validate = .ok ()) :
    payload.role = 0 ∨ payload.role = 1 ∨ payload.role = 2 := by
  unfold UserUpdatePayload.validate at h
  split at h
  · nomatch h
  · split at h
    · nomatch h
    · omega

theorem leaves_userUpdate {tokenData : TokenData} {userID : UserID} {payload : UserUpdatePayload}
    (hs : I s)
    (h : ∀ user username password, s.dataStore.user.get? userID = some user →
      (payload.role = 0 ∨ payload.role = 1 ∨ payload.role = 2) →
      (tokenData.role = .administrator ∨ payload.role = 0) → MayRename services user username s →
      (payload.password = "" ∧ password = user.password ∨
        payload.password ≠ "" ∧ (R .cryptoService → password ≠ "")) →
      I (setUser services
        { user with
          username := username
          password := password
          role := if payload.role ≠ 0 then userRole payload.role else user.role } s)) :
    Leaves R (userUpdate services salt tokenData userID payload) s (fun _ => I) I := by
  refine .require_bind hs fun _ => .read_bind (P := fun _ => payload.validate = .ok ())
    (.mapError (.ofExcept (fun _ h => ⟨rfl, h⟩) hs)) fun _ hvalid => .require_bind hs fun hrole =>
    .lookup_bind hs fun user huser => ?_
  refine .read_bind (leaves_updatedUsername hs) fun username hname => ?_
  refine .read_bind leaves_updatedPassword fun password hpassword => ?_
  exact .call_bind hs (.pure (h user username password huser (payload.role_of_valid hvalid) hrole hname
    hpassword))

theorem leaves_userUpdatePassword {tokenData : TokenData} {userID : UserID}
    {payload : UserUpdatePasswordPayload} (hs : I s)
    (h : ∀ user password, s.dataStore.user.get? userID = some user →
      (R .cryptoService → password ≠ "") → I (setUser services { user with password := password } s)) :
    Leaves R (userUpdatePassword services salt tokenData userID payload) s (fun _ => I) I := by
  refine .require_bind hs fun _ => .read_bind (P := fun _ => True)
    (.mapError (.ofExcept (fun _ _ => ⟨rfl, trivial⟩) hs)) fun _ _ => .lookup_bind hs fun user huser =>
    .require_bind hs fun _ => ?_
  refine .read_bind leaves_hashPassword fun password hpassword => ?_
  exact .mapError (.call (h user password huser hpassword) hs)

theorem leaves_deleteUser {user : User} (hs : I s)
    (hdelete : I (Server.user.change (·.delete user.id) s))
    (hdrop : I (dropMemberships (fun m => m.userID = user.id)
      (Server.user.change (·.delete user.id) s))) :
    Leaves R (deleteUser user) s (fun _ => I) I :=
  .call_bind hs (.mapError (.call hdrop hdelete))

theorem leaves_userDelete {tokenData : TokenData} {userID : UserID} (hs : I s)
    (h : ∀ user, s.dataStore.user.get? userID = some user →
      (isLocalAdmin user = true → 2 ≤ s.dataStore.user.all.countP isLocalAdmin) →
      I (Server.user.change (·.delete user.id) s) ∧
        I (dropMemberships (fun m => m.userID = user.id) (Server.user.change (·.delete user.id) s))) :
    Leaves R (userDelete tokenData userID) s (fun _ => I) I := by
  refine .require_bind hs fun _ => .require_bind hs fun _ => .lookup_bind hs fun user huser => ?_
  have hdelete : (isLocalAdmin user = true → 2 ≤ s.dataStore.user.all.countP isLocalAdmin) →
      Leaves R (deleteUser user) s (fun _ => I) I :=
    fun hcount => leaves_deleteUser hs (h user huser hcount).1 (h user huser hcount).2
  unfold deleteAdminUser
  refine .ite (fun _ => .ite (fun hempty => hdelete ?_) fun _ => ?_) fun hrole => hdelete ?_
  · simp [isLocalAdmin, hempty]
  · exact .query_bind hs (.require_bind hs fun hcount => hdelete fun _ => hcount)
  · simp [isLocalAdmin, hrole]

/-! ## Teams and settings -/

theorem leaves_teamCreate {name : String} (hs : I s)
    (h : (∀ t ∈ s.dataStore.team.all, services.equalFold t.name name = false) →
      I (Server.team.change
        (fun b => b.nextSequence.put { id := s.dataStore.team.next, name := name }) s)) :
    Leaves R (teamCreate services name) s (fun _ => I) I := by
  refine .require_bind hs fun _ => .query_bind hs (.require_bind hs fun hnone => ?_)
  refine (Leaves.mapError (Table.leaves_createObject (Q := fun _ => I) hs (h fun t ht => ?_))).bind
    fun _ _ he => .pure he
  have := List.find?_eq_none.mp hnone t ht
  simpa using this

theorem leaves_teamUpdate {teamID : TeamID} {name : String} (hs : I s)
    (h : ∀ team, s.dataStore.team.get? teamID = some team →
      I (Server.team.change (·.put { team with name := if name ≠ "" then name else team.name }) s)) :
    Leaves R (teamUpdate teamID name) s (fun _ => I) I :=
  .lookup_bind hs fun team hteam => .call_bind hs (.pure (h team hteam))

theorem leaves_updateSettings {settings : Settings} (hs : I s)
    (h : ∀ s settings, I s → I (withSettings settings s)) :
    Leaves R (Server.updateSettings settings) s (fun _ => I) I :=
  .call (h s settings hs) hs

theorem leaves_teamDelete {teamID : TeamID} (hs : I s)
    (hdelete : I (Server.team.change (·.delete teamID) s))
    (hdrop : I (dropMemberships (fun m => m.teamID = teamID) (Server.team.change (·.delete teamID) s)))
    (hsettings : ∀ s settings, I s → I (withSettings settings s)) :
    Leaves R (teamDelete teamID) s (fun _ => I) I := by
  refine .lookup_bind hs fun team _ => .call_bind hs (.call_bind hdelete (.mapError ?_))
  refine .query_bind hdrop (.ite (fun _ => .pure hdrop) fun _ => .mapError ?_)
  exact leaves_updateSettings hdrop hsettings

theorem leaves_settingsUpdate {payload : SettingsUpdatePayload} (hs : I s)
    (h : ∀ s settings, I s → I (withSettings settings s)) :
    Leaves R (settingsUpdate payload) s (fun _ => I) I := by
  refine .read_bind (P := fun _ => True) (.mapError (.ofExcept (fun _ _ => ⟨rfl, trivial⟩) hs))
    fun _ _ => .query_bind hs ?_
  exact (Leaves.mapError (leaves_updateSettings hs h)).bind fun _ _ he => .pure he

/-! ## Memberships -/

theorem leaves_createTeamMembership {membership : TeamMembership} (hs : E s) :
    Leaves R (createTeamMembership membership) s (fun _ s' => s' = addMembership membership s) E :=
  (Table.leaves_createObject (Q := fun _ s' => s' = addMembership membership s) hs rfl).bind
    fun _ _ h => .pure h

/-- The user is not in the team. -/
def NotIn (userID : UserID) (teamID : TeamID) (s : Server) : Prop :=
  ∀ m ∈ s.dataStore.teamMembership.all, ¬ (m.userID = userID ∧ m.teamID = teamID)

theorem leaves_teamMembershipCreate {context : RestrictedRequestContext}
    {payload : TeamMembershipPayload} (hs : I s)
    (h : NotIn payload.userID payload.teamID s → I (addMembership
      { id := 0
        userID := payload.userID
        teamID := payload.teamID
        role := membershipRole payload.role } s)) :
    Leaves R (teamMembershipCreate context payload) s (fun _ => I) I := by
  refine .read_bind (P := fun _ => True) (.mapError (.ofExcept (fun _ _ => ⟨rfl, trivial⟩) hs))
    fun _ _ => .require_bind hs fun _ => .query_bind hs (.require_bind hs fun hnone => ?_)
  refine .mapError ((leaves_createTeamMembership hs).conseq (fun _ _ hs' => ?_) fun _ he => he)
  rw [hs']
  refine h fun m hm hmem => hnone m (List.mem_filter.mpr ⟨hm, ?_⟩) hmem
  simpa using hmem.1

theorem leaves_teamMembershipUpdate {context : RestrictedRequestContext}
    {membershipID : TeamMembershipID} {payload : TeamMembershipPayload} (hs : I s)
    (h : ∀ membership, s.dataStore.teamMembership.get? membershipID = some membership →
      I (Server.teamMembership.change (·.put
        { membership with
          userID := payload.userID
          teamID := payload.teamID
          role := membershipRole payload.role }) s)) :
    Leaves R (teamMembershipUpdate context membershipID payload) s (fun _ => I) I := by
  refine .read_bind (P := fun _ => True) (.mapError (.ofExcept (fun _ _ => ⟨rfl, trivial⟩) hs))
    fun _ _ => .require_bind hs fun _ => .lookup_bind hs fun membership hget => .require_bind hs
    fun _ => ?_
  exact .call_bind hs (.pure (h membership hget))

theorem leaves_teamMembershipDelete {context : RestrictedRequestContext}
    {membershipID : TeamMembershipID} (hs : I s)
    (h : I (Server.teamMembership.change (·.delete membershipID) s)) :
    Leaves R (teamMembershipDelete context membershipID) s (fun _ => I) I :=
  .lookup_bind hs fun _ _ => .require_bind hs fun _ => .mapError (.call h hs)

end Users

end Portainer
