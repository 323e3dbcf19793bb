import Portainer.Users.Helpers.Logins
/-!
# Administrator rights — the role of the token and the stored role

The bouncer takes the role of a user from the token, which has the role of
the login. `Sessions` is the invariant that makes the two agree: whoever
holds a token of an administrator and is still stored is stored as one.
Logins, creations and deletions keep it (`Sessions.issue`,
`Sessions.addUser`, `Sessions.deleteUser`); an update that takes the role
away from a user who holds such a token breaks it, because the token stays
good. Without such updates the rights follow the stored role
(`administratorRights_of_run`).
-/

namespace Portainer

open Action (Ensures Leaves)

namespace Users

variable {services : Services} {s s' : Server}

/-! ## The property -/

/-- The user exists, and has the administrator role. -/
def IsAdministrator (s : Server) (id : UserID) : Prop :=
  ∃ u, s.dataStore.user.get? id = some u ∧ u.role = .administrator

/-- **Whoever is let through as an administrator is one**: behind
`AdminAccess` every request, behind `RestrictedAccess` those that it treats
so. -/
structure AdministratorRights (s : Server) : Prop where
  adminAccess : ∀ token : TokenData,
    Ensures (adminAccess (some token)) s fun _ _ => IsAdministrator s token.id
  restrictedAccess : ∀ token : TokenData, Ensures (restrictedAccess (some token)) s
    fun context _ => context.restricted.isAdmin = true → IsAdministrator s token.id

/-! ## The invariant -/

/-- **Where the sessions stand**: no token is of a user still to be created,
and the user of an administrator's token is an administrator, if stored. -/
structure Sessions (s : Server) : Prop where
  bounded : s.dataStore.user.Bounded
  drawn : ∀ t ∈ s.issuedTokens, t.id ≤ s.dataStore.user.sequence
  current : ∀ t ∈ s.issuedTokens, t.role = .administrator →
    ∀ u, s.dataStore.user.get? t.id = some u → u.role = .administrator

theorem Sessions.isAdministrator {token : Option TokenData} {context : RequestContext}
    (hs : Sessions s) (h : Admitted s token context)
    (hrole : context.tokenData.role = .administrator) : IsAdministrator s context.tokenData.id := by
  obtain ⟨u, hu⟩ := h.stored
  exact ⟨u, hu, hs.current _ h.issued hrole u hu⟩

theorem Sessions.administratorRights (hs : Sessions s) : AdministratorRights s where
  adminAccess := by
    intro token
    refine Leaves.ensures (Leaves.conseq (leaves_adminAccess (E := fun _ => True) trivial)
      (fun context s' h => ?_) fun _ he => he)
    obtain ⟨-, hadmitted, hrole⟩ := h
    have htoken : token = context.tokenData := Option.some.inj hadmitted.token_eq
    exact htoken ▸ hs.isAdministrator hadmitted hrole
  restrictedAccess := by
    intro token
    refine Leaves.ensures (Leaves.conseq (leaves_restrictedAccess (E := fun _ => True) trivial)
      (fun context s' h hadmin => ?_) fun _ he => he)
    obtain ⟨-, hadmitted⟩ := h
    have htoken : token = context.tokenData := Option.some.inj hadmitted.token_eq
    exact htoken ▸ hs.isAdministrator hadmitted (hadmitted.isAdmin.mp hadmin)

/-- The invariant is about users and tokens only. -/
theorem Sessions.congr (hs : Sessions s) (husers : s'.dataStore.user = s.dataStore.user)
    (htokens : s'.issuedTokens = s.issuedTokens) : Sessions s' := by
  obtain ⟨hbounded, hdrawn, hcurrent⟩ := hs
  rw [← husers] at hbounded hdrawn hcurrent
  rw [← htokens] at hdrawn hcurrent
  exact ⟨hbounded, hdrawn, hcurrent⟩

/-- A user who is created holds no token yet. -/
theorem Sessions.addUser {user : User} (hs : Sessions s) : Sessions (addUser services user s) where
  bounded := hs.bounded.create rfl
  drawn := by
    intro t ht
    have hold : t.id ≤ s.dataStore.user.sequence := hs.drawn t ht
    exact Int.le_trans hold (Int.le_of_lt (Int.lt_succ _))
  current := by
    intro t ht hrole u hu
    have hold : t.id ≤ s.dataStore.user.sequence := hs.drawn t ht
    have hne : s.dataStore.user.next ≠ t.id := Int.ne_of_gt (Int.lt_add_one_of_le hold)
    rw [get?_addUser, if_neg hne] at hu
    exact hs.current t ht hrole u hu

/-- The record of a stored user may be replaced, if a user who holds an
administrator's token stays one. -/
theorem Sessions.setUser {user stored : User} (hs : Sessions s)
    (hstored : s.dataStore.user.get? user.id = some stored)
    (hrole : ∀ t ∈ s.issuedTokens, t.role = .administrator → t.id = user.id →
      user.role = .administrator) : Sessions (setUser services user s) where
  bounded := hs.bounded.put (hs.bounded user.id stored hstored)
  drawn := hs.drawn
  current := by
    intro t ht hadmin u hu
    rw [get?_setUser] at hu
    split at hu
    · rename_i hid
      rw [← Option.some.inj hu]
      exact hrole t ht hadmin hid.symm
    · exact hs.current t ht hadmin u hu

theorem Sessions.deleteUser {id : UserID} (hs : Sessions s) :
    Sessions (Server.user.change (·.delete id) s) where
  bounded := hs.bounded.delete
  drawn := hs.drawn
  current := by
    intro t ht hadmin u hu
    have hget : (Server.user.change (·.delete id) s).dataStore.user.get? t.id =
        if id = t.id then none else s.dataStore.user.get? t.id := Bucket.get?_delete
    rw [hget] at hu
    split at hu
    · nomatch hu
    · exact hs.current t ht hadmin u hu

/-- **A login signs the role that is stored.** -/
theorem Sessions.issue {u : User} (hs : Sessions s) (hu : s.dataStore.user.get? u.id = some u) :
    Sessions (issue (composeTokenData u) s) where
  bounded := hs.bounded
  drawn := by
    intro t ht
    rcases List.mem_cons.mp ht with rfl | ht
    · exact hs.bounded u.id u hu
    · exact hs.drawn t ht
  current := by
    intro t ht hadmin u' hu'
    rcases List.mem_cons.mp ht with rfl | ht
    · have hget : s.dataStore.user.get? u.id = some u' := hu'
      rw [hu] at hget
      exact Option.some.inj hget ▸ hadmin
    · exact hs.current t ht hadmin u' hu'

/-! ## Runs -/

/-- **The request takes no role away that a token still gives**: where an
administrator makes somebody a standard user, no administrator's token of
that user has been signed. -/
def SparesSessions (s : Server) (a : Attempt) : Prop :=
  match a.request with
  | .userUpdate id payload => payload.role = 2 → a.ByAdministrator →
      ∀ t ∈ s.issuedTokens, t.id = id → t.role ≠ .administrator
  | _ => True

theorem Sessions.userUpdate {context : RequestContext} {token : Option TokenData} {salt : String}
    {id : UserID} {payload : UserUpdatePayload} (hs : Sessions s) (h : Admitted s token context)
    (hC : payload.role = 2 → (∃ t, token = some t ∧ t.role = .administrator) →
      ∀ t ∈ s.issuedTokens, t.id = id → t.role ≠ .administrator) :
    Leaves (fun _ => False) (userUpdate services salt context.tokenData id payload) s
      (fun _ => Sessions) Sessions := by
  refine leaves_userUpdate hs fun user username password huser hvalid hby _ _ => ?_
  have hkey : user.id = id := Bucket.key_of_get? huser
  have hstored : s.dataStore.user.get? user.id = some user := hkey.symm ▸ huser
  refine hs.setUser hstored fun t ht hadmin hid => ?_
  have hold : user.role = .administrator := hs.current t ht hadmin user (hid.symm ▸ hstored)
  -- the role stays, or is set to administrator, or the condition excludes the token
  show (if payload.role ≠ 0 then userRole payload.role else user.role) = .administrator
  rcases hvalid with hzero | hone | htwo
  · simp [hzero, hold]
  · simp [hone, userRole]
  · have hnonzero : payload.role ≠ 0 := by omega
    have hsigned := hby.resolve_right hnonzero
    exact absurd hadmin (hC htwo ⟨_, h.token_eq, hsigned⟩ t ht (hid.trans hkey))

/-- **One request, successful or not.** -/
theorem Sessions.step {a : Attempt} (hs : Sessions s) (hC : SparesSessions s a)
    (hstep : (machine services).step s a = some s') : Sessions s' := by
  obtain rfl := Option.some.inj hstep
  obtain ⟨request, token, salt, faults⟩ := a
  have hleaves : ∀ {x : Handler Server Unit},
      Leaves (fun _ => False) x s (fun _ => Sessions) Sessions →
        Sessions (x.run ⟨s, faults⟩).2.store := fun h => h.store rfl fun _ hk => hk.elim
  have hissue : KeptByTokens Sessions := fun _ _ h hu => h.issue hu
  have hjoin : KeptByJoining Sessions := fun _ _ _ h _ => h.congr rfl rfl
  have hsettings : ∀ s settings, Sessions s → Sessions (withSettings settings s) :=
    fun _ _ h => h.congr rfl rfl
  cases request with
  | adminInit payload =>
    exact hleaves (leaves_publicAccess (leaves_adminInit hs fun _ _ _ => hs.addUser))
  | authenticate payload userGroups =>
    exact hleaves (leaves_publicAccess (leaves_authenticate hjoin hissue hs fun _ => hs.addUser))
  | validateOAuth code username =>
    refine hleaves (leaves_publicAccess (leaves_validateOAuth hissue hs (fun _ => hs.addUser) ?_))
    exact fun _ _ _ _ => hs.addUser.congr rfl rfl
  | userCreate payload =>
    exact hleaves (leaves_behind_adminAccess hs fun _ _ _ => leaves_userCreate hs fun _ _ => hs.addUser)
  | userUpdate id payload =>
    exact hleaves (leaves_behind_authenticatedAccess hs fun _ h => hs.userUpdate h hC)
  | userUpdatePassword id payload =>
    refine hleaves (leaves_behind_authenticatedAccess hs fun _ _ => leaves_userUpdatePassword hs
      fun user password huser _ => ?_)
    have hkey : user.id = id := Bucket.key_of_get? huser
    have hstored : s.dataStore.user.get? user.id = some user := hkey.symm ▸ huser
    refine hs.setUser hstored fun t ht hadmin hid => ?_
    exact hs.current t ht hadmin user (hid.symm ▸ hstored)
  | userDelete id =>
    exact hleaves (leaves_behind_adminAccess hs fun _ _ _ => leaves_userDelete hs fun _ _ _ =>
      ⟨hs.deleteUser, hs.deleteUser.congr rfl rfl⟩)
  | teamCreate name =>
    exact hleaves (leaves_behind_adminAccess hs fun _ _ _ => leaves_teamCreate hs fun _ =>
      hs.congr rfl rfl)
  | teamUpdate id name =>
    exact hleaves (leaves_behind_adminAccess hs fun _ _ _ => leaves_teamUpdate hs fun _ _ =>
      hs.congr rfl rfl)
  | teamDelete id =>
    exact hleaves (leaves_behind_adminAccess hs fun _ _ _ => leaves_teamDelete hs (hs.congr rfl rfl)
      (hs.congr rfl rfl) hsettings)
  | teamMembershipCreate payload =>
    exact hleaves (leaves_behind_adminAccess hs fun _ _ _ => leaves_teamMembershipCreate hs fun _ =>
      hs.congr rfl rfl)
  | teamMembershipUpdate id payload =>
    exact hleaves (leaves_behind_adminAccess hs fun _ _ _ => leaves_teamMembershipUpdate hs fun _ _ =>
      hs.congr rfl rfl)
  | teamMembershipDelete id =>
    exact hleaves (leaves_behind_adminAccess hs fun _ _ _ => leaves_teamMembershipDelete hs
      (hs.congr rfl rfl))
  | settingsUpdate payload =>
    exact hleaves (leaves_behind_adminAccess hs fun _ _ _ => leaves_settingsUpdate hs hsettings)

/-- **Administrator rights follow the stored role**, from a server that has
signed nothing yet, along requests that take no role away that a token
still gives. -/
theorem administratorRights_of_run {attempts : List Attempt} (hbounded : s.dataStore.user.Bounded)
    (hnew : s.issuedTokens = []) (hC : (machine services).Along SparesSessions s attempts)
    (hrun : (machine services).run s attempts = some s') : AdministratorRights s' := by
  have hs : Sessions s := by
    refine ⟨hbounded, fun t ht => ?_, fun t ht => ?_⟩ <;> rw [hnew] at ht <;> nomatch ht
  have hs' : Sessions s' :=
    Machine.run_invariant (fun _ _ _ h hC hstep => Sessions.step h hC hstep) hs hC hrun
  exact hs'.administratorRights

/-- A first administrator, who signs in and creates a second one. -/
def twoAdministrators : List Attempt :=
  [{ request := .adminInit ⟨"admin", "secret"⟩ },
    { request := .authenticate ⟨"admin", "secret"⟩ [] },
    { request := .userCreate { username := "bob", password := "pw", role := 1 }
      token := some ⟨1, "admin", .administrator⟩ }]

/-- The first administrator takes the role from the second. -/
def demotion : Attempt where
  request := .userUpdate 2 { role := 2 }
  token := some ⟨1, "admin", .administrator⟩

theorem administratorRights_of_run_demoted : ∃ s',
    (machine plainServices).run {} (twoAdministrators ++ [demotion]) = some s' ∧
      AdministratorRights s' := by
  have hC : (machine plainServices).Along SparesSessions {} (twoAdministrators ++ [demotion]) := by
    refine ⟨trivial, fun s₁ h₁ => ⟨trivial, fun s₂ h₂ => ⟨trivial, fun s₃ h₃ => ⟨?_, fun _ _ => trivial⟩⟩⟩⟩
    cases h₁
    cases h₂
    cases h₃
    intro _ _
    decide
  exact ⟨_, rfl, administratorRights_of_run (fun i a h => by simp at h) rfl hC rfl⟩

/-- **A role that is taken away stays in the token.** The second administrator
signs in first, and is still let through afterwards. -/
theorem not_administratorRights : ∃ s', (machine plainServices).run {}
      (twoAdministrators ++ [{ request := .authenticate ⟨"bob", "pw"⟩ [] }, demotion]) = some s' ∧
    ¬ AdministratorRights s' := by
  refine ⟨_, rfl, fun h => ?_⟩
  obtain ⟨u, hu, hrole⟩ := h.adminAccess ⟨2, "bob", .administrator⟩ (.faultless _) _ _ rfl rfl
  cases hu
  nomatch hrole

end Users

end Portainer
