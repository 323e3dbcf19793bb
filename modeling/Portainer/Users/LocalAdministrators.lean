import Portainer.Users.Helpers.Logins
/-!
# Local administrators — one always remains

A local administrator is one whose password is kept here. The deletion of
users counts them, and refuses to delete the last. The update of users does
not: it may take the role from the last one, and it stores an empty
password where hashing fails. Without such updates one remains from the
creation of the first on (`localAdmin_of_run`), and the public route that
creates the first never succeeds again.
-/

namespace Portainer

open Action (Ensures Leaves)

namespace Users

variable {services : Services} {s s' : Server} {early : Prop}

/-! ## The property -/

/-- A user who is a local administrator. -/
def LocalAdminAt (s : Server) (id : UserID) : Prop :=
  ∃ u, s.dataStore.user.get? id = some u ∧ isLocalAdmin u = true

/-- **There is a local administrator.** -/
def LocalAdmin (s : Server) : Prop := ∃ id, LocalAdminAt s id

theorem localAdmin_iff_any : LocalAdmin s ↔ s.dataStore.user.all.any isLocalAdmin = true := by
  rw [List.any_eq_true]
  constructor
  · rintro ⟨id, u, hu, hlocal⟩
    exact ⟨u, Bucket.mem_all_of_get? hu, hlocal⟩
  · rintro ⟨u, hmem, hlocal⟩
    exact ⟨u.id, u, Bucket.mem_all.mp hmem, hlocal⟩

/-- There is an administrator, local or not. -/
def Initialised (s : Server) : Prop := ∃ id, ∃ u, s.dataStore.user.get? id = some u ∧ u.role = .administrator

theorem isLocalAdmin_iff {u : User} : isLocalAdmin u = true ↔ u.role = .administrator ∧ u.password ≠ "" := by
  simp [isLocalAdmin]

theorem LocalAdmin.initialised (h : LocalAdmin s) : Initialised s := by
  obtain ⟨id, u, hu, hlocal⟩ := h
  exact ⟨id, u, hu, (isLocalAdmin_iff.mp hlocal).1⟩

/-- **The first administrator is created once**: the route fails where there
is one already. -/
theorem adminInit_fails {salt : String} {payload : AdminInitPayload} (h : Initialised s) :
    Ensures (adminInit services salt payload) s fun _ _ => False := by
  obtain ⟨id, u, hu, hrole⟩ := h
  refine Leaves.ensures (Leaves.read_bind (E := fun _ => True) (P := fun _ => True)
    (.mapError (.ofExcept (fun _ _ => ⟨rfl, trivial⟩) trivial)) fun _ _ => .query_bind trivial
    (.require_bind trivial fun hnone => ?_))
  have hmem := Bucket.mem_all_of_get? hu
  exact absurd (by simpa using hrole) (List.filter_eq_nil_iff.mp hnone u hmem)

/-! ## The writes -/

theorem LocalAdminAt.congr {id : UserID} (h : LocalAdminAt s id)
    (husers : s'.dataStore.user = s.dataStore.user) : LocalAdminAt s' id := by
  obtain ⟨u, hu, hlocal⟩ := h
  exact ⟨u, by rw [husers]; exact hu, hlocal⟩

theorem LocalAdminAt.addUser {user : User} {id : UserID} (hbounded : s.dataStore.user.Bounded)
    (h : LocalAdminAt s id) : LocalAdminAt (addUser services user s) id := by
  obtain ⟨u, hu, hlocal⟩ := h
  refine ⟨u, ?_, hlocal⟩
  -- the number drawn is not in use
  have hne : s.dataStore.user.next ≠ id := fun hid => by
    have hnone := hbounded.get?_next
    rw [hid, hu] at hnone
    nomatch hnone
  exact (Bucket.get?_put_of_ne hne).trans hu

theorem LocalAdminAt.setUser_of_ne {user : User} {id : UserID} (h : LocalAdminAt s id)
    (hne : user.id ≠ id) : LocalAdminAt (setUser services user s) id := by
  obtain ⟨u, hu, hlocal⟩ := h
  exact ⟨u, (Bucket.get?_put_of_ne hne).trans hu, hlocal⟩

theorem localAdminAt_setUser {user : User} (h : isLocalAdmin user = true) :
    LocalAdminAt (setUser services user s) user.id :=
  ⟨_, Bucket.get?_put_self, isLocalAdmin_iff.mpr (isLocalAdmin_iff.mp h)⟩

theorem LocalAdminAt.delete_of_ne {id id' : UserID} (h : LocalAdminAt s id) (hne : id' ≠ id) :
    LocalAdminAt (Server.user.change (·.delete id') s) id := by
  obtain ⟨u, hu, hlocal⟩ := h
  exact ⟨u, (Bucket.get?_delete_of_ne hne).trans hu, hlocal⟩

/-- Where two are counted there is another one. -/
theorem exists_other_localAdmin (id : UserID) (h : 2 ≤ s.dataStore.user.all.countP isLocalAdmin) :
    ∃ id', id' ≠ id ∧ LocalAdminAt s id' := by
  by_contra hnone
  push Not at hnone
  have hall : ∀ u ∈ s.dataStore.user.all.filter isLocalAdmin, u.id = id := by
    intro u hu
    obtain ⟨hmem, hlocal⟩ := List.mem_filter.mp hu
    by_contra hne
    exact hnone u.id hne ⟨u, Bucket.mem_all.mp hmem, hlocal⟩
  have hnodup : ((s.dataStore.user.all.filter isLocalAdmin).map key).Nodup :=
    (Bucket.nodup_keys_all _).sublist (List.filter_sublist.map _)
  rw [List.countP_eq_length_filter] at h
  -- two entries of the list would have the same identifier
  match hl : s.dataStore.user.all.filter isLocalAdmin, h with
  | u :: v :: l, _ =>
    rw [hl] at hall hnodup
    have hu : u.id = id := hall u (by simp)
    have hv : v.id = id := hall v (by simp)
    rw [List.map_cons, List.nodup_cons] at hnodup
    refine hnodup.1 ?_
    have hkey : key u = key v := hu.trans hv.symm
    simp [hkey]

/-- The user is the only local administrator. -/
def OnlyLocalAdmin (s : Server) (id : UserID) : Prop :=
  LocalAdminAt s id ∧ ∀ id', LocalAdminAt s id' → id' = id

theorem LocalAdmin.only_or_other (h : LocalAdmin s) (id : UserID) :
    OnlyLocalAdmin s id ∨ ∃ id', id' ≠ id ∧ LocalAdminAt s id' := by
  by_cases hother : ∃ id', id' ≠ id ∧ LocalAdminAt s id'
  · exact .inr hother
  · left
    have honly : ∀ id', LocalAdminAt s id' → id' = id := by
      intro id' hid'
      by_contra hne
      exact hother ⟨id', hne, hid'⟩
    obtain ⟨id', hid'⟩ := h
    exact ⟨honly id' hid' ▸ hid', honly⟩

/-! ## The invariant -/

/-- Nobody is an administrator, and no token says so of anybody. -/
structure Adminless (s : Server) : Prop where
  users : ∀ id u, s.dataStore.user.get? id = some u → u.role ≠ .administrator
  tokens : ∀ t ∈ s.issuedTokens, t.role ≠ .administrator

theorem Adminless.setUser {user : User} (h : Adminless s) (hrole : user.role ≠ .administrator) :
    Adminless (setUser services user s) := by
  refine ⟨fun id u hu => ?_, h.tokens⟩
  rw [get?_setUser] at hu
  split at hu
  · exact Option.some.inj hu ▸ hrole
  · exact h.users id u hu

/-- **Where the installation stands**: after the creation of the first
administrator, or before it, if that may be. -/
structure Standing (early : Prop) (s : Server) : Prop where
  bounded : s.dataStore.user.Bounded
  standing : early ∧ Adminless s ∨ LocalAdmin s

theorem Standing.congr (hs : Standing early s) (husers : s'.dataStore.user = s.dataStore.user)
    (htokens : s'.issuedTokens = s.issuedTokens) : Standing early s' := by
  refine ⟨by rw [husers]; exact hs.bounded, ?_⟩
  rcases hs.standing with ⟨hearly, h⟩ | ⟨id, h⟩
  · exact .inl ⟨hearly, fun id u hu => h.users id u (husers ▸ hu), fun t ht => h.tokens t (htokens ▸ ht)⟩
  · exact .inr ⟨id, h.congr husers⟩

theorem Standing.issue {u : User} (hs : Standing early s) (hu : s.dataStore.user.get? u.id = some u) :
    Standing early (issue (composeTokenData u) s) := by
  refine ⟨hs.bounded, hs.standing.imp_left fun ⟨hearly, h⟩ => ⟨hearly, h.users, fun t ht => ?_⟩⟩
  rcases List.mem_cons.mp ht with rfl | ht
  · exact h.users u.id u hu
  · exact h.tokens t ht

/-- Directories and providers bring along standard users. -/
theorem Standing.addStandardUser {user : User} (hs : Standing early s) (hrole : user.role = .standardUser) :
    Standing early (addUser services user s) := by
  refine ⟨hs.bounded.create rfl, hs.standing.imp
    (fun ⟨hearly, h⟩ => ⟨hearly, fun id u hu => ?_, h.tokens⟩) fun ⟨id, h⟩ => ⟨id, h.addUser hs.bounded⟩⟩
  rw [get?_addUser] at hu
  split at hu
  · rw [← Option.some.inj hu]
    simp [hrole]
  · exact h.users id u hu

/-- Behind `AdminAccess` there is an administrator already. -/
theorem Standing.localAdmin {token : Option TokenData} {context : RequestContext} (hs : Standing early s)
    (h : Admitted s token context) (hrole : context.tokenData.role = .administrator) :
    LocalAdmin s := by
  rcases hs.standing with ⟨-, hless⟩ | hlocal
  · exact absurd hrole (hless.tokens _ h.issued)
  · exact hlocal

/-! ## Requests -/

/-- **The request spares the last local administrator**: neither takes the
role from them, nor gives them a password that cannot be hashed. The first
one needs a password as well. -/
def SparesLastAdmin (s : Server) (a : Attempt) : Prop :=
  match a.request with
  | .adminInit _ => (a.sys s).Reliable .cryptoService
  | .userUpdate id payload => OnlyLocalAdmin s id →
      (payload.role = 2 → ¬ a.ByAdministrator) ∧
        (payload.password ≠ "" → (a.sys s).Reliable .cryptoService)
  | .userUpdatePassword id _ => OnlyLocalAdmin s id → (a.sys s).Reliable .cryptoService
  | _ => True

variable {R : Callee → Prop} {salt : String} {token : Option TokenData} {context : RequestContext}

theorem Standing.adminInit {payload : AdminInitPayload} (hs : Standing early s) (hR : R .cryptoService) :
    Leaves R (adminInit services salt payload) s (fun _ => Standing early) (Standing early) := by
  refine leaves_adminInit hs fun password _ hpassword => ⟨hs.bounded.create rfl, .inr ?_⟩
  exact ⟨s.dataStore.user.next, _, get?_addUser_next, isLocalAdmin_iff.mpr ⟨rfl, hpassword hR⟩⟩

theorem Standing.userUpdate {id : UserID} {payload : UserUpdatePayload} (hs : Standing early s)
    (h : Admitted s token context)
    (hC : OnlyLocalAdmin s id → (payload.role = 2 → context.tokenData.role ≠ .administrator) ∧
      (payload.password ≠ "" → R .cryptoService)) :
    Leaves R (userUpdate services salt context.tokenData id payload) s (fun _ => Standing early) (Standing early) := by
  refine leaves_userUpdate hs fun user username password huser hvalid hby _ hpassword => ?_
  have hkey : user.id = id := Bucket.key_of_get? huser
  refine ⟨hs.bounded.put (hs.bounded user.id user (hkey.symm ▸ huser)), ?_⟩
  rcases hs.standing with ⟨hearly, hless⟩ | hlocal
  · -- nobody is let through who may change a role
    left
    have hzero : payload.role = 0 := hby.resolve_left (hless.tokens _ h.issued)
    refine ⟨hearly, hless.setUser ?_⟩
    simpa [hzero] using hless.users id user huser
  · right
    rcases hlocal.only_or_other id with honly | ⟨id', hne, hother⟩
    · obtain ⟨hrole, hhash⟩ := hC honly
      obtain ⟨u, hu, hadmin⟩ := honly.1
      obtain rfl : user = u := Option.some.inj (huser.symm.trans hu)
      obtain ⟨hold, hkept⟩ := isLocalAdmin_iff.mp hadmin
      refine ⟨user.id, localAdminAt_setUser (isLocalAdmin_iff.mpr ⟨?_, ?_⟩)⟩
      · show (if payload.role ≠ 0 then userRole payload.role else user.role) = .administrator
        rcases hvalid with hzero | hone | htwo
        · simp [hzero, hold]
        · simp [hone, userRole]
        · have hnonzero : payload.role ≠ 0 := by omega
          exact absurd (hby.resolve_right hnonzero) (hrole htwo)
      · rcases hpassword with ⟨_, hsame⟩ | ⟨hnew, hhashed⟩
        · exact hsame ▸ hkept
        · exact hhashed (hhash hnew)
    · exact ⟨id', hother.setUser_of_ne (by rw [hkey]; exact hne.symm)⟩

theorem Standing.userUpdatePassword {id : UserID} {payload : UserUpdatePasswordPayload}
    (hs : Standing early s) (hC : OnlyLocalAdmin s id → R .cryptoService) :
    Leaves R (userUpdatePassword services salt context.tokenData id payload) s
      (fun _ => Standing early) (Standing early) := by
  refine leaves_userUpdatePassword hs fun user password huser hpassword => ?_
  have hkey : user.id = id := Bucket.key_of_get? huser
  refine ⟨hs.bounded.put (hs.bounded user.id user (hkey.symm ▸ huser)), ?_⟩
  rcases hs.standing with ⟨hearly, hless⟩ | hlocal
  · exact .inl ⟨hearly, hless.setUser (hless.users id user huser)⟩
  · right
    rcases hlocal.only_or_other id with honly | ⟨id', hne, hother⟩
    · obtain ⟨u, hu, hadmin⟩ := honly.1
      obtain rfl : user = u := Option.some.inj (huser.symm.trans hu)
      have hold := (isLocalAdmin_iff.mp hadmin).1
      exact ⟨user.id, localAdminAt_setUser (isLocalAdmin_iff.mpr ⟨hold, hpassword (hC honly)⟩)⟩
    · exact ⟨id', hother.setUser_of_ne (by rw [hkey]; exact hne.symm)⟩

/-- **The deletion of users counts.** -/
theorem Standing.userDelete {id : UserID} (hs : Standing early s) (hlocal : LocalAdmin s) :
    Leaves R (userDelete context.tokenData id) s (fun _ => Standing early) (Standing early) := by
  refine leaves_userDelete hs fun user huser hcount => ?_
  have hkey : user.id = id := Bucket.key_of_get? huser
  have hdelete : Standing early (Server.user.change (·.delete user.id) s) := by
    refine ⟨hs.bounded.delete, .inr ?_⟩
    by_cases hadmin : isLocalAdmin user = true
    · obtain ⟨id', hne, hother⟩ := exists_other_localAdmin user.id (hcount hadmin)
      exact ⟨id', hother.delete_of_ne hne.symm⟩
    · obtain ⟨id', u, hu, hadmin'⟩ := hlocal
      refine ⟨id', LocalAdminAt.delete_of_ne ⟨u, hu, hadmin'⟩ fun hid => hadmin ?_⟩
      rw [← hid, hkey, huser] at hu
      exact Option.some.inj hu ▸ hadmin'
  exact ⟨hdelete, hdelete.congr rfl rfl⟩

/-- **One request, successful or not.** -/
theorem Standing.step {a : Attempt} (hs : Standing early s) (hC : SparesLastAdmin s a)
    (hstep : (machine services).step s a = some s') : Standing early s' := by
  obtain rfl := Option.some.inj hstep
  obtain ⟨request, token, salt, faults⟩ := a
  -- hashing is taken not to fail where it does not
  let R : Callee → Prop := fun k => k = .cryptoService ∧ Sys.Reliable (⟨s, faults⟩ : Sys Callee Server) k
  have hleaves : ∀ {x : Handler Server Unit}, Leaves R x s (fun _ => Standing early) (Standing early) →
      Standing early (x.run ⟨s, faults⟩).2.store := fun h => h.store rfl fun _ hk => hk.2
  have hissue : KeptByTokens (Standing early) := fun _ _ h hu => h.issue hu
  have hjoin : KeptByJoining (Standing early) := fun _ _ _ h _ => h.congr rfl rfl
  have hsettings : ∀ s settings, Standing early s → Standing early (withSettings settings s) :=
    fun _ _ h => h.congr rfl rfl
  cases request with
  | adminInit payload => exact hleaves (leaves_publicAccess (hs.adminInit ⟨rfl, hC⟩))
  | authenticate payload userGroups =>
    exact hleaves (leaves_publicAccess (leaves_authenticate hjoin hissue hs fun _ =>
      hs.addStandardUser rfl))
  | validateOAuth code username =>
    refine hleaves (leaves_publicAccess (leaves_validateOAuth hissue hs
      (fun _ => hs.addStandardUser rfl) fun _ _ _ _ => ?_))
    exact (hs.addStandardUser rfl).congr rfl rfl
  | userCreate payload =>
    refine hleaves (leaves_behind_adminAccess hs fun _ h hrole => leaves_userCreate hs fun _ _ => ?_)
    obtain ⟨id, hlocal⟩ := hs.localAdmin h hrole
    exact ⟨hs.bounded.create rfl, .inr ⟨id, hlocal.addUser hs.bounded⟩⟩
  | userUpdate id payload =>
    refine hleaves (leaves_behind_authenticatedAccess hs fun _ h => hs.userUpdate h fun honly => ?_)
    obtain ⟨hrole, hhash⟩ := hC honly
    exact ⟨fun htwo hadmin => hrole htwo ⟨_, h.token_eq, hadmin⟩, fun hnew => ⟨rfl, hhash hnew⟩⟩
  | userUpdatePassword id payload =>
    exact hleaves (leaves_behind_authenticatedAccess hs fun _ _ => hs.userUpdatePassword
      fun honly => ⟨rfl, hC honly⟩)
  | userDelete id =>
    exact hleaves (leaves_behind_adminAccess hs fun _ h hrole => hs.userDelete (hs.localAdmin h hrole))
  | teamCreate name =>
    exact hleaves (leaves_behind_adminAccess hs fun _ _ _ => leaves_teamCreate hs fun _ =>
      hs.congr rfl rfl)
  | teamUpdate id name =>
    exact hleaves (leaves_behind_adminAccess hs fun _ _ _ => leaves_teamUpdate hs fun _ _ =>
      hs.congr rfl rfl)
  | teamDelete id =>
    exact hleaves (leaves_behind_adminAccess hs fun _ _ _ => leaves_teamDelete hs (hs.congr rfl rfl)
      (hs.congr rfl rfl) hsettings)
  | teamMembershipCreate payload =>
    exact hleaves (leaves_behind_adminAccess hs fun _ _ _ => leaves_teamMembershipCreate hs fun _ =>
      hs.congr rfl rfl)
  | teamMembershipUpdate id payload =>
    exact hleaves (leaves_behind_adminAccess hs fun _ _ _ => leaves_teamMembershipUpdate hs fun _ _ =>
      hs.congr rfl rfl)
  | teamMembershipDelete id =>
    exact hleaves (leaves_behind_adminAccess hs fun _ _ _ => leaves_teamMembershipDelete hs
      (hs.congr rfl rfl))
  | settingsUpdate payload =>
    exact hleaves (leaves_behind_adminAccess hs fun _ _ _ => leaves_settingsUpdate hs hsettings)

/-- **An administrator always remains.** From a server without users, along
requests that spare the last local administrator, there is one in every
state after the first has been created, and the route that creates the
first fails. -/
theorem localAdmin_of_run {s₀ s₁ : Server} {before after : List Attempt}
    (hnew : s₀.dataStore.user.all = []) (htokens : s₀.issuedTokens = [])
    (hC : (machine services).Along SparesLastAdmin s₀ (before ++ after))
    (hbefore : (machine services).run s₀ before = some s₁) (hinit : Initialised s₁)
    (hafter : (machine services).run s₁ after = some s) :
    LocalAdmin s ∧ ∀ salt payload, Ensures (adminInit services salt payload) s fun _ _ => False := by
  have hnone : ∀ id u, s₀.dataStore.user.get? id ≠ some u := by
    intro id u hu
    have hmem := Bucket.mem_all_of_get? hu
    rw [hnew] at hmem
    nomatch hmem
  have hs₀ : Standing True s₀ := by
    refine ⟨fun id u hu => absurd hu (hnone id u), .inl ⟨trivial, fun id u hu => absurd hu (hnone id u), ?_⟩⟩
    rw [htokens]
    exact fun t ht => nomatch ht
  obtain ⟨hCbefore, hCafter⟩ := Machine.along_append hC
  have hs₁ : Standing True s₁ :=
    Machine.run_invariant (fun _ _ _ h hC hstep => Standing.step h hC hstep) hs₀ hCbefore hbefore
  have hlocal₁ : LocalAdmin s₁ := by
    obtain ⟨id, u, hu, hrole⟩ := hinit
    exact hs₁.standing.resolve_left fun h => h.2.users id u hu hrole
  -- from here on there is no state without one
  have hs : Standing False s := Machine.run_invariant
    (fun _ _ _ h hC hstep => Standing.step h hC hstep) ⟨hs₁.bounded, .inr hlocal₁⟩ (hCafter s₁ hbefore) hafter
  have hlocal : LocalAdmin s := hs.standing.resolve_left fun h => h.1
  exact ⟨hlocal, fun _ _ => adminInit_fails hlocal.initialised⟩

/-- The first administrator is created. -/
def firstAdministrator : List Attempt := [{ request := .adminInit ⟨"admin", "secret"⟩ }]

/-- The first administrator signs in. -/
def firstLogin : Attempt where
  request := .authenticate ⟨"admin", "secret"⟩ []

/-- They create another one. -/
def secondAdministrator : Attempt where
  request := .userCreate { username := "bob", password := "pw", role := 1 }
  token := some ⟨1, "admin", .administrator⟩

/-- They become a standard user. -/
def resignation : Attempt where
  request := .userUpdate 1 { role := 2 }
  token := some ⟨1, "admin", .administrator⟩

theorem localAdmin_of_run_resigned : ∃ s₁ s,
    (machine plainServices).run {} firstAdministrator = some s₁ ∧
      (machine plainServices).run s₁ [firstLogin, secondAdministrator, resignation] = some s ∧
        LocalAdmin s ∧
          ∀ salt payload, Ensures (adminInit plainServices salt payload) s fun _ _ => False := by
  have hC : (machine plainServices).Along SparesLastAdmin {}
      (firstAdministrator ++ [firstLogin, secondAdministrator, resignation]) := by
    refine ⟨fun _ ho => (List.not_mem_nil ho).elim, fun s₁ h₁ => ⟨trivial, fun s₂ h₂ =>
      ⟨trivial, fun s₃ h₃ => ⟨fun honly => ?_, fun _ _ => trivial⟩⟩⟩⟩
    cases h₁
    cases h₂
    cases h₃
    exact absurd (honly.2 2 ⟨_, rfl, rfl⟩) (by decide)
  exact ⟨_, _, rfl, rfl, localAdmin_of_run rfl rfl hC rfl ⟨1, _, rfl, rfl⟩ rfl⟩

/-- **The last administrator resigns**, and anybody may create the first one
again. -/
theorem not_localAdmin : ∃ s₁ s, (machine plainServices).run {} firstAdministrator = some s₁ ∧
    Initialised s₁ ∧ (machine plainServices).run s₁ [firstLogin, resignation] = some s ∧
      ¬ LocalAdmin s ∧ ∃ u, ((adminInit plainServices "" ⟨"eve", "pw"⟩).run (.faultless s)).1 = .ok u := by
  refine ⟨_, _, rfl, ⟨1, _, rfl, rfl⟩, rfl, ?_, _, rfl⟩
  rw [localAdmin_iff_any]
  decide

end Users

end Portainer
