import Portainer.ResourceControls.Helpers.Handlers
/-!
# Own access — what a regular user may make of a resource control

A user who is no administrator should give a resource to everybody, or to
nobody but themself and the teams they are in. `authorizedResourceControlUpdate`
counts the users and the teams of the payload, and is content with the
first of them that is the user or a team of theirs: what else the lists
name is not looked at.

`updatesOwn_iff` says for which payloads the stored controls come out
right; `not_updatesOwn` gives a resource to a team that the user is not in.
-/

namespace Portainer

open Action (require_bind_run_ok bind_run_ok bind_run_of_ok mapError_run_ok)

namespace ResourceControls

variable {context : RequestContext} {payload : ResourceControlUpdatePayload} {rc stored : ResourceControl}

/-! ## Access of one's own -/

/-- The user is in the team. -/
def InTeam (context : RestrictedRequestContext) (teamID : TeamID) : Prop :=
  ∃ membership ∈ context.userMemberships, membership.teamID = teamID

/-- **Everybody has access, or nobody but the user and teams of theirs.** -/
def GrantsOwn (context : RestrictedRequestContext) (rc : ResourceControl) : Prop :=
  rc.isPublic = true ∨ (∀ access ∈ rc.userAccesses, access.userID = context.userID) ∧
    ∀ access ∈ rc.teamAccesses, InTeam context access.teamID

/-- **Every update with the payload** that a user is granted leaves a stored
control which grants access to everybody, or to nobody else. -/
def UpdatesOwn (context : RequestContext) (payload : ResourceControlUpdatePayload) : Prop :=
  ∀ id rc (w w' : Sys Callee Server), (resourceControlUpdate context id payload).run w = (.ok rc, w') →
    w'.store.dataStore.resourceControl.get? id = some rc ∧ GrantsOwn context.restricted rc

/-- The lists of a payload are too long, or name neither the user alone nor
a team of theirs: the update refuses them. -/
def NamesTooMany (context : RestrictedRequestContext) (payload : ResourceControlUpdatePayload) : Prop :=
  1 < payload.users.length ∨ (payload.users.length = 1 ∧ payload.teams.length = 1) ∨
    (payload.users ≠ [context.userID] ∧ ∀ t ∈ payload.teams, ¬ InTeam context t)

/-- **When a payload does no harm**: a flag is set, the lists are refused, or
nobody else is in them. -/
def Harmless (context : RestrictedRequestContext) (payload : ResourceControlUpdatePayload) : Prop :=
  payload.isPublic = true ∨ payload.administratorsOnly = true ∨ NamesTooMany context payload ∨
    (∀ u ∈ payload.users, u = context.userID) ∧ ∀ t ∈ payload.teams, InTeam context t

/-! ## The check -/

theorem listsTeamOf_iff {context : RestrictedRequestContext} :
    listsTeamOf rc context = true ↔ ∃ access ∈ rc.teamAccesses, InTeam context access.teamID := by
  simp [listsTeamOf, InTeam]

theorem grantsOwn_update {context : RestrictedRequestContext} :
    GrantsOwn context (payload.update stored) ↔ payload.isPublic = true ∨
      (∀ u ∈ payload.users, u = context.userID) ∧ ∀ t ∈ payload.teams, InTeam context t := by
  simp [GrantsOwn, ResourceControlUpdatePayload.update, userAccessesOf, teamAccessesOf]

/-- **What the check lets through** of a user who is no administrator. -/
theorem authorizedResourceControlUpdate_iff {context : RestrictedRequestContext}
    (hadmin : context.isAdmin = false) :
    authorizedResourceControlUpdate (payload.update stored) context = true ↔
      payload.isPublic = true ∨ (payload.administratorsOnly = false ∧ ¬ NamesTooMany context payload) := by
  have hteams : listsTeamOf (payload.update stored) context = true ↔
      ∃ t ∈ payload.teams, InTeam context t := by
    rw [listsTeamOf_iff]
    simp [ResourceControlUpdatePayload.update, teamAccessesOf]
  obtain ⟨isPublic, users, teams, administratorsOnly⟩ := payload
  cases isPublic with
  | true => simp [authorizedResourceControlUpdate, ResourceControlUpdatePayload.update]
  | false =>
    cases administratorsOnly with
    | true => simp [authorizedResourceControlUpdate, ResourceControlUpdatePayload.update, hadmin]
    | false =>
      simp only [authorizedResourceControlUpdate, ResourceControlUpdatePayload.update, hadmin,
        userAccessesOf, teamAccessesOf, List.length_map, NamesTooMany] at hteams ⊢
      -- the lists by the number of users: none, one, or more
      rcases users with _ | ⟨u, _ | ⟨v, users⟩⟩
      · rcases teams with _ | ⟨t, teams⟩
        · simp
        · simpa [or_iff_not_imp_left] using hteams
      · by_cases hone : teams.length = 1
        · simp [hone]
        · by_cases hu : u = context.userID
          · simp [hone, hu]
          · simpa [hone, hu] using hteams
      · simp

/-! ## The handler -/

/-- **An update that is granted**, and what it stores. -/
theorem resourceControlUpdate_run_ok {id : ResourceControlID} {w w' : Sys Callee Server}
    (h : (resourceControlUpdate context id payload).run w = (.ok rc, w')) :
    ∃ stored, w.store.dataStore.resourceControl.get? id = some stored ∧
      authorizedResourceControlUpdate (payload.update stored) context.restricted = true ∧
      rc = payload.update stored ∧ w'.store = putControl rc w.store := by
  obtain ⟨_, w₁, hvalid, h⟩ := bind_run_ok.mp h
  have hw₁ : w = w₁ := by
    rw [mapError_run_ok] at hvalid
    cases hchecked : payload.validate with
    | error e =>
      rw [hchecked] at hvalid
      nomatch hvalid
    | ok u =>
      rw [hchecked] at hvalid
      exact (Prod.mk.inj hvalid).2
  obtain ⟨stored, w₂, hfound, h⟩ := bind_run_ok.mp h
  obtain ⟨hstored, hw₂⟩ := Action.lookup_run_ok (mapError_run_ok.mp hfound)
  obtain ⟨-, h⟩ := require_bind_run_ok.mp h
  obtain ⟨hupdate, h⟩ := require_bind_run_ok.mp h
  obtain ⟨_, w₃, hput, h⟩ := bind_run_ok.mp h
  have hw₃ : w₃.store = putControl (payload.update stored) w₂.store :=
    Action.call_run_ok (mapError_run_ok.mp hput)
  obtain ⟨rfl, rfl⟩ := Action.pure_run_ok.mp h
  subst hw₁
  exact ⟨stored, hstored, hupdate, rfl, by rw [hw₃, hw₂]⟩

/-- What is stored after it. -/
theorem get?_of_resourceControlUpdate {id : ResourceControlID} {w w' : Sys Callee Server}
    (h : (resourceControlUpdate context id payload).run w = (.ok rc, w')) :
    w'.store.dataStore.resourceControl.get? id = some rc := by
  obtain ⟨stored, hstored, -, rfl, hend⟩ := resourceControlUpdate_run_ok h
  have hid : Record.key (payload.update stored) = id := Bucket.key_of_get? (a := stored) hstored
  have hput : (putControl (payload.update stored) w.store).dataStore.resourceControl.get? id =
      some (payload.update stored) := hid ▸ Bucket.get?_put_self
  rw [hend, hput]

/-- A server with a resource control for everybody. -/
def shared : Server where
  dataStore := {
    resourceControl := ({} : Bucket ResourceControl).put
      { id := 1, resourceID := "web", type := .container, isPublic := true } }

/-- The control that is there. -/
def sharedControl : ResourceControl := { id := 1, resourceID := "web", type := .container, isPublic := true }

/-- Everybody may update that control, within the check. -/
theorem resourceControlUpdate_run_shared (hvalid : payload.validate = .ok ())
    (hupdate : authorizedResourceControlUpdate (payload.update sharedControl) context.restricted = true) :
    (resourceControlUpdate context 1 payload).run (.faultless shared) =
      (.ok (payload.update sharedControl),
        .faultless (putControl (payload.update sharedControl) shared)) := by
  have hchecked : ((Action.ofExcept payload.validate).mapError
      (HandlerError.badRequest "Invalid request payload") : Handler Server Unit).run (.faultless shared) =
        (.ok (), .faultless shared) := by
    rw [hvalid]
    rfl
  have hfound : (findResourceControl 1).run (.faultless shared) =
      (.ok sharedControl, .faultless shared) :=
    mapError_run_ok.mpr (Action.lookup_run_faultless rfl)
  have haccess : authorizedResourceControlAccess sharedControl context.restricted = true := by
    simp [authorizedResourceControlAccess, sharedControl]
  refine (bind_run_of_ok hchecked).trans ((bind_run_of_ok hfound).trans ?_)
  refine (bind_run_of_ok (Action.require_run_of haccess)).trans ?_
  refine (bind_run_of_ok (Action.require_run_of hupdate)).trans ?_
  exact bind_run_of_ok (mapError_run_ok.mpr (Action.call_run_faultless _ _))

/-! ## Payloads -/

/-- A payload that does harm names somebody and sets no flag, so it is
valid. -/
theorem validate_of_not_harmless {context : RestrictedRequestContext} (h : ¬ Harmless context payload) :
    payload.validate = .ok () := by
  simp only [Harmless, not_or, Bool.not_eq_true] at h
  obtain ⟨hpublic, hadmins, -, hothers⟩ := h
  have hnamed : ¬ (payload.users.length = 0 ∧ payload.teams.length = 0) := by
    rintro ⟨husers, hteams⟩
    refine hothers ⟨fun u hu => ?_, fun t ht => ?_⟩
    · rw [List.length_eq_zero_iff.mp husers] at hu
      exact (List.not_mem_nil hu).elim
    · rw [List.length_eq_zero_iff.mp hteams] at ht
      exact (List.not_mem_nil ht).elim
  unfold ResourceControlUpdatePayload.validate checkAccesses
  rw [if_neg fun hnone => hnamed ⟨hnone.1, hnone.2.1⟩, if_neg fun hboth => by simp [hpublic] at hboth]

/-- **Which payloads a regular user can do no harm with.** -/
theorem updatesOwn_iff (hadmin : context.restricted.isAdmin = false) :
    UpdatesOwn context payload ↔ Harmless context.restricted payload := by
  constructor
  · intro hown
    by_contra hharm
    have hvalid : payload.validate = .ok () := validate_of_not_harmless hharm
    simp only [Harmless, not_or, Bool.not_eq_true] at hharm
    obtain ⟨hpublic, hadmins, hmany, hothers⟩ := hharm
    have hupdate : authorizedResourceControlUpdate (payload.update sharedControl) context.restricted =
        true := (authorizedResourceControlUpdate_iff hadmin).mpr (.inr ⟨hadmins, hmany⟩)
    have hrun := resourceControlUpdate_run_shared hvalid hupdate
    rcases grantsOwn_update.mp (hown _ _ _ _ hrun).2 with hpub | hnobody
    · rw [hpublic] at hpub
      nomatch hpub
    · exact hothers hnobody
  · intro hharmless id rc w w' hrun
    refine ⟨get?_of_resourceControlUpdate hrun, ?_⟩
    obtain ⟨stored, -, hupdate, rfl, -⟩ := resourceControlUpdate_run_ok hrun
    rw [grantsOwn_update]
    rcases (authorizedResourceControlUpdate_iff hadmin).mp hupdate with hpublic | ⟨hadmins, hmany⟩
    · exact .inl hpublic
    · -- the check is passed by the lists, so they are not refused
      rcases hharmless with hpublic | hflag | hrefused | hnobody
      · exact .inl hpublic
      · rw [hadmins] at hflag
        nomatch hflag
      · exact absurd hrefused hmany
      · exact .inr hnobody

/-- User 2, who is in team 1. -/
def member : RequestContext where
  tokenData := ⟨2, "member", .standardUser⟩
  restricted := ⟨false, 2, [{ id := 1, userID := 2, teamID := 1, role := .teamMember }], false⟩

theorem updatesOwn_iff_member :
    UpdatesOwn member { teams := [1] } ↔ Harmless member.restricted { teams := [1] } :=
  updatesOwn_iff rfl

/-- **User 2 gives a resource to team 9**, with their own team before it. -/
theorem not_updatesOwn : ¬ UpdatesOwn member { teams := [1, 9] } := by
  intro hown
  have hvalid : ({ teams := [1, 9] } : ResourceControlUpdatePayload).validate = .ok () := rfl
  have hupdate : authorizedResourceControlUpdate
      (({ teams := [1, 9] } : ResourceControlUpdatePayload).update sharedControl) member.restricted = true := by
    decide
  have hrun := resourceControlUpdate_run_shared hvalid hupdate
  rcases grantsOwn_update.mp (hown _ _ _ _ hrun).2 with hpublic | ⟨-, hteams⟩
  · nomatch hpublic
  · obtain ⟨m, hm, hteam⟩ := hteams 9 (by simp)
    rw [List.mem_singleton.mp hm] at hteam
    exact absurd hteam (by decide)

end ResourceControls

end Portainer
