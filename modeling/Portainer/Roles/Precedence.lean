import Portainer.Common.Tabulation
import Portainer.Roles.Model
/-!
# Roles — which role decides

`Authorizes` says what a user may do on an endpoint: at the first of the
four levels that name an existing role, the highest of the roles it names.
`userEndpointAuthorizations_spec`: this is what is computed, and it depends
on which endpoints, groups, roles and memberships there are, and not on how
they are listed.
-/

namespace Portainer

open Std

namespace Roles

/-! ## The levels -/

/-- The four levels at which a role may be given. -/
inductive Level
  | userOnEndpoint
  | userOnGroup
  | teamOnEndpoint
  | teamOnGroup
  deriving DecidableEq, Repr

/-- Their order: a level of lower rank decides before one of higher rank. -/
def Level.rank : Level → ℕ
  | .userOnEndpoint => 0
  | .userOnGroup => 1
  | .teamOnEndpoint => 2
  | .teamOnGroup => 3

variable {user : User} {endpoints endpoints' : List Endpoint} {groups groups' : List EndpointGroup}
variable {roles roles' : List Role} {memberships memberships' : List TeamMembership}
variable {endpoint : Endpoint} {level : Level}

/-- A policy of the level names the user, or a team of theirs, with the
role. -/
def Names (user : User) (groups : List EndpointGroup) (memberships : List TeamMembership)
    (endpoint : Endpoint) (level : Level) (id : RoleID) : Prop :=
  match level with
  | .userOnEndpoint => ∃ p, endpoint.userAccessPolicies[user.id]? = some p ∧ p.roleID = id
  | .userOnGroup => ∃ g ∈ groups, g.id = endpoint.groupID ∧
      ∃ p, g.userAccessPolicies[user.id]? = some p ∧ p.roleID = id
  | .teamOnEndpoint => ∃ m ∈ memberships,
      ∃ p, endpoint.teamAccessPolicies[m.teamID]? = some p ∧ p.roleID = id
  | .teamOnGroup => ∃ g ∈ groups, g.id = endpoint.groupID ∧
      ∃ m ∈ memberships, ∃ p, g.teamAccessPolicies[m.teamID]? = some p ∧ p.roleID = id

/-- The highest of the roles that exist and are named. -/
structure Highest (roles : List Role) (chosen : RoleID → Prop) (r : Role) : Prop where
  mem : r ∈ roles
  named : chosen r.id
  highest : ∀ r' ∈ roles, chosen r'.id → r'.priority ≤ r.priority

/-- **What the user is authorised to do**: the authorizations of the highest
role at the first level that names one. -/
def Authorizes (user : User) (groups : List EndpointGroup) (roles : List Role)
    (memberships : List TeamMembership) (endpoint : Endpoint) (authorizations : Authorizations) : Prop :=
  ∃ level r, (∀ earlier : Level, earlier.rank < level.rank →
      ∀ r' ∈ roles, ¬ Names user groups memberships endpoint earlier r'.id) ∧
    Highest roles (Names user groups memberships endpoint level) r ∧ r.authorizations = authorizations

/-- Roles as they are stored: each has its own identifier, its own priority
above zero, and something it authorises. -/
structure WellFormed (roles : List Role) : Prop where
  ids : (roles.map Role.id).Nodup
  priorities : (roles.map Role.priority).Nodup
  positive : ∀ r ∈ roles, 0 < r.priority
  nonempty : ∀ r ∈ roles, r.authorizations.isEmpty = false

/-! ## The roles of one level -/

section Roles

variable {ids : List RoleID} {r : Role}

theorem eq_of_id (h : WellFormed roles) {r r' : Role} (hr : r ∈ roles) (hr' : r' ∈ roles)
    (hid : r.id = r'.id) : r = r' :=
  List.inj_on_of_nodup_map h.ids hr hr' hid

/-- The roles that are looked at are those that exist and are listed. -/
theorem mem_associatedRoles (h : WellFormed roles) :
    r ∈ ids.filterMap (fun id => roles.find? (·.id = id)) ↔ r ∈ roles ∧ r.id ∈ ids := by
  rw [List.mem_filterMap]
  constructor
  · rintro ⟨id, hid, hfind⟩
    have hr : r.id = id := by simpa using List.find?_some hfind
    exact ⟨List.mem_of_find?_eq_some hfind, hr ▸ hid⟩
  · rintro ⟨hr, hid⟩
    refine ⟨r.id, hid, ?_⟩
    cases hfind : roles.find? (·.id = r.id) with
    | none => exact absurd (List.find?_eq_none.mp hfind r hr) (by simp)
    | some r' =>
      have hr' : r'.id = r.id := by simpa using List.find?_some hfind
      rw [eq_of_id h (List.mem_of_find?_eq_some hfind) hr hr']

/-- The loop keeps the authorizations and the priority of the highest
role. -/
theorem foldl_best (l : List Role) (best : Option Role) :
    l.foldl (fun (best : Authorizations × Int) role =>
        if best.2 < role.priority then (role.authorizations, role.priority) else best)
      (best.elim ∅ Role.authorizations, best.elim 0 Role.priority) =
    ((l.foldl (Loop.higher Role.priority) best).elim ∅ Role.authorizations,
      (l.foldl (Loop.higher Role.priority) best).elim 0 Role.priority) := by
  induction l generalizing best with
  | nil => rfl
  | cons role l ih =>
    rw [List.foldl_cons, List.foldl_cons, Loop.higher]
    split
    · exact ih (some role)
    · exact ih best

theorem getAuthorizationsFromRoles_eq : getAuthorizationsFromRoles ids roles =
    (Loop.highest Role.priority (ids.filterMap fun id => roles.find? (·.id = id))).elim ∅
      Role.authorizations :=
  congrArg Prod.fst (foldl_best _ none)

/-- **The highest role decides.** -/
theorem getAuthorizationsFromRoles_of_highest (h : WellFormed roles) (hr : Highest roles (· ∈ ids) r) :
    getAuthorizationsFromRoles ids roles = r.authorizations := by
  have hmem : r ∈ ids.filterMap fun id => roles.find? (·.id = id) :=
    (mem_associatedRoles h).mpr ⟨hr.mem, hr.named⟩
  rw [getAuthorizationsFromRoles_eq]
  cases hfound : Loop.highest Role.priority (ids.filterMap fun id => roles.find? (·.id = id)) with
  | none =>
    have hle := Loop.highest_eq_none hfound r hmem
    have hpos := h.positive r hr.mem
    omega
  | some r' =>
    obtain ⟨hmem', hhigh⟩ := Loop.highest_spec hfound
    obtain ⟨hr', hid'⟩ := (mem_associatedRoles h).mp hmem'
    have hsame : r'.priority = r.priority := by
      have hle := hhigh r hmem
      have hge := hr.highest r' hr' hid'
      omega
    exact congrArg Role.authorizations (List.inj_on_of_nodup_map h.priorities hr' hr.mem hsame)

/-- A level that names an existing role has a highest one. -/
theorem exists_highest (h : WellFormed roles) (hr : r ∈ roles) (hid : r.id ∈ ids) :
    ∃ r, Highest roles (· ∈ ids) r := by
  have hmem : r ∈ ids.filterMap fun id => roles.find? (·.id = id) :=
    (mem_associatedRoles h).mpr ⟨hr, hid⟩
  cases hfound : Loop.highest Role.priority (ids.filterMap fun id => roles.find? (·.id = id)) with
  | none =>
    have hle := Loop.highest_eq_none hfound r hmem
    have hpos := h.positive r hr
    omega
  | some r' =>
    obtain ⟨hmem', hhigh⟩ := Loop.highest_spec hfound
    obtain ⟨hr', hid'⟩ := (mem_associatedRoles h).mp hmem'
    exact ⟨r', hr', hid', fun s hs hsid => hhigh s ((mem_associatedRoles h).mpr ⟨hs, hsid⟩)⟩

/-- A level yields an authorization if it names an existing role. -/
theorem isEmpty_getAuthorizationsFromRoles (h : WellFormed roles) :
    (getAuthorizationsFromRoles ids roles).isEmpty = false ↔ ∃ r ∈ roles, r.id ∈ ids := by
  constructor
  · intro hfilled
    rw [getAuthorizationsFromRoles_eq] at hfilled
    cases hfound : Loop.highest Role.priority (ids.filterMap fun id => roles.find? (·.id = id)) with
    | none =>
      rw [hfound, Option.elim_none, ExtTreeMap.isEmpty_empty] at hfilled
      nomatch hfilled
    | some r =>
      obtain ⟨hr, hid⟩ := (mem_associatedRoles h).mp (Loop.highest_spec hfound).1
      exact ⟨r, hr, hid⟩
  · rintro ⟨r, hr, hid⟩
    obtain ⟨r', hhigh⟩ := exists_highest h hr hid
    rw [getAuthorizationsFromRoles_of_highest h hhigh]
    exact h.nonempty r' hhigh.mem

end Roles

/-! ## The levels of an endpoint -/

/-- The roles that a level names, as the code lists them. -/
def levelRoles (user : User) (groups : List EndpointGroup) (memberships : List TeamMembership)
    (endpoint : Endpoint) : Level → List RoleID
  | .userOnEndpoint => userPolicyRoles user endpoint.userAccessPolicies
  | .userOnGroup => userPolicyRoles user
      ((groupPolicies EndpointGroup.userAccessPolicies groups)[endpoint.groupID]?.getD ∅)
  | .teamOnEndpoint => teamPolicyRoles memberships endpoint.teamAccessPolicies
  | .teamOnGroup => teamPolicyRoles memberships
      ((groupPolicies EndpointGroup.teamAccessPolicies groups)[endpoint.groupID]?.getD ∅)

theorem mem_userPolicyRoles {policies : UserAccessPolicies} {id : RoleID} :
    id ∈ userPolicyRoles user policies ↔ ∃ p, policies[user.id]? = some p ∧ p.roleID = id := by
  rw [userPolicyRoles, Option.mem_toList, Option.map_eq_some_iff]

theorem mem_teamPolicyRoles {policies : TeamAccessPolicies} {id : RoleID} :
    id ∈ teamPolicyRoles memberships policies ↔
      ∃ m ∈ memberships, ∃ p, policies[m.teamID]? = some p ∧ p.roleID = id := by
  simp only [teamPolicyRoles, List.mem_filterMap, Option.map_eq_some_iff]

/-- The policies of the group of an endpoint. -/
theorem getElem?_groupPolicies {β : Type} {policies : EndpointGroup → β}
    (hgroups : (groups.map EndpointGroup.id).Nodup) {g : EndpointGroup} (hg : g ∈ groups) :
    (groupPolicies policies groups)[g.id]? = some (policies g) :=
  Loop.getElem?_tabulate (f := fun g => some (policies g)) hgroups hg

theorem getElem?_groupPolicies_of_notMem {β : Type} {policies : EndpointGroup → β}
    {id : EndpointGroupID} (hfree : ∀ g ∈ groups, g.id ≠ id) :
    (groupPolicies policies groups)[id]? = none :=
  Loop.getElem?_tabulate_of_notMem (f := fun g => some (policies g)) hfree

/-- What is said of the policies of the group is said of one group that
there is. -/
theorem groupPolicies_iff {β : Type} [EmptyCollection β] {policies : EndpointGroup → β} {P : β → Prop}
    (hgroups : (groups.map EndpointGroup.id).Nodup) (hempty : ¬ P ∅) {id : EndpointGroupID} :
    P ((groupPolicies policies groups)[id]?.getD ∅) ↔ ∃ g ∈ groups, g.id = id ∧ P (policies g) := by
  by_cases hthere : ∃ g ∈ groups, g.id = id
  · obtain ⟨g, hg, rfl⟩ := hthere
    rw [getElem?_groupPolicies hgroups hg, Option.getD_some]
    constructor
    · intro hP
      exact ⟨g, hg, rfl, hP⟩
    · rintro ⟨g', hg', hid, hP⟩
      rwa [List.inj_on_of_nodup_map hgroups hg' hg hid] at hP
  · push Not at hthere
    rw [getElem?_groupPolicies_of_notMem hthere, Option.getD_none]
    refine iff_of_false hempty ?_
    rintro ⟨g, hg, hid, -⟩
    exact hthere g hg hid

theorem mem_levelRoles (hgroups : (groups.map EndpointGroup.id).Nodup) {id : RoleID} :
    id ∈ levelRoles user groups memberships endpoint level ↔
      Names user groups memberships endpoint level id := by
  cases level with
  | userOnEndpoint => exact mem_userPolicyRoles
  | teamOnEndpoint => exact mem_teamPolicyRoles
  | userOnGroup =>
    have hempty : ¬ ∃ p, (∅ : UserAccessPolicies)[user.id]? = some p ∧ p.roleID = id := by
      rintro ⟨p, hp, -⟩
      rw [ExtTreeMap.getElem?_empty] at hp
      nomatch hp
    exact mem_userPolicyRoles.trans (groupPolicies_iff
      (P := fun policies : UserAccessPolicies => ∃ p, policies[user.id]? = some p ∧ p.roleID = id)
      hgroups hempty)
  | teamOnGroup =>
    have hempty : ¬ ∃ m ∈ memberships,
        ∃ p, (∅ : TeamAccessPolicies)[m.teamID]? = some p ∧ p.roleID = id := by
      rintro ⟨m, -, p, hp, -⟩
      rw [ExtTreeMap.getElem?_empty] at hp
      nomatch hp
    exact mem_teamPolicyRoles.trans (groupPolicies_iff (P := fun policies : TeamAccessPolicies =>
      ∃ m ∈ memberships, ∃ p, policies[m.teamID]? = some p ∧ p.roleID = id) hgroups hempty)

/-- The authorizations that a level yields. -/
def levelAuthorizations (user : User) (groups : List EndpointGroup) (roles : List Role)
    (memberships : List TeamMembership) (endpoint : Endpoint) (level : Level) : Authorizations :=
  getAuthorizationsFromRoles (levelRoles user groups memberships endpoint level) roles

/-- **The entry of an endpoint** is what the first level yields that yields
anything. -/
theorem endpointEntry_eq_some {authorizations : Authorizations} :
    endpointEntry user groups roles memberships endpoint = some authorizations ↔
      ∃ level, (∀ earlier : Level, earlier.rank < level.rank →
          (levelAuthorizations user groups roles memberships endpoint earlier).isEmpty = true) ∧
        (levelAuthorizations user groups roles memberships endpoint level).isEmpty = false ∧
        levelAuthorizations user groups roles memberships endpoint level = authorizations := by
  have hentry : endpointEntry user groups roles memberships endpoint =
      if (levelAuthorizations user groups roles memberships endpoint .userOnEndpoint).isEmpty = false then
        some (levelAuthorizations user groups roles memberships endpoint .userOnEndpoint)
      else if (levelAuthorizations user groups roles memberships endpoint .userOnGroup).isEmpty = false then
        some (levelAuthorizations user groups roles memberships endpoint .userOnGroup)
      else if (levelAuthorizations user groups roles memberships endpoint .teamOnEndpoint).isEmpty = false then
        some (levelAuthorizations user groups roles memberships endpoint .teamOnEndpoint)
      else if (levelAuthorizations user groups roles memberships endpoint .teamOnGroup).isEmpty = false then
        some (levelAuthorizations user groups roles memberships endpoint .teamOnGroup)
      else none := rfl
  rw [hentry]
  generalize levelAuthorizations user groups roles memberships endpoint = found
  constructor
  · intro h
    split at h
    · rename_i h₁
      refine ⟨.userOnEndpoint, fun e he => ?_, h₁, Option.some.inj h⟩
      cases e <;> simp [Level.rank] at he
    · rename_i h₁
      split at h
      · rename_i h₂
        refine ⟨.userOnGroup, fun e he => ?_, h₂, Option.some.inj h⟩
        cases e <;> simp_all [Level.rank]
      · rename_i h₂
        split at h
        · rename_i h₃
          refine ⟨.teamOnEndpoint, fun e he => ?_, h₃, Option.some.inj h⟩
          cases e <;> simp_all [Level.rank]
        · rename_i h₃
          split at h
          · rename_i h₄
            refine ⟨.teamOnGroup, fun e he => ?_, h₄, Option.some.inj h⟩
            cases e <;> simp_all [Level.rank]
          · nomatch h
  · rintro ⟨level, hearlier, hfilled, rfl⟩
    have hbefore : ∀ e : Level, e.rank < level.rank → ¬ (found e).isEmpty = false := fun e he => by
      simp [hearlier e he]
    cases level with
    | userOnEndpoint => rw [if_pos hfilled]
    | userOnGroup => rw [if_neg (hbefore .userOnEndpoint (by decide)), if_pos hfilled]
    | teamOnEndpoint =>
      rw [if_neg (hbefore .userOnEndpoint (by decide)), if_neg (hbefore .userOnGroup (by decide)),
        if_pos hfilled]
    | teamOnGroup =>
      rw [if_neg (hbefore .userOnEndpoint (by decide)), if_neg (hbefore .userOnGroup (by decide)),
        if_neg (hbefore .teamOnEndpoint (by decide)), if_pos hfilled]

/-- **The entry of an endpoint is what the user is authorised to do.** -/
theorem endpointEntry_iff (hgroups : (groups.map EndpointGroup.id).Nodup) (hroles : WellFormed roles)
    {authorizations : Authorizations} :
    endpointEntry user groups roles memberships endpoint = some authorizations ↔
      Authorizes user groups roles memberships endpoint authorizations := by
  have hfilled : ∀ l, (levelAuthorizations user groups roles memberships endpoint l).isEmpty = false ↔
      ∃ r ∈ roles, Names user groups memberships endpoint l r.id := by
    intro l
    simp only [levelAuthorizations, isEmpty_getAuthorizationsFromRoles hroles, mem_levelRoles hgroups]
  have hempty : ∀ l, (levelAuthorizations user groups roles memberships endpoint l).isEmpty = true ↔
      ∀ r ∈ roles, ¬ Names user groups memberships endpoint l r.id := by
    intro l
    have h := not_congr (hfilled l)
    rw [Bool.not_eq_false] at h
    rw [h]
    push Not
    rfl
  have hhighest : ∀ {l r}, Highest roles (Names user groups memberships endpoint l) r →
      levelAuthorizations user groups roles memberships endpoint l = r.authorizations := by
    intro l r hr
    refine getAuthorizationsFromRoles_of_highest hroles ⟨hr.mem, (mem_levelRoles hgroups).mpr hr.named, ?_⟩
    exact fun r' hr' hid => hr.highest r' hr' ((mem_levelRoles hgroups).mp hid)
  rw [endpointEntry_eq_some]
  constructor
  · rintro ⟨level, hearlier, hsome, rfl⟩
    obtain ⟨r₀, hr₀, hnamed₀⟩ := (hfilled level).mp hsome
    obtain ⟨r, hr, hid, hhigh⟩ := exists_highest hroles hr₀ ((mem_levelRoles hgroups).mpr hnamed₀)
    have hr' : Highest roles (Names user groups memberships endpoint level) r :=
      ⟨hr, (mem_levelRoles hgroups).mp hid,
        fun s hs hsid => hhigh s hs ((mem_levelRoles hgroups).mpr hsid)⟩
    exact ⟨level, r, fun e he => (hempty e).mp (hearlier e he), hr', (hhighest hr').symm⟩
  · rintro ⟨level, r, hearlier, hr, rfl⟩
    exact ⟨level, fun e he => (hempty e).mpr (hearlier e he),
      (hfilled level).mpr ⟨r, hr.mem, hr.named⟩, hhighest hr⟩

/-! ## All endpoints -/

theorem getUserEndpointAuthorizations_eq :
    getUserEndpointAuthorizations user endpoints groups roles memberships =
      Loop.tabulate Endpoint.id (endpointEntry user groups roles memberships) endpoints := by
  unfold getUserEndpointAuthorizations Loop.tabulate
  congr 1
  funext m endpoint
  cases endpointEntry user groups roles memberships endpoint <;> rfl

/-- A level names the same roles, however the groups and the memberships are
listed. -/
theorem names_congr (hg : ∀ g, g ∈ groups' ↔ g ∈ groups) (hm : ∀ m, m ∈ memberships' ↔ m ∈ memberships)
    {id : RoleID} : Names user groups' memberships' endpoint level id ↔
      Names user groups memberships endpoint level id := by
  cases level <;> simp only [Names, hg, hm]

theorem highest_congr {chosen chosen' : RoleID → Prop} (hr : ∀ r, r ∈ roles' ↔ r ∈ roles)
    (hchosen : ∀ id, chosen' id ↔ chosen id) {r : Role} :
    Highest roles' chosen' r ↔ Highest roles chosen r := by
  constructor
  · intro h
    exact ⟨(hr r).mp h.mem, (hchosen _).mp h.named,
      fun s hs hid => h.highest s ((hr s).mpr hs) ((hchosen _).mpr hid)⟩
  · intro h
    exact ⟨(hr r).mpr h.mem, (hchosen _).mpr h.named,
      fun s hs hid => h.highest s ((hr s).mp hs) ((hchosen _).mp hid)⟩

/-- **What a user is authorised to do does not depend on the listing.** -/
theorem authorizes_congr (hg : ∀ g, g ∈ groups' ↔ g ∈ groups) (hr : ∀ r, r ∈ roles' ↔ r ∈ roles)
    (hm : ∀ m, m ∈ memberships' ↔ m ∈ memberships) {authorizations : Authorizations} :
    Authorizes user groups' roles' memberships' endpoint authorizations ↔
      Authorizes user groups roles memberships endpoint authorizations := by
  have hnames : ∀ (l : Level) id, Names user groups' memberships' endpoint l id ↔
      Names user groups memberships endpoint l id := fun l id => names_congr hg hm
  have hhighest : ∀ (l : Level) r,
      Highest roles' (Names user groups' memberships' endpoint l) r ↔
        Highest roles (Names user groups memberships endpoint l) r :=
    fun l r => highest_congr hr (hnames l)
  simp only [Authorizes, hnames, hr, hhighest]

theorem WellFormed.perm (h : WellFormed roles) (hperm : roles'.Perm roles) : WellFormed roles' where
  ids := (hperm.map Role.id).nodup_iff.mpr h.ids
  priorities := (hperm.map Role.priority).nodup_iff.mpr h.priorities
  positive r hr := h.positive r (hperm.mem_iff.mp hr)
  nonempty r hr := h.nonempty r (hperm.mem_iff.mp hr)

/-- Some level yields an authorization if some policy names an existing
role. -/
theorem exists_authorizes (hgroups : (groups.map EndpointGroup.id).Nodup) (hroles : WellFormed roles) :
    (∃ authorizations, Authorizes user groups roles memberships endpoint authorizations) ↔
      ∃ level, ∃ r ∈ roles, Names user groups memberships endpoint level r.id := by
  constructor
  · rintro ⟨authorizations, level, r, -, hr, -⟩
    exact ⟨level, r, hr.mem, hr.named⟩
  · intro hnamed
    have hfilled : ∃ l, (levelAuthorizations user groups roles memberships endpoint l).isEmpty = false := by
      obtain ⟨level, r, hr, hid⟩ := hnamed
      exact ⟨level, (isEmpty_getAuthorizationsFromRoles hroles).mpr
        ⟨r, hr, (mem_levelRoles hgroups).mpr hid⟩⟩
    -- the levels before the first that yields anything yield nothing
    have hfirst : ∀ n, (∃ l : Level, l.rank = n ∧
        (levelAuthorizations user groups roles memberships endpoint l).isEmpty = false) →
        ∃ authorizations, endpointEntry user groups roles memberships endpoint = some authorizations := by
      intro n
      induction n using Nat.strong_induction_on with
      | _ n ih =>
        rintro ⟨l, rfl, hl⟩
        by_cases hbefore : ∃ e : Level, e.rank < l.rank ∧
            (levelAuthorizations user groups roles memberships endpoint e).isEmpty = false
        · obtain ⟨e, he, hfull⟩ := hbefore
          exact ih e.rank he ⟨e, rfl, hfull⟩
        · push Not at hbefore
          exact ⟨_, endpointEntry_eq_some.mpr
            ⟨l, fun e he => Bool.not_eq_false _ ▸ hbefore e he, hl, rfl⟩⟩
    obtain ⟨l, hl⟩ := hfilled
    obtain ⟨authorizations, hentry⟩ := hfirst l.rank ⟨l, rfl, hl⟩
    exact ⟨authorizations, (endpointEntry_iff hgroups hroles).mp hentry⟩

/-- **The authorizations of a user are well defined.** For endpoints and
groups with an identifier each, an endpoint has an entry exactly if a policy
of one of the four levels names the user or a team of theirs with an
existing role, and the entry is the authorizations of the highest role at
the first such level. Other lists of the same endpoints, groups, roles and
memberships, with memberships repeated or not, give the same result. -/
theorem userEndpointAuthorizations_spec (hendpoints : (endpoints.map Endpoint.id).Nodup)
    (hgroups : (groups.map EndpointGroup.id).Nodup) (hroles : WellFormed roles) :
    (∀ e ∈ endpoints,
      ((getUserEndpointAuthorizations user endpoints groups roles memberships)[e.id]?.isSome ↔
        ∃ level, ∃ r ∈ roles, Names user groups memberships e level r.id) ∧
      ∀ authorizations,
        (getUserEndpointAuthorizations user endpoints groups roles memberships)[e.id]? =
          some authorizations ↔ Authorizes user groups roles memberships e authorizations) ∧
    (∀ id, (∀ e ∈ endpoints, e.id ≠ id) →
      (getUserEndpointAuthorizations user endpoints groups roles memberships)[id]? = none) ∧
    ∀ endpoints' groups' roles' memberships',
      endpoints'.Perm endpoints → groups'.Perm groups → roles'.Perm roles →
      (∀ m, m ∈ memberships' ↔ m ∈ memberships) →
      getUserEndpointAuthorizations user endpoints' groups' roles' memberships' =
        getUserEndpointAuthorizations user endpoints groups roles memberships := by
  have hentry : ∀ e ∈ endpoints, ∀ authorizations,
      (getUserEndpointAuthorizations user endpoints groups roles memberships)[e.id]? =
        some authorizations ↔ Authorizes user groups roles memberships e authorizations := by
    intro e he authorizations
    rw [getUserEndpointAuthorizations_eq, Loop.getElem?_tabulate hendpoints he]
    exact endpointEntry_iff hgroups hroles
  have hothers : ∀ id, (∀ e ∈ endpoints, e.id ≠ id) →
      (getUserEndpointAuthorizations user endpoints groups roles memberships)[id]? = none := by
    intro id hfree
    rw [getUserEndpointAuthorizations_eq, Loop.getElem?_tabulate_of_notMem hfree]
  refine ⟨fun e he => ⟨?_, hentry e he⟩, hothers, ?_⟩
  · rw [Option.isSome_iff_exists, ← exists_authorizes hgroups hroles]
    exact exists_congr (hentry e he)
  · intro endpoints' groups' roles' memberships' hpe hpg hpr hm
    have hendpoints' : (endpoints'.map Endpoint.id).Nodup :=
      (hpe.map Endpoint.id).nodup_iff.mpr hendpoints
    have hgroups' : (groups'.map EndpointGroup.id).Nodup :=
      (hpg.map EndpointGroup.id).nodup_iff.mpr hgroups
    refine ExtTreeMap.ext_getElem? fun id => ?_
    by_cases hthere : ∃ e ∈ endpoints, e.id = id
    · obtain ⟨e, he, rfl⟩ := hthere
      refine Option.ext fun authorizations => ?_
      rw [hentry e he, getUserEndpointAuthorizations_eq,
        Loop.getElem?_tabulate hendpoints' (hpe.mem_iff.mpr he),
        endpointEntry_iff hgroups' (hroles.perm hpr)]
      exact authorizes_congr (fun g => hpg.mem_iff) (fun r => hpr.mem_iff) hm
    · push Not at hthere
      have hfree : ∀ e ∈ endpoints', e.id ≠ id := fun e he => hthere e (hpe.mem_iff.mp he)
      rw [hothers id hthere, getUserEndpointAuthorizations_eq, Loop.getElem?_tabulate_of_notMem hfree]

/-! ## Two roles -/

/-- The lower role. -/
def helpdesk : Role := { id := 2, authorizations := {("DockerContainerList", true)}, priority := 2 }

/-- The higher one. -/
def operator : Role := { id := 3, authorizations := {("DockerContainerStart", true)}, priority := 3 }

/-- A group on which two teams have the one and the other. -/
def sharedGroup : EndpointGroup := { id := 2, teamAccessPolicies := {(5, ⟨2⟩), (6, ⟨3⟩)} }

/-- An endpoint of the group. -/
def sharedEndpoint : Endpoint := { id := 1, groupID := 2 }

/-- Another, on which user 1 has the lower role. -/
def ownEndpoint : Endpoint := { id := 4, groupID := 2, userAccessPolicies := {(1, ⟨2⟩)} }

/-- User 1 is in a team. -/
def memberOf (teamID : TeamID) : TeamMembership :=
  { id := teamID, userID := 1, teamID := teamID, role := .teamMember }

theorem wellFormed_roles : WellFormed [helpdesk, operator] := by
  refine ⟨by decide, by decide, by decide, ?_⟩
  rw [List.forall_mem_cons, List.forall_mem_singleton]
  exact ⟨rfl, rfl⟩

/-- Of the teams of the user the higher role counts, and the role of their
own before those of the teams. -/
theorem userEndpointAuthorizations_spec_witness :
    Authorizes { id := 1, role := .standardUser } [sharedGroup] [helpdesk, operator] [memberOf 5, memberOf 6]
      sharedEndpoint operator.authorizations ∧
    Authorizes { id := 1, role := .standardUser } [sharedGroup] [helpdesk, operator] [memberOf 5, memberOf 6]
      ownEndpoint helpdesk.authorizations := by
  have hids : ([sharedEndpoint, ownEndpoint].map Endpoint.id).Nodup := by decide
  have hspec := (@userEndpointAuthorizations_spec { id := 1, role := .standardUser } [sharedEndpoint, ownEndpoint]
    [sharedGroup] [helpdesk, operator] [memberOf 5, memberOf 6] hids (List.nodup_singleton _) wellFormed_roles).1
  have hown : ownEndpoint ∈ [sharedEndpoint, ownEndpoint] := List.mem_cons_of_mem _ List.mem_cons_self
  exact ⟨((hspec sharedEndpoint List.mem_cons_self).2 _).mp rfl, ((hspec ownEndpoint hown).2 _).mp rfl⟩

/-- Of two groups with one identifier the last counts, so that the order of
the groups is seen. -/
theorem groups_order_matters :
    getUserEndpointAuthorizations { id := 1, role := .standardUser } [{ id := 1, groupID := 2 }]
      [{ id := 2, userAccessPolicies := {(1, ⟨3⟩)} }, { id := 2 }]
      [{ id := 3, authorizations := {("DockerContainerList", true)}, priority := 1 }] [] ≠
    getUserEndpointAuthorizations { id := 1, role := .standardUser } [{ id := 1, groupID := 2 }]
      [{ id := 2 }, { id := 2, userAccessPolicies := {(1, ⟨3⟩)} }]
      [{ id := 3, authorizations := {("DockerContainerList", true)}, priority := 1 }] [] := by
  intro hsame
  have hentry := congrArg (fun m : EndpointAuthorizations => m[(1 : EndpointID)]?.isSome) hsame
  exact absurd hentry (by decide)

end Roles

end Portainer
