import Portainer.Common.Leaves
import Portainer.Users.Model.Requests
/-!
# What the bouncer admits

A request that gets past the bouncer carries a token that the server has
signed, of a user who is stored. Only the token says what the role of the
user is: this is what the checks have in common, and what they do not look
at.
-/

namespace Portainer

open Action (Leaves)

namespace Users

variable {R : Callee → Prop} {s : Server} {E : Server → Prop} {token : Option TokenData}

/-- **What the bouncer has seen** of a request that it lets through. -/
structure Admitted (s : Server) (token : Option TokenData) (context : RequestContext) : Prop where
  token_eq : token = some context.tokenData
  issued : context.tokenData ∈ s.issuedTokens
  stored : ∃ u, s.dataStore.user.get? context.tokenData.id = some u
  isAdmin : context.restricted.isAdmin = true ↔ context.tokenData.role = .administrator
  userID : context.restricted.userID = context.tokenData.id

theorem leaves_mwCheckAuthentication (hs : E s) :
    Leaves R (mwCheckAuthentication token) s (fun tokenData s' => s' = s ∧ token = some tokenData ∧
      tokenData ∈ s.issuedTokens ∧ ∃ u, s.dataStore.user.get? tokenData.id = some u) E := by
  unfold mwCheckAuthentication
  cases token with
  | none => exact .fail hs
  | some given =>
    refine .read_bind (.pure ⟨rfl, rfl⟩) fun t (ht : given = t) => ?_
    subst ht
    refine .lookup_bind hs fun tokenData htoken => ?_
    split at htoken
    · rename_i hissued
      obtain rfl := Option.some.inj htoken
      exact .lookup_bind hs fun u hu => .pure ⟨rfl, rfl, hissued, u, hu⟩
    · nomatch htoken

theorem leaves_mwUpgradeToRestrictedRequest {tokenData : TokenData} (hs : E s) :
    Leaves R (mwUpgradeToRestrictedRequest tokenData) s (fun context s' => s' = s ∧
      context.tokenData = tokenData ∧
        (context.restricted.isAdmin = true ↔ tokenData.role = .administrator) ∧
          context.restricted.userID = tokenData.id) E := by
  unfold mwUpgradeToRestrictedRequest newRestrictedContextRequest
  split
  · rename_i hrole
    exact .pure ⟨rfl, rfl, by simp [hrole], rfl⟩
  · rename_i hrole
    refine .read_bind (.mapError ?_) fun context hcontext => .pure ⟨rfl, rfl, hcontext⟩
    refine Leaves.bind (M := fun _ s' => s' = s) (.query rfl hs) fun _ s' h => ?_
    exact .pure ⟨h, by simp [hrole], rfl⟩

/-- The same, of a token that was checked. -/
theorem leaves_upgrade {tokenData : TokenData} (hs : E s) (htoken : token = some tokenData)
    (hissued : tokenData ∈ s.issuedTokens) (hstored : ∃ u, s.dataStore.user.get? tokenData.id = some u) :
    Leaves R (mwUpgradeToRestrictedRequest tokenData) s
      (fun context s' => s' = s ∧ Admitted s token context ∧ context.tokenData = tokenData) E := by
  refine (leaves_mwUpgradeToRestrictedRequest hs).conseq (fun context s' h => ?_) fun _ he => he
  obtain ⟨rfl, rfl, hadmin, huserID⟩ := h
  exact ⟨rfl, ⟨htoken, hissued, hstored, hadmin, huserID⟩, rfl⟩

theorem leaves_authenticatedAccess (hs : E s) :
    Leaves R (authenticatedAccess token) s (fun context s' => s' = s ∧ Admitted s token context) E := by
  refine .read_bind (leaves_mwCheckAuthentication hs) fun tokenData ⟨htoken, hissued, hstored⟩ => ?_
  exact (leaves_upgrade hs htoken hissued hstored).conseq (fun _ _ h => ⟨h.1, h.2.1⟩) fun _ he => he

theorem leaves_restrictedAccess (hs : E s) :
    Leaves R (restrictedAccess token) s (fun context s' => s' = s ∧ Admitted s token context) E := by
  refine .read_bind (leaves_mwCheckAuthentication hs) fun tokenData ⟨htoken, hissued, hstored⟩ => ?_
  refine .read_bind (P := fun _ => True) ?_ fun _ _ => ?_
  · unfold mwCheckPortainerAuthorizations
    refine .ite (fun _ => .pure ⟨rfl, trivial⟩) fun _ => .ite (fun _ => .fail hs) fun _ => ?_
    exact .lookup_bind hs fun _ _ => .pure ⟨rfl, trivial⟩
  · exact (leaves_upgrade hs htoken hissued hstored).conseq (fun _ _ h => ⟨h.1, h.2.1⟩) fun _ he => he

theorem leaves_adminAccess (hs : E s) :
    Leaves R (adminAccess token) s (fun context s' => s' = s ∧ Admitted s token context ∧
      context.tokenData.role = .administrator) E := by
  refine .read_bind (leaves_mwCheckAuthentication hs) fun tokenData ⟨htoken, hissued, hstored⟩ => ?_
  refine .read_bind (P := fun _ => tokenData.role = .administrator) ?_ fun _ hrole => ?_
  · unfold mwCheckPortainerAuthorizations
    exact .ite (fun h => .pure ⟨rfl, h⟩) fun _ => .ite (fun _ => .fail hs) fun h => absurd rfl h
  · refine (leaves_upgrade hs htoken hissued hstored).conseq (fun _ _ h => ?_) fun _ he => he
    exact ⟨h.1, h.2.1, by rw [h.2.2]; exact hrole⟩

/-! ## Handlers behind a check -/

variable {α : Type} {handler : RequestContext → Handler Server α}

theorem leaves_behind_authenticatedAccess (hs : E s)
    (h : ∀ context, Admitted s token context → Leaves R (handler context) s (fun _ => E) E) :
    Leaves R (behind (authenticatedAccess token) handler) s (fun _ => E) E :=
  .read_bind (leaves_authenticatedAccess hs) fun context hcontext =>
    (h context hcontext).bind fun _ _ he => .pure he

theorem leaves_behind_adminAccess (hs : E s)
    (h : ∀ context, Admitted s token context → context.tokenData.role = .administrator →
      Leaves R (handler context) s (fun _ => E) E) :
    Leaves R (behind (adminAccess token) handler) s (fun _ => E) E :=
  .read_bind (leaves_adminAccess hs) fun context hcontext =>
    (h context hcontext.1 hcontext.2).bind fun _ _ he => .pure he

theorem leaves_publicAccess {handler : Handler Server α} (h : Leaves R handler s (fun _ => E) E) :
    Leaves R (publicAccess handler) s (fun _ => E) E :=
  h.bind fun _ _ he => .pure he

end Users

end Portainer
