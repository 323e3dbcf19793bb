import Portainer.Common.ImageReference
import Portainer.Common.Leaves
import Portainer.Common.Machine
import Portainer.Webhooks.Model
/-!
# Webhooks — what image a service is updated to

A webhook is there to deploy another tag of the image a service has. The
image is cut at its first colon, and the first colon is the one before the
tag only if the registry has no port and, where there is no tag, no digest
follows. Without a tag the digest is cut off at `@sha`, so a digest of
another algorithm stays.

`updates_retagged_iff` says exactly when the service is updated to the same
repository of the same registry, with the tag asked for and no digest, and
`updatesOnly_of_run` that a token updates no other service.
-/

namespace Portainer

namespace Webhooks

open Server

open Image

/-- The tag that a webhook asks for: the one given, or the one that the
reference has. -/
def requestedTag (r : Reference) (imageTag : String) : Option (List Char) :=
  if imageTag ≠ "" then some imageTag.toList else r.tag

/-- The image is a reference to the registry and the path of `r`, and
however it is read it has the tag asked for and no digest. -/
def Retags (r : Reference) (imageTag image : String) : Prop :=
  (∃ r' : Reference, r'.text = image.toList ∧ r'.domain = r.domain ∧ r'.path = r.path ∧
    r'.repository = r.repository) ∧
  ∀ r' : Reference, r'.text = image.toList →
    r'.name = r.name ∧ r'.tag = requestedTag r imageTag ∧ r'.digest = none

/-- The cut is made at the right place: the tag given is one, the registry
has no port, and a digest does not follow the name at once; or no tag is
given, and the digest is one of the algorithms named `sha…`. -/
def CutRight (r : Reference) (imageTag : String) : Prop :=
  (imageTag ≠ "" → imageTag.toList ∈ Image.tag ∧ (∀ d ∈ r.domain, d.port = none) ∧
    (r.tag = none → r.digest = none)) ∧
  (imageTag = "" → ∀ d ∈ r.digest, ['s', 'h', 'a'] <+: d.algorithm)

variable {r : Reference} {imageTag image : String}

/-- Same name, tag asked for, no digest: that is one text. -/
def retaggedText (r : Reference) (imageTag : String) : List Char :=
  r.name ++ tagText (requestedTag r imageTag)

/-- An image is right if it is that text, and the tag is one. -/
theorem retags_iff : Retags r imageTag image ↔
    image.toList = retaggedText r imageTag ∧ ∀ t ∈ requestedTag r imageTag, t ∈ Image.tag := by
  constructor
  · rintro ⟨⟨r', htext, -⟩, hread⟩
    obtain ⟨hname, htag, hdigest⟩ := hread r' htext
    refine ⟨?_, htag ▸ r'.tag_mem⟩
    rw [← htext, Reference.text, hname, htag, hdigest, retaggedText]
    exact List.append_nil _
  · rintro ⟨htext, htag⟩
    let r' : Reference :=
      { r with tag := requestedTag r imageTag, digest := none, tag_mem := htag }
    have htext' : r'.text = image.toList := by
      rw [htext]
      exact List.append_nil _
    refine ⟨⟨r', htext', rfl, rfl, rfl⟩, fun q hq => ?_⟩
    obtain ⟨hname, htag, hdigest⟩ := Reference.text_injective (hq.trans htext'.symm)
    exact ⟨hname, htag, hdigest⟩

/-! ## A tag is given -/

/-- The first colon of a reference follows its name if the registry has no
port and no digest comes before a tag. -/
theorem before_colon_iff : Text.before [':'] r.text = r.name ↔
    (∀ d ∈ r.domain, d.port = none) ∧ (r.tag = none → r.digest = none) := by
  have hrepository : ':' ∉ r.repository :=
    fun hc => (over_pathComponent _ r.repository_mem _ hc).2.1 rfl
  have hpath : ':' ∉ (r.path.map (· ++ ['/'])).flatten := by
    intro hc
    obtain ⟨_, hcomponent, hc⟩ := List.mem_flatten.mp hc
    obtain ⟨s, hs, rfl⟩ := List.mem_map.mp hcomponent
    obtain hc | hc := List.mem_append.mp hc
    · exact (over_pathComponent s (r.path_mem s hs) _ hc).2.1 rfl
    · exact absurd hc (by decide)
  have hhost : ∀ d : Domain, ':' ∉ d.host := fun d hc => (over_host _ d.host_mem _ hc).2.1 rfl
  by_cases hport : ∀ d ∈ r.domain, d.port = none
  · -- the name has no colon, so the cut falls behind it
    have hname : ':' ∉ r.name := by
      intro hc
      obtain hc | hc := List.mem_append.mp hc
      · obtain hc | hc := List.mem_append.mp hc
        · cases hdomain : r.domain with
          | none => simp [hdomain, domainText] at hc
          | some d =>
            have hnone : d.port = none := hport d hdomain
            simp only [hdomain, domainText, hnone, portText, List.append_nil] at hc
            obtain hc | hc := List.mem_append.mp hc
            · exact hhost d hc
            · exact absurd hc (by decide)
        · exact hpath hc
      · exact hrepository hc
    rw [Reference.text, List.append_assoc, Text.before_append_of_notMem hname,
      List.append_right_eq_self]
    constructor
    · intro hcut
      refine ⟨hport, fun htag => ?_⟩
      by_contra hdigest
      obtain ⟨d, hdigest⟩ := Option.ne_none_iff_exists'.mp hdigest
      rw [htag, hdigest, tagText, digestText, List.nil_append] at hcut
      exact absurd hcut (by simp [Text.before])
    · rintro ⟨-, hdigest⟩
      cases htag : r.tag with
      | none =>
        rw [hdigest htag]
        rfl
      | some t => exact Text.before_of_isPrefix ⟨t ++ digestText r.digest, rfl⟩
  · -- the cut falls behind the host, and the port is missing
    refine iff_of_false (fun hcut => ?_) fun h => hport h.1
    push Not at hport
    obtain ⟨d, hdomain, hsome⟩ := hport
    obtain ⟨p, hp⟩ := Option.ne_none_iff_exists'.mp hsome
    have hdomain : r.domain = some d := hdomain
    have hname : r.name = d.host ++ ':' :: (p ++ ['/'] ++ (r.path.map (· ++ ['/'])).flatten ++
        r.repository) := by
      simp [Reference.name, Reference.directory, hdomain, domainText, hp, portText]
    rw [Reference.text, hname, List.append_assoc, List.append_assoc,
      Text.before_append_of_notMem (hhost d), List.cons_append,
      Text.before_singleton_cons] at hcut
    have hlength := congrArg List.length hcut
    simp only [List.length_append, List.length_cons, List.length_nil] at hlength
    omega

/-! ## No tag is given -/

/-- `@sha` is found where the algorithm of the digest begins so, and
nowhere else. -/
theorem before_sha_iff : Text.before ['@', 's', 'h', 'a'] r.text = r.name ++ tagText r.tag ↔
    ∀ d ∈ r.digest, ['s', 'h', 'a'] <+: d.algorithm := by
  rw [Reference.text, Text.before_append_of_notMem Reference.at_notMem_front,
    List.append_right_eq_self]
  cases hdigest : r.digest with
  | none => simp [digestText, Text.before]
  | some d =>
    have hprefix : ['@', 's', 'h', 'a'] <+: digestText (some d) ↔ ['s', 'h', 'a'] <+: d.algorithm := by
      rw [digestText, List.cons_append, List.cons_prefix_cons]
      refine ⟨fun h => ?_, fun h => ⟨rfl, h.trans (List.prefix_append _ _)⟩⟩
      -- the algorithm has three characters, or a colon would be one of these
      by_contra hno
      have hshort : d.algorithm.length < 3 := by
        by_contra hlong
        exact hno (List.prefix_of_prefix_length_le h.2 (List.prefix_append _ _)
          (by simp only [List.length_cons, List.length_nil]; omega))
      have hcolon : ':' ∈ ['s', 'h', 'a'] := by
        have hall : d.algorithm ++ [':'] <+: ['s', 'h', 'a'] :=
          List.prefix_of_prefix_length_le ⟨d.hex, by simp⟩ h.2
            (by simp only [List.length_append, List.length_cons, List.length_nil]; omega)
        exact hall.subset (by simp)
      exact absurd hcolon (by decide)
    have hcut : Text.before ['@', 's', 'h', 'a'] (digestText (some d)) = [] ↔
        ['@', 's', 'h', 'a'] <+: digestText (some d) := by
      constructor
      · intro h
        by_contra hno
        rw [digestText, List.cons_append] at h hno
        rw [Text.before, if_neg hno] at h
        exact absurd h (List.cons_ne_nil _ _)
      · exact Text.before_of_isPrefix
    rw [hcut, hprefix]
    simp

/-! ## What a webhook does -/

/-- The image a service is updated to is the right one exactly if the cut
is. -/
theorem retags_updatedImage_iff :
    Retags r imageTag (updatedImage (String.ofList r.text) imageTag) ↔ CutRight r imageTag := by
  rw [retags_iff, updatedImage, retaggedText, requestedTag, CutRight, String.toList_ofList]
  by_cases htag : imageTag = ""
  · have hold : ∀ t ∈ r.tag, t ∈ Image.tag := r.tag_mem
    rw [if_neg (not_not_intro htag), if_neg (not_not_intro htag), String.toList_ofList, before_sha_iff]
    constructor
    · rintro ⟨hsha, -⟩
      exact ⟨fun hne => absurd htag hne, fun _ => hsha⟩
    · rintro ⟨-, hsha⟩
      exact ⟨hsha htag, hold⟩
  · have hcut : (String.ofList (Text.before [':'] r.text) ++ ":" ++ imageTag).toList =
        r.name ++ tagText (some imageTag.toList) ↔ Text.before [':'] r.text = r.name := by
      have htext : (String.ofList (Text.before [':'] r.text) ++ ":" ++ imageTag).toList =
          Text.before [':'] r.text ++ ':' :: imageTag.toList := by
        simp [String.toList_append]
      rw [htext, tagText]
      exact List.append_left_inj _
    rw [if_pos htag, if_pos htag, hcut, before_colon_iff]
    constructor
    · rintro ⟨⟨hport, hdigest⟩, hmem⟩
      exact ⟨fun _ => ⟨hmem _ rfl, hport, hdigest⟩, fun h => absurd h htag⟩
    · rintro ⟨h, -⟩
      obtain ⟨hmem, hport, hdigest⟩ := h htag
      refine ⟨⟨hport, hdigest⟩, fun t ht => ?_⟩
      obtain rfl := Option.some.inj ht
      exact hmem

/-- **A webhook retags, exactly if the cut is right.** A run that succeeds
has asked for one update of the service, on the version it had; its image
is the reference retagged if and only if the tag given is a tag, the
registry has no port and no digest stands in the place of the old tag; or
no tag is given and the digest is one that the cut finds. -/
theorem updates_retagged_iff {w w' : Sys Callee Server} {endpoint : Endpoint}
    {resourceID : String} {service : Service}
    (hservice : w.store.services endpoint.id resourceID = some service)
    (himage : service.spec.image = String.ofList r.text)
    (hrun : (executeServiceWebhook endpoint resourceID imageTag).run w = (.ok (), w')) :
    (∃ image, w'.store.updates = w.store.updates ++ [⟨endpoint.id, resourceID, service.version,
        ⟨image, (service.spec.forceUpdate + 1) % 2 ^ 64⟩⟩] ∧ Retags r imageTag image) ↔
      CutRight r imageTag := by
  -- what a run that succeeds has done
  have hupdates : w'.store.updates =
      w.store.updates ++ [requestedUpdate endpoint.id resourceID imageTag service] := by
    unfold executeServiceWebhook at hrun
    obtain ⟨_, w₁, hclient, hrun⟩ := Action.bind_run_ok.mp hrun
    obtain ⟨found, w₂, hinspect, hrun⟩ := Action.bind_run_ok.mp hrun
    have hstore₁ : w₁.store = w.store := by
      obtain ⟨-, hquery⟩ := Action.require_bind_run_ok.mp (Action.mapError_run_ok.mp hclient)
      exact (Action.query_run_ok hquery).2
    obtain ⟨hfound, hstore₂⟩ := Action.lookup_run_ok (Action.mapError_run_ok.mp hinspect)
    have hstore' := Action.call_run_ok (Action.mapError_run_ok.mp hrun)
    rw [hstore₁, hservice] at hfound
    obtain rfl := Option.some.inj hfound
    rw [hstore', hstore₂, hstore₁]
  rw [hupdates]
  have hretagged : Retags r imageTag (updatedImage service.spec.image imageTag) ↔
      CutRight r imageTag := himage ▸ retags_updatedImage_iff
  rw [← hretagged]
  constructor
  · rintro ⟨image, happend, hretags⟩
    obtain ⟨-, hsame⟩ := List.append_inj' happend rfl
    have hsame : updatedImage service.spec.image imageTag = image :=
      congrArg (fun u => u.spec.image) (List.cons.inj hsame).1
    exact hsame ▸ hretags
  · intro hretags
    exact ⟨_, rfl, hretags⟩

/-! ## Two services -/

theorem pathComponent_shop : ['s', 'h', 'o', 'p'] ∈ pathComponent := by
  have hlower : ∀ c ∈ ['s', 'h', 'o', 'p'], Lower c := by
    simp only [List.forall_mem_cons]
    exact ⟨by decide, by decide, by decide, by decide, fun _ h => nomatch h⟩
  exact mem_mul_kstar ⟨List.cons_ne_nil _ _, fun c hc => .inl (hlower c hc)⟩

theorem tag_digit {c : Char} (h : Digit c) : [c] ∈ Image.tag := by
  refine ⟨List.cons_ne_nil _ _, by simp, fun d hd => ?_, ?_, ?_⟩
  · obtain rfl := List.mem_singleton.mp hd
    exact .inl (.inr (.inr h))
  · rintro ⟨⟩
    exact absurd h (by decide)
  · rintro ⟨⟩
    exact absurd h (by decide)

/-- `shop:1`. -/
def shopReference : Reference where
  domain := none
  path := []
  repository := ['s', 'h', 'o', 'p']
  tag := some ['1']
  digest := none
  path_mem := by simp
  repository_mem := pathComponent_shop
  tag_mem := by
    rintro t ⟨⟩
    exact tag_digit (by decide)

/-- The registry `h:5`. -/
def portDomain : Image.Domain where
  host := ['h']
  port := some ['5']
  host_mem := by
    refine mem_mul_kstar ⟨List.cons_ne_nil _ _, fun c hc => .inl (.inl ?_), by simp, by simp⟩
    obtain rfl := List.mem_singleton.mp hc
    decide
  port_mem := by
    rintro p ⟨⟩
    refine ⟨List.cons_ne_nil _ _, fun c hc => ?_⟩
    obtain rfl := List.mem_singleton.mp hc
    decide

/-- A host with one service, on the image given. -/
def shopHost (r : Reference) : Sys Callee Server :=
  .faultless { services := fun _ serviceID =>
    if serviceID = "shop" then some ⟨7, ⟨String.ofList r.text, 0⟩⟩ else none }

theorem updates_retagged_iff_shop : ∃ image,
    ((executeServiceWebhook { id := 1 } "shop" "2").run (shopHost shopReference)).2.store.updates =
      [⟨1, "shop", 7, ⟨image, 1⟩⟩] ∧ Retags shopReference "2" image := by
  have hright : CutRight shopReference "2" := by
    refine ⟨fun _ => ⟨tag_digit (by decide), by rintro d ⟨⟩, fun _ => rfl⟩, fun h => ?_⟩
    exact absurd h (by decide)
  have hservice : (shopHost shopReference).store.services 1 "shop" =
      some ⟨7, ⟨String.ofList shopReference.text, 0⟩⟩ := rfl
  have hrun : (executeServiceWebhook { id := 1 } "shop" "2").run (shopHost shopReference) = (.ok (),
      ((executeServiceWebhook { id := 1 } "shop" "2").run (shopHost shopReference)).2) := rfl
  exact (updates_retagged_iff hservice rfl hrun).mpr hright

/-- **A registry with a port is lost**: the service on `h:5/shop:1` is
updated to `h:2`. -/
theorem not_retags_of_port : ¬ ∀ (w w' : Sys Callee Server) (endpoint : Endpoint)
    (resourceID imageTag : String) (service : Service) (r : Reference),
    w.store.services endpoint.id resourceID = some service →
    service.spec.image = String.ofList r.text → imageTag.toList ∈ Image.tag →
    (executeServiceWebhook endpoint resourceID imageTag).run w = (.ok (), w') →
    ∃ image, w'.store.updates = w.store.updates ++ [⟨endpoint.id, resourceID, service.version,
      ⟨image, (service.spec.forceUpdate + 1) % 2 ^ 64⟩⟩] ∧ Retags r imageTag image := by
  intro hall
  let r : Reference := { shopReference with domain := some portDomain }
  obtain ⟨image, hupdates, hretags⟩ := hall (shopHost r) _ { id := 1 } "shop" "2" _ r rfl rfl
    (tag_digit (by decide)) rfl
  have himage : updatedImage (String.ofList r.text) "2" = image :=
    congrArg (fun u => u.spec.image) (List.cons.inj hupdates).1
  rw [← himage, retags_updatedImage_iff] at hretags
  have hport : portDomain.port = none := (hretags.1 (by decide)).2.1 _ rfl
  exact absurd hport (by decide)

/-! ## Runs of posts -/

/-- A post to a webhook, with the outcomes of its calls. -/
structure Post where
  token : String
  imageTag : String := ""
  faults : Callee → List (Option String) := fun _ => []

def posting : Machine Server Post where
  step s p := some ((webhookExecute p.token p.imageTag).run ⟨s, p.faults⟩).2.store

variable {s s' : Server} {posts : List Post}

/-- The service that the first webhook of a token is for. -/
def target (s : Server) (token : String) : Option (EndpointID × String) :=
  (s.webhook.all.find? (·.token = token)).map fun webhook => (webhook.endpointID, webhook.resourceID)

/-- **What is updated is among the targets**, in their order, and what is
not is as it was. -/
structure UpdatesOnly (targets : List (EndpointID × String)) (s s' : Server) : Prop where
  webhook : s'.webhook = s.webhook
  updates : ∃ us, s'.updates = s.updates ++ us ∧ (us.map fun u => (u.endpointID, u.serviceID)).Sublist targets
  others : ∀ e id, (e, id) ∉ targets → s'.services e id = s.services e id

theorem UpdatesOnly.refl {targets : List (EndpointID × String)} : UpdatesOnly targets s s :=
  ⟨rfl, ⟨[], (List.append_nil _).symm, List.nil_sublist _⟩, fun _ _ _ => rfl⟩

/-- One post updates the service of its webhook, or nothing. -/
theorem leaves_webhookExecute {R : Callee → Prop} {token imageTag : String} :
    Action.Leaves R (webhookExecute token imageTag) s (fun _ => UpdatesOnly (target s token).toList s)
      (UpdatesOnly (target s token).toList s) := by
  unfold webhookExecute
  refine .lookup_bind .refl fun webhook hwebhook => .lookup_bind .refl fun endpoint hendpoint => ?_
  have htarget : target s token = some (endpoint.id, webhook.resourceID) := by
    rw [target, hwebhook, show endpoint.id = webhook.endpointID from Bucket.key_of_get? hendpoint]
    rfl
  cases webhook.webhookType with
  | unknown n => exact .fail .refl
  | serviceWebhook =>
    refine .read_bind (P := fun _ => True) (.mapError (.require_bind .refl fun _ => .query ⟨rfl, trivial⟩ .refl)) ?_
    refine fun _ _ => .lookup_bind .refl fun service _ => .mapError (.call ?_ .refl)
    rw [htarget]
    refine ⟨rfl, ⟨[_], rfl, List.Sublist.refl _⟩, fun e id hnot => if_neg fun heq => hnot ?_⟩
    rw [heq.1, heq.2]
    exact List.mem_singleton_self _

/-- **In every run of posts a token updates no service but that of its
webhook**, and each post updates it once at most. -/
theorem updatesOnly_of_run (hrun : posting.run s posts = some s') :
    UpdatesOnly (posts.filterMap fun p => target s p.token) s s' := by
  induction posts generalizing s with
  | nil => exact Option.some.inj hrun ▸ .refl
  | cons p posts ih =>
    obtain ⟨s₁, hstep, hrest⟩ := Machine.run_cons.mp hrun
    have hone : UpdatesOnly (target s p.token).toList s s₁ := by
      rw [← Option.some.inj hstep]
      exact leaves_webhookExecute.store (R := fun _ => False) rfl fun _ h => h.elim
    have htargets : (posts.filterMap fun p => target s₁ p.token) = posts.filterMap fun p => target s p.token := by
      simp only [target, hone.webhook]
    have happend : ((p :: posts).filterMap fun p => target s p.token) =
        (target s p.token).toList ++ posts.filterMap fun p => target s p.token := by
      cases htarget : target s p.token <;> simp [htarget]
    obtain ⟨hwebhook, ⟨us, hus, hsub⟩, hothers⟩ := htargets ▸ ih hrest
    obtain ⟨us₁, hus₁, hsub₁⟩ := hone.updates
    rw [happend]
    refine ⟨hwebhook.trans hone.webhook, ⟨us₁ ++ us, ?_, ?_⟩, fun e id hnot => ?_⟩
    · rw [hus, hus₁, List.append_assoc]
    · rw [List.map_append]
      exact hsub₁.append hsub
    · rw [List.mem_append, not_or] at hnot
      exact (hothers e id hnot.2).trans (hone.others e id hnot.1)

/-- A webhook for one of the services of an environment. -/
def hooked : Server where
  endpoint := ({} : Bucket Endpoint).put { id := 1 }
  webhook := ({} : Bucket Webhook).put { id := 1, token := "t", resourceID := "shop", endpointID := 1 }
  services := fun _ _ => some ⟨7, ⟨"shop:1", 0⟩⟩

theorem updatesOnly_of_run_hooked : ∃ s', posting.run hooked [{ token := "t" }, { token := "u" }] = some s' ∧
    s'.services 1 "blog" = some ⟨7, ⟨"shop:1", 0⟩⟩ :=
  ⟨_, rfl, (@updatesOnly_of_run hooked _ [{ token := "t" }, { token := "u" }] rfl).others 1 "blog" (by decide)⟩

end Webhooks

end Portainer
