import Portainer.Common.ImageDenotation
/-!
# Images — taken apart and put together

An image that is taken apart and put together should be the one it was, and
a registry should be chosen only for an image that lives in it. The registry
is found by looking for its address, or for the name of its user, anywhere
in the reference. `splitsRight_iff` says for which references and registries
this is right.
-/

namespace Portainer

namespace Images

/-! ## Images — the registry of an image

`registryService` and `helpers/imageHelper`: the registry of an image is
looked for among those configured, the image is cut behind its address, and
the two are put together again. -/

abbrev Text := List Char

/-- `RegistryTypes`. -/
inductive RegistryType where
  | anonymous
  | quay
  | azure
  | custom
  | gitlab
  | proget
  | dockerhub
deriving DecidableEq

/-- A registry. The path of the project is read for GitLab, the organisation
for Quay. -/
structure Registry where
  id : ℕ
  type : RegistryType
  url : Text
  username : Text
  projectPath : Text
  useOrganisation : Bool
  organisationName : Text
deriving DecidableEq

/-- `DockerHubViewModel`. -/
def dockerHubViewModel : Registry :=
  { id := 0, type := .anonymous, url := Image.dockerHub, username := [], projectPath := [], useOrganisation := false,
    organisationName := [] }

/-- `PorImageRegistryModel`. -/
structure ImageRegistryModel where
  useRegistry : Bool := true
  registry : Registry
  image : Text

/-! ## Taking an image apart -/

/-- The account of Quay. -/
def Registry.quayName (reg : Registry) : Text := if reg.useOrganisation then reg.organisationName else reg.username

def getURL (reg : Registry) : Text :=
  match reg.type with
  | .gitlab => reg.url ++ '/' :: reg.projectPath
  | .quay => reg.url ++ '/' :: reg.quayName
  | _ => reg.url

/-- `imageContainsURL`: the first component has a dot or a colon, and is not
the only one. -/
def imageContainsURL (image : Text) : Bool :=
  '/' ∈ image && ('.' ∈ (Text.cut '/' image).1 || ':' ∈ (Text.cut '/' image).1)

/-- The registry that is looked for: by its identifier where there is one
(zero is none), by the name of the user for Docker Hub, and else by its
address. -/
def isRegistryOf (repository : Text) (registryId : Option ℕ) (reg : Registry) : Bool :=
  match registryId with
  | some (id + 1) => reg.id = id + 1
  | _ =>
    match reg.type with
    | .dockerhub => reg.username <:+: repository
    | _ => getURL reg <:+: repository

def withoutSlash : Text → Text
  | '/' :: image => image
  | image => image

/-- What stands behind the last occurrence of the address, without a slash;
all of it if the address does not occur. -/
def imageBehind (url repository : Text) : Text :=
  let lastIndex :=
    match Text.lastIndexOf url repository with
    | some i => i + url.length
    | none => 0
  withoutSlash (repository.drop lastIndex)

def retrievePorRegistryModelFromRepositoryWithRegistries (repository : Text) (registries : List Registry)
    (registryId : Option ℕ) : ImageRegistryModel :=
  match registries.find? (isRegistryOf repository registryId) with
  | some registry => { registry := registry, image := imageBehind (getURL registry) repository }
  | none =>
    { useRegistry := !imageContainsURL repository, registry := dockerHubViewModel, image := repository }

/-! ## Putting it together -/

/-- The name before the tag that is added. -/
def fullImageName (registry : Registry) (image : Text) : Text :=
  match registry.type with
  | .gitlab =>
    registry.url ++ '/' :: registry.projectPath ++ (if image.head? = some ':' then [] else ['/']) ++ image
  | .anonymous => image
  | .quay => (if registry.url ≠ [] then registry.url ++ ['/'] else []) ++ registry.quayName ++ '/' :: image
  | _ => registry.url ++ '/' :: image

def buildImageFullURI (model : ImageRegistryModel) : Text :=
  if !model.useRegistry then model.image
  else if ':' ∉ model.image then fullImageName model.registry model.image ++ ':' :: Image.latest
  else fullImageName model.registry model.image

open Image (Reference Domain DomainLike dockerHub latest localhost)
open Image.Reference

variable {r q : Reference} {reg : Registry} {registries : List Registry} {address image before after rest s : Text}

/-! ## The property -/

/-- The text denotes the image of the reference. -/
def Denotes (t : Text) (r : Reference) : Prop := ∃ q : Reference, q.Proper ∧ q.text = t ∧ q.SameImage r

/-- The reference lives in the registry with the address: its full name is
the address, or goes on behind it with a slash. -/
def LivesIn (r : Reference) (address : Text) : Prop := r.fullName = address ∨ address ++ ['/'] <+: r.fullName

/-- **The split and the join are right**: the image is the one it was, and if
a registry is used the image lives in it. -/
def SplitsRight (r : Reference) (registries : List Registry) : Prop :=
  let model := retrievePorRegistryModelFromRepositoryWithRegistries r.text registries none
  Denotes (buildImageFullURI model) r ∧ (model.useRegistry = true → LivesIn r (getURL model.registry))

/-- The text is found at the start, and nowhere else. -/
def OnlyAtStart (t s : Text) : Prop := ∀ before after, s = before ++ t ++ after → before = []

/-- **The registry fits the reference**, which has a host and lives in it, its
address occurring nowhere else; a project of GitLab may be the image itself
if there is a tag. Or it has no host, and the registry is Docker Hub. -/
def Fits (r : Reference) (reg : Registry) : Prop :=
  (r.domain.isSome ∧ LivesIn r (getURL reg) ∧ OnlyAtStart (getURL reg) r.text ∧
      (r.fullName = getURL reg → reg.type = .gitlab ∧ r.tag.isSome)) ∨
    r.domain = none ∧ reg.type = .dockerhub ∧ reg.url = dockerHub ∧ ¬ dockerHub <:+: r.text

/-! ## Addresses -/

theorem domainLike_registry (hr : r.Proper) : DomainLike r.registry := by
  rw [registry]
  cases hdomain : r.domain with
  | some d => exact hr.domain d hdomain
  | none => exact .inl (by decide)

theorem registry_ne_nil (hr : r.Proper) : r.registry ≠ [] := by
  intro hnil
  have hlike := domainLike_registry hr
  rw [hnil] at hlike
  revert hlike
  decide

/-- An address in which a reference lives begins with its registry. -/
theorem exists_of_livesIn (h : LivesIn r address) : ∃ a, address = r.registry ++ a ∧ ∀ c ∈ a.head?, c = '/' := by
  obtain rfl | ⟨rest, hrest⟩ := h
  · refine ⟨'/' :: r.repositoryName, rfl, ?_⟩
    rintro c ⟨⟩
    rfl
  · rw [List.append_assoc, fullName, List.singleton_append] at hrest
    obtain ⟨a, ha⟩ | ⟨a, ha⟩ := List.prefix_or_prefix_of_prefix ⟨'/' :: rest, hrest⟩
      (⟨'/' :: r.repositoryName, rfl⟩ : r.registry <+: r.registry ++ '/' :: r.repositoryName)
    · -- the address is shorter: the slash behind it is one of the registry
      cases a with
      | nil => exact ⟨[], by rw [List.append_nil, ← ha, List.append_nil], fun c hc => by cases hc⟩
      | cons c a =>
        rw [← ha, List.append_assoc, List.append_cancel_left_eq, List.cons_append, List.cons.injEq] at hrest
        refine absurd ?_ (slash_notMem_registry (r := r))
        rw [← ha, ← hrest.1]
        exact List.mem_append_right _ List.mem_cons_self
    · refine ⟨a, ha.symm, ?_⟩
      rw [← ha, List.append_assoc, List.append_cancel_left_eq] at hrest
      rintro c hc
      cases a with
      | nil => cases hc
      | cons d a =>
        rw [List.cons_append, List.cons.injEq] at hrest
        obtain rfl := Option.some.inj hc
        exact hrest.1

/-- What follows the address in the full name has no colon, and what the
address has behind the registry has none. -/
theorem colon_notMem_of_fullName {a : Text} (h : r.fullName = r.registry ++ a ++ '/' :: rest) : ':' ∉ a ∧ ':' ∉ rest := by
  rw [fullName, List.append_assoc, List.append_cancel_left_eq] at h
  have hnot : ':' ∉ a ++ '/' :: rest := by
    rw [← h, List.mem_cons, not_or]
    exact ⟨by decide, colon_notMem_repositoryName⟩
  rw [List.mem_append, List.mem_cons, not_or, not_or] at hnot
  exact ⟨hnot.1, hnot.2.2⟩

/-! ## What is put together -/

/-- The tag that is added. -/
def tagOf (image : Text) : Text := if ':' ∈ image then [] else ':' :: latest

/-- What stands between the address and the image. -/
def separatorOf (reg : Registry) (image : Text) : Text :=
  if reg.type = .gitlab ∧ image.head? = some ':' then [] else ['/']

theorem fullImageName_eq (hr : r.Proper) (htype : reg.type ≠ .anonymous) (hlives : LivesIn r (getURL reg)) :
    fullImageName reg image = getURL reg ++ separatorOf reg image ++ image := by
  rw [fullImageName, separatorOf]
  cases hreg : reg.type with
  | anonymous => exact absurd hreg htype
  | gitlab =>
    rw [getURL, hreg]
    simp
  | quay =>
    rw [getURL, hreg] at hlives ⊢
    have hurl : reg.url ≠ [] := by
      intro hnil
      obtain ⟨a, haddress, -⟩ := exists_of_livesIn hlives
      obtain ⟨c, registry, hregistry⟩ := List.exists_cons_of_ne_nil (registry_ne_nil hr)
      refine absurd ?_ (slash_notMem_registry (r := r))
      rw [hregistry] at haddress ⊢
      have hcons : '/' :: reg.quayName = c :: (registry ++ a) := by simpa [hnil] using haddress
      rw [(List.cons.inj hcons).1]
      exact List.mem_cons_self
    simp [hurl]
  | azure => simp [getURL, hreg]
  | custom => simp [getURL, hreg]
  | proget => simp [getURL, hreg]
  | dockerhub => simp [getURL, hreg]

theorem buildImageFullURI_eq (hr : r.Proper) (htype : reg.type ≠ .anonymous) (hlives : LivesIn r (getURL reg)) :
    buildImageFullURI { registry := reg, image := image } =
      getURL reg ++ separatorOf reg image ++ image ++ tagOf image := by
  have hbuild : buildImageFullURI { registry := reg, image := image } =
      if ':' ∉ image then fullImageName reg image ++ ':' :: latest else fullImageName reg image := rfl
  rw [hbuild, fullImageName_eq hr htype hlives, tagOf]
  by_cases hcolon : ':' ∈ image
  · rw [if_pos hcolon, if_neg (not_not.mpr hcolon), List.append_nil]
  · rw [if_neg hcolon, if_pos hcolon]

theorem withoutSlash_cases (s : Text) : s = '/' :: withoutSlash s ∨ s = withoutSlash s := by
  unfold withoutSlash
  split
  · exact .inl rfl
  · exact .inr rfl

theorem tag_isSome_of_head (h : r.versionText.head? = some ':') : r.tag.isSome := by
  cases htag : r.tag with
  | some tag => rfl
  | none =>
    rw [versionText, htag] at h
    cases hdigest : r.digest with
    | none =>
      rw [hdigest] at h
      cases h
    | some d =>
      rw [hdigest] at h
      exact absurd (Option.some.inj h) (by decide)

theorem withoutSlash_of_notMem (h : '/' ∉ s) : withoutSlash s = s := by
  obtain hslash | hsame := withoutSlash_cases s
  · exact absurd (hslash ▸ List.mem_cons_self) h
  · exact hsame.symm

theorem length_withoutSlash_le (s : Text) : (withoutSlash s).length ≤ s.length := by
  obtain hslash | hsame := withoutSlash_cases s
  · rw [hslash]
    exact Nat.le_succ _
  · exact le_of_eq (congrArg List.length hsame.symm)

/-- A text that denotes the image of a reference, and begins with its
registry, is its full name with a version. -/
theorem text_eq_of_registry {t : Text} (hr : r.Proper) (hq : q.Proper) (hsame : q.SameImage r)
    (h : q.text = r.registry ++ '/' :: t) : q.text = r.fullName ++ q.versionText := by
  obtain ⟨d, hd, -⟩ := domain_of_text hq slash_notMem_registry (domainLike_registry hr) h
  have hname : q.fullName = r.fullName := by rw [fullName, fullName, hsame.1, hsame.2.1]
  rw [text_eq_fullName (by rw [hd]; rfl), hname]

/-! ## A later occurrence -/

/-- A later occurrence, for an image whose name ends where its version
repeats it: there is none. -/
theorem no_later_before_latest {a : Text} (hr : r.Proper) (hdomain : r.domain.isSome) (hhead : ∀ c ∈ a.head?, c = '/')
    (ha : ':' ∉ a) (hcolon : ':' ∉ rest)
    (h : before ++ (r.registry ++ a) ++ after = (r.registry ++ a) ++ '/' :: (rest ++ ':' :: latest))
    (hafter : after = '/' :: rest ∨ after = rest) : False := by
  -- the rest is shorter than the tag, and so a part of it
  have hslash : '/' ∉ rest := by
    have hrest : rest <:+ before ++ (r.registry ++ a) ++ after := by
      obtain rfl | rfl := hafter
      · exact ((List.suffix_cons '/' rest).trans (List.suffix_append _ _))
      · exact List.suffix_append _ _
    have htag : ':' :: latest <:+ before ++ (r.registry ++ a) ++ after := by
      rw [h]
      exact (List.suffix_append rest _).trans ((List.suffix_cons '/' _).trans (List.suffix_append _ _))
    obtain hpart | hpart := List.suffix_or_suffix_of_suffix hrest htag
    · exact fun hmem => absurd (hpart.subset hmem) (by decide)
    · exact absurd (hpart.subset List.mem_cons_self) hcolon
  have hend : '/' ∉ rest ++ ':' :: latest := by
    rw [List.mem_append, not_or]
    exact ⟨hslash, by decide⟩
  obtain rfl | rfl := hafter
  · obtain ⟨-, hback⟩ := Text.eq_of_append_cons_right hslash hend h
    have hlength : rest.length = (rest ++ ':' :: latest).length := congrArg List.length hback
    rw [List.length_append, List.length_cons] at hlength
    omega
  · cases a with
    | cons c a =>
      obtain rfl := hhead c rfl
      -- behind the last slash of the address there is no colon
      obtain ⟨front, back, hsplit, hback⟩ := Text.exists_last_of_mem (List.mem_cons_self (a := '/') (l := a))
      rw [hsplit] at h ha
      have hlast : before ++ r.registry ++ front ++ '/' :: (back ++ after) =
          (r.registry ++ (front ++ '/' :: back)) ++ '/' :: (after ++ ':' :: latest) := by
        rw [← h]
        simp
      obtain ⟨-, hback⟩ := Text.eq_of_append_cons_right
        (by rw [List.mem_append, not_or]; exact ⟨hback, hslash⟩) hend hlast
      have hmem : ':' ∈ back ++ after := hback ▸ List.mem_append_right _ List.mem_cons_self
      obtain hmem | hmem := List.mem_append.mp hmem
      · exact ha (List.mem_append_right _ (List.mem_cons_of_mem _ hmem))
      · exact hcolon hmem
    | nil =>
      rw [List.append_nil] at h
      -- the address is the registry, so a slash stands before its occurrence
      have hbefore : '/' ∈ before := by
        have hmem : '/' ∈ before ++ r.registry ++ after := h ▸ List.mem_append_right _ List.mem_cons_self
        obtain hmem | hmem := List.mem_append.mp hmem
        · obtain hmem | hmem := List.mem_append.mp hmem
          · exact hmem
          · exact absurd hmem slash_notMem_registry
        · exact absurd hmem hslash
      obtain ⟨front, back, rfl, hback⟩ := Text.exists_last_of_mem hbefore
      have hlast : front ++ '/' :: (back ++ r.registry ++ after) = r.registry ++ '/' :: (after ++ ':' :: latest) := by
        rw [← h]
        simp
      obtain ⟨-, hend⟩ := Text.eq_of_append_cons_right (by
        rw [List.mem_append, List.mem_append, not_or, not_or]
        exact ⟨⟨hback, slash_notMem_registry⟩, hslash⟩) hend hlast
      obtain ⟨d, hd⟩ := Option.isSome_iff_exists.mp hdomain
      have hregistry : r.registry = d.host ++ Image.portText d.port := by
        rw [registry, hd]
        rfl
      cases hport : d.port with
      | some port =>
        -- a port is a number, and the tag is none
        have hcut : back ++ d.host ++ ':' :: (port ++ after) = after ++ ':' :: latest := by
          rw [← hend, hregistry, hport, Image.portText]
          simp
        have hdigits : port ∈ Image.portNumber := d.port_mem port hport
        have hportAfter : ':' ∉ port ++ after := by
          rw [List.mem_append, not_or]
          exact ⟨fun hmem => (Image.over_portNumber port hdigits _ hmem).2.1 rfl, hcolon⟩
        obtain ⟨-, hlatest⟩ := Text.eq_of_append_cons_right hportAfter (by decide) hcut
        obtain ⟨digit, digits, rfl⟩ := List.exists_cons_of_ne_nil hdigits.1
        have hdigit : Image.Digit digit := hdigits.2 digit List.mem_cons_self
        obtain ⟨rfl, -⟩ := List.cons.inj hlatest
        revert hdigit
        decide
      | none =>
        -- the registry is a part of the tag
        have hnot : ':' ∉ r.registry := by
          rw [hregistry, hport, Image.portText, List.append_nil]
          exact fun hmem => (Image.over_host d.host d.host_mem _ hmem).2.1 rfl
        have hmem : ':' ∈ back ++ r.registry ++ after := hend ▸ List.mem_append_right _ List.mem_cons_self
        rw [List.mem_append, List.mem_append] at hmem
        obtain ⟨first, second, rfl, hsecond⟩ := Text.exists_last_of_mem
          ((hmem.resolve_right hcolon).resolve_right hnot)
        have hcut : first ++ ':' :: (second ++ r.registry ++ after) = after ++ ':' :: latest := by
          rw [← hend]
          simp
        obtain ⟨-, hlatest⟩ := Text.eq_of_append_cons_right (by
          rw [List.mem_append, List.mem_append, not_or, not_or]
          exact ⟨⟨hsecond, hnot⟩, hcolon⟩) (by decide) hcut
        have hsub : ∀ c ∈ r.registry, c ∈ latest := by
          intro c hc
          rw [← hlatest]
          exact List.mem_append_left _ (List.mem_append_right _ hc)
        obtain hdot | hmem | hlocal := domainLike_registry hr
        · exact absurd (hsub _ hdot) (by decide)
        · exact hnot hmem
        · exact absurd (hsub 'o' (hlocal ▸ by decide)) (by decide)

/-- The number of slashes tells a text before an address from a slash behind
it. -/
theorem cons_registry_ne {a : Text} {c : Char} (hr : r.Proper) (h : c :: (r.registry ++ a) = (r.registry ++ a) ++ ['/']) :
    False := by
  have hcount : ∀ t : Text, c :: t = t ++ ['/'] → c = '/' := by
    intro t ht
    have hboth : (c :: t).count '/' = (t ++ ['/']).count '/' := congrArg (List.count '/') ht
    by_contra hne
    rw [List.count_cons_of_ne hne, List.count_append, List.count_singleton_self] at hboth
    omega
  obtain ⟨d, registry, hregistry⟩ := List.exists_cons_of_ne_nil (registry_ne_nil hr)
  have hslash : c = '/' := hcount _ h
  rw [hregistry, List.cons_append, List.cons_append, List.cons.injEq] at h
  refine absurd ?_ (slash_notMem_registry (r := r))
  rw [hregistry, ← h.1, hslash]
  exact List.mem_cons_self

/-- **Nothing stands before the last occurrence** of the address, where what
is put together denotes the image. -/
theorem before_eq_nil (hr : r.Proper) (hdomain : r.domain.isSome) (hlives : LivesIn r address)
    (hname : r.fullName = address ++ '/' :: rest) (htext : r.text = before ++ address ++ after) (hq : q.Proper)
    (hsame : q.SameImage r)
    (hjoin : q.text = address ++ '/' :: withoutSlash after ++ tagOf (withoutSlash after)) : before = [] := by
  obtain ⟨a, rfl, hhead⟩ := exists_of_livesIn hlives
  obtain ⟨ha, hcolonRest⟩ := colon_notMem_of_fullName hname
  have hqname : q.text = r.fullName ++ q.versionText := by
    cases a with
    | nil =>
      refine text_eq_of_registry hr hq hsame (t := withoutSlash after ++ tagOf (withoutSlash after)) ?_
      rw [hjoin]
      simp
    | cons c a =>
      obtain rfl := hhead c rfl
      refine text_eq_of_registry hr hq hsame
        (t := a ++ '/' :: withoutSlash after ++ tagOf (withoutSlash after)) ?_
      rw [hjoin]
      simp
  have himage : withoutSlash after ++ tagOf (withoutSlash after) = rest ++ q.versionText := by
    have hboth : r.registry ++ a ++ '/' :: (withoutSlash after ++ tagOf (withoutSlash after)) =
        r.registry ++ a ++ '/' :: (rest ++ q.versionText) := by
      have hjoined := hjoin.symm.trans hqname
      rw [hname] at hjoined
      simpa using hjoined
    exact (List.cons.inj (List.append_cancel_left hboth)).2
  have hrtext : before ++ (r.registry ++ a) ++ after = (r.registry ++ a) ++ '/' :: (rest ++ r.versionText) := by
    rw [← htext, text_eq_fullName hdomain, hname]
    simp
  have hlength : before.length + (r.registry ++ a).length + after.length =
      (r.registry ++ a).length + (rest.length + r.versionText.length + 1) := by
    have h := congrArg List.length hrtext
    simp only [List.length_append, List.length_cons] at h ⊢
    omega
  -- one character before the address, or a slash behind it, makes up for the slash of the name
  have hclose : rest ++ r.versionText = withoutSlash after → before = [] := by
    intro heq
    have hrest : rest.length + r.versionText.length = (withoutSlash after).length := by
      rw [← List.length_append, heq]
    obtain hafter | hafter := withoutSlash_cases after
    · have hcons : after.length = (withoutSlash after).length + 1 := by rw [hafter]; rfl
      exact List.length_eq_zero_iff.mp (by omega)
    · have hone : before.length = 1 := by
        have hafter' : after.length = (withoutSlash after).length := congrArg List.length hafter
        omega
      obtain ⟨c, rfl⟩ := List.length_eq_one_iff.mp hone
      rw [heq, ← hafter] at hrtext
      refine absurd ?_ (fun h : c :: (r.registry ++ a) = (r.registry ++ a) ++ ['/'] => cons_registry_ne hr h)
      exact List.append_cancel_right (by rw [List.append_assoc (r.registry ++ a), List.singleton_append]; exact hrtext)
  have hafter : (withoutSlash after).length ≤ after.length := length_withoutSlash_le after
  by_cases hcolon : ':' ∈ withoutSlash after
  · rw [tagOf, if_pos hcolon, List.append_nil] at himage
    obtain hversion | ⟨hversion, hnil⟩ | ⟨hnil, -⟩ := versionText_cases hsame.2.2
    · exact hclose (by rw [himage, hversion])
    · have hlong : (withoutSlash after).length = rest.length + 7 := by rw [himage, List.length_append, hversion]; rfl
      rw [hnil, List.length_nil] at hlength
      omega
    · rw [himage, hnil, List.append_nil] at hcolon
      exact absurd hcolon hcolonRest
  · rw [tagOf, if_neg hcolon] at himage
    obtain ⟨hrest, hlatest⟩ := versionText_of_append_latest hcolon hcolonRest himage
    obtain hversion | ⟨-, hnil⟩ | ⟨hnil, -⟩ := versionText_cases hsame.2.2
    · rw [← hversion, hlatest] at hrtext
      rw [← hrest] at hrtext hcolonRest
      exact (no_later_before_latest hr hdomain hhead ha hcolonRest hrtext (withoutSlash_cases after)).elim
    · exact hclose (by rw [hnil, List.append_nil, hrest])
    · rw [hlatest] at hnil
      nomatch hnil

/-! ## References without a host -/

theorem separatorOf_eq (hr : r.Proper) (h : getURL reg = r.registry) : separatorOf reg image = ['/'] := by
  rw [separatorOf, if_neg]
  rintro ⟨hgitlab, -⟩
  refine absurd ?_ (slash_notMem_registry (r := r))
  rw [← h, getURL, hgitlab]
  exact List.mem_append_right _ List.mem_cons_self

/-- What is put together begins with the registry of the reference. -/
theorem text_eq_of_livesIn (hr : r.Proper) (hlives : LivesIn r (getURL reg)) (hq : q.Proper) (hsame : q.SameImage r)
    (h : q.text = getURL reg ++ separatorOf reg image ++ rest) : q.text = r.fullName ++ q.versionText := by
  obtain ⟨a, ha, hhead⟩ := exists_of_livesIn hlives
  cases a with
  | nil =>
    rw [List.append_nil] at ha
    rw [separatorOf_eq hr ha, ha] at h
    exact text_eq_of_registry hr hq hsame (t := rest) (by rw [h]; simp)
  | cons c a =>
    obtain rfl := hhead c rfl
    rw [ha] at h
    exact text_eq_of_registry hr hq hsame (t := a ++ separatorOf reg image ++ rest) (by rw [h]; simp)

theorem length_tagOf (image : Text) : (tagOf image).length = if ':' ∈ image then 0 else 7 := by
  rw [tagOf]
  split <;> rfl

/-- The lengths of the full name and of the text of a reference without a
host. -/
theorem length_of_none (h : r.domain = none) : r.registry = dockerHub ∧
    r.fullName.length = 10 + r.repositoryName.length ∧
    r.text.length = r.repositoryName.length + r.versionText.length := by
  have hregistry : r.registry = dockerHub := by rw [registry, h]
  refine ⟨hregistry, ?_, by rw [text_of_none h, List.length_append]⟩
  rw [fullName, hregistry, List.length_append, List.length_cons, show dockerHub.length = 9 from rfl]
  omega

/-- **Where the address occurs in a reference without a host**, what is put
together is too short to be the image. -/
theorem not_denotes_of_occurs (hr : r.Proper) (hdomain : r.domain = none) (hlives : LivesIn r (getURL reg))
    (htext : r.text = before ++ getURL reg ++ after) :
    ¬ Denotes (getURL reg ++ separatorOf reg (withoutSlash after) ++ withoutSlash after ++ tagOf (withoutSlash after)) r := by
  rintro ⟨q, hq, hjoin, hsame⟩
  have hqtext : q.text = r.fullName ++ q.versionText :=
    text_eq_of_livesIn hr hlives hq hsame (hjoin.trans (List.append_assoc _ _ _))
  obtain ⟨hregistry, hfull, hlength⟩ := length_of_none hdomain
  have hseparator : (separatorOf reg (withoutSlash after)).length ≤ 1 := by
    rw [separatorOf]
    split
    · exact Nat.zero_le 1
    · exact le_rfl
  have hafter : (withoutSlash after).length ≤ after.length := length_withoutSlash_le after
  have hjoined := congrArg List.length (hjoin.symm.trans hqtext)
  have hsplit := congrArg List.length htext
  simp only [List.length_append] at hjoined hsplit
  have htag := length_tagOf (withoutSlash after)
  have hle : (tagOf (withoutSlash after)).length ≤ 7 := by
    rw [htag]
    split <;> omega
  obtain hversion | ⟨hversion, hnil⟩ | ⟨hnil, hversion⟩ := versionText_cases hsame.2.2
  · rw [hversion] at hjoined
    omega
  · rw [hversion, show (':' :: latest).length = 7 from rfl] at hjoined
    rw [hnil, List.length_nil] at hlength
    omega
  · -- the tag that is added would be missing
    have hcolon : ':' ∉ q.text := by
      rw [hqtext, hnil, List.append_nil, fullName, hregistry, List.mem_append, List.mem_cons, not_or, not_or]
      exact ⟨by decide, by decide, colon_notMem_repositoryName⟩
    have hnone : tagOf (withoutSlash after) = [] := by
      rw [tagOf]
      split
      · rfl
      · next hnot =>
        rw [hjoin, tagOf, if_neg hnot] at hcolon
        exact absurd (List.mem_append_right _ List.mem_cons_self) hcolon
    rw [hnone, hnil, List.length_nil] at hjoined
    rw [hversion, show (':' :: latest).length = 7 from rfl] at hlength
    omega

/-- **Docker Hub, where its address does not occur**: it has to be the address
itself. -/
theorem url_eq_of_denotes (hr : r.Proper) (hdomain : r.domain = none) (hlives : LivesIn r (getURL reg))
    (htype : reg.type = .dockerhub)
    (h : Denotes (getURL reg ++ separatorOf reg r.text ++ r.text ++ tagOf r.text) r) : reg.url = dockerHub := by
  obtain ⟨q, hq, hjoin, hsame⟩ := h
  have hqtext : q.text = r.fullName ++ q.versionText :=
    text_eq_of_livesIn hr hlives hq hsame (hjoin.trans (List.append_assoc _ _ _))
  obtain ⟨hregistry, hfull, hlength⟩ := length_of_none hdomain
  have hurl : getURL reg = reg.url := by rw [getURL, htype]
  have hseparator : (separatorOf reg r.text).length = 1 := by
    rw [separatorOf, if_neg (fun h => absurd (h.1.symm.trans htype) (by decide))]
    rfl
  obtain ⟨a, ha, -⟩ := exists_of_livesIn hlives
  rw [hregistry] at ha
  have haddress : (getURL reg).length = 9 + a.length := by rw [ha, List.length_append]; rfl
  have hjoined := congrArg List.length (hjoin.symm.trans hqtext)
  simp only [List.length_append] at hjoined
  have hnil : a.length = 0 := by
    obtain hversion | ⟨hversion, hnil⟩ | ⟨hnil, hversion⟩ := versionText_cases hsame.2.2
    · rw [hversion] at hjoined
      omega
    · have hcolon : ':' ∉ r.text := by
        rw [text_of_none hdomain, hnil, List.append_nil]
        exact colon_notMem_repositoryName
      rw [hversion, show (':' :: latest).length = 7 from rfl, length_tagOf, if_neg hcolon] at hjoined
      rw [hnil, List.length_nil] at hlength
      omega
    · rw [hnil, List.length_nil] at hjoined
      rw [hversion, show (':' :: latest).length = 7 from rfl] at hlength
      omega
  rw [← hurl, ha, List.length_eq_zero_iff.mp hnil, List.append_nil]

/-! ## One registry -/

theorem occurs_of_isRegistryOf (h : isRegistryOf s none reg = true) (htype : reg.type ≠ .dockerhub) :
    getURL reg <:+: s := by
  unfold isRegistryOf at h
  dsimp only at h
  split at h
  · exact absurd (by assumption) htype
  · exact of_decide_eq_true h

/-- What stands behind the last occurrence. -/
theorem exists_of_occurs (h : address <:+: s) : ∃ before after, s = before ++ address ++ after ∧
    imageBehind address s = withoutSlash after ∧
    ∀ before' after', s = before' ++ address ++ after' → before'.length ≤ before.length := by
  cases hlast : Text.lastIndexOf address s with
  | none => exact absurd h (Text.lastIndexOf_eq_none_iff.mp hlast)
  | some i =>
    obtain ⟨before, after, rfl, rfl⟩ := Text.exists_of_lastIndexOf hlast
    refine ⟨before, after, rfl, ?_, ?_⟩
    · rw [imageBehind, hlast]
      dsimp only
      rw [← List.length_append, List.drop_left]
    · intro before' after' hs
      rw [hs] at hlast
      exact Text.length_le_of_lastIndexOf hlast

theorem imageBehind_of_not_occurs (hdomain : r.domain = none) (h : ¬ address <:+: r.text) :
    imageBehind address r.text = r.text := by
  rw [imageBehind, Text.lastIndexOf_eq_none_iff.mpr h]
  dsimp only
  rw [List.drop_zero]
  obtain hslash | hsame := withoutSlash_cases r.text
  · exact absurd hslash (text_ne_slash_cons hdomain)
  · exact hsame.symm

/-- A reference with a host that lives in a registry has its address at the
start. -/
theorem occurs_of_livesIn (hdomain : r.domain.isSome) (hlives : LivesIn r address) : address <:+: r.text := by
  have htext := text_eq_fullName hdomain
  obtain hname | ⟨rest, hrest⟩ := hlives
  · exact ⟨[], r.versionText, by rw [htext, hname]; rfl⟩
  · exact ⟨[], ['/'] ++ rest ++ r.versionText, by rw [htext, ← hrest]; simp⟩

theorem colon_mem_append_versionText_iff (hrest : ':' ∉ rest) : ':' ∈ rest ++ r.versionText ↔ r.versionText ≠ [] := by
  rw [List.mem_append]
  constructor
  · rintro (h | h) hnil
    · exact hrest h
    · rw [hnil] at h
      nomatch h
  · exact fun h => .inr (colon_mem_versionText h)

theorem tagOf_append_versionText (hrest : ':' ∉ rest) :
    tagOf (rest ++ r.versionText) = if r.versionText = [] then ':' :: latest else [] := by
  rw [tagOf]
  by_cases hnil : r.versionText = []
  · rw [if_pos hnil, if_neg fun h => (colon_mem_append_versionText_iff hrest).mp h hnil]
  · rw [if_neg hnil, if_pos ((colon_mem_append_versionText_iff hrest).mpr hnil)]

theorem denotes_complete (hr : r.Proper) : Denotes (r.text ++ if r.versionText = [] then ':' :: latest else []) r :=
  ⟨r.complete, hr.complete, text_complete, sameImage_complete⟩

/-- **A registry and a reference with a host.** -/
theorem fits_of_host (hr : r.Proper) (hdomain : r.domain.isSome) (hlives : LivesIn r (getURL reg)) :
    Denotes (getURL reg ++ separatorOf reg (imageBehind (getURL reg) r.text) ++ imageBehind (getURL reg) r.text ++
        tagOf (imageBehind (getURL reg) r.text)) r ↔
      OnlyAtStart (getURL reg) r.text ∧ (r.fullName = getURL reg → reg.type = .gitlab ∧ r.tag.isSome) := by
  obtain ⟨before, after, htext, himage, hlast⟩ := exists_of_occurs (occurs_of_livesIn hdomain hlives)
  have honly : before = [] → OnlyAtStart (getURL reg) r.text := by
    rintro rfl before' after' hs
    exact List.length_eq_zero_iff.mp (Nat.le_zero.mp (hlast before' after' hs))
  rw [himage]
  obtain hname | ⟨rest, hrest⟩ := id hlives
  · -- The reference is the address itself, and all that follows is the version.
    constructor
    · rintro ⟨q, hq, hjoin, hsame⟩
      have hqtext : q.text = r.fullName ++ q.versionText :=
        text_eq_of_livesIn hr hlives hq hsame (hjoin.trans (List.append_assoc _ _ _))
      have hversion : separatorOf reg (withoutSlash after) ++ (withoutSlash after ++ tagOf (withoutSlash after)) =
          q.versionText := by
        have h := hjoin.symm.trans hqtext
        rw [hname, List.append_assoc, List.append_assoc] at h
        exact List.append_cancel_left h
      have hgitlab : reg.type = .gitlab ∧ (withoutSlash after).head? = some ':' := by
        by_contra hnot
        refine absurd ?_ (slash_notMem_versionText (r := q))
        rw [← hversion, separatorOf, if_neg hnot]
        exact List.mem_cons_self
      have hcolon : ':' ∈ withoutSlash after := List.mem_of_mem_head? hgitlab.2
      rw [separatorOf, if_pos hgitlab, tagOf, if_pos hcolon, List.append_nil, List.nil_append] at hversion
      have hlength : before.length + after.length = r.versionText.length := by
        have h := congrArg List.length htext
        rw [text_eq_fullName hdomain, hname] at h
        simp only [List.length_append] at h
        omega
      have hle := length_withoutSlash_le after
      obtain hsame | ⟨hlatest, hnil⟩ | ⟨hnil, -⟩ := versionText_cases hsame.2.2
      · have himage : (withoutSlash after).length = r.versionText.length := by rw [hversion, hsame]
        refine ⟨honly (List.length_eq_zero_iff.mp (by omega)), fun _ => ⟨hgitlab.1, ?_⟩⟩
        rw [hversion, hsame] at hgitlab
        exact tag_isSome_of_head hgitlab.2
      · have himage : (withoutSlash after).length = 7 := by rw [hversion, hlatest]; rfl
        rw [hnil, List.length_nil] at hlength
        omega
      · rw [hversion, hnil] at hcolon
        nomatch hcolon
    · rintro ⟨hstart, hgitlab⟩
      obtain ⟨hgitlab, htag⟩ := hgitlab hname
      obtain rfl := hstart before after htext
      have hafter : after = r.versionText := by
        rw [text_eq_fullName hdomain, hname, List.nil_append, List.append_cancel_left_eq] at htext
        exact htext.symm
      have hhead : r.versionText.head? = some ':' := by
        obtain ⟨tag, htag⟩ := Option.isSome_iff_exists.mp htag
        rw [versionText, htag]
        rfl
      have hcolon : ':' ∈ r.versionText := List.mem_of_mem_head? hhead
      rw [hafter, withoutSlash_of_notMem slash_notMem_versionText, separatorOf, if_pos ⟨hgitlab, hhead⟩, tagOf,
        if_pos hcolon, List.append_nil, List.append_nil, ← hname, ← text_eq_fullName hdomain]
      exact ⟨r, hr, rfl, rfl, rfl, rfl⟩
  · have hname : r.fullName = getURL reg ++ '/' :: rest := by rw [← hrest]; simp
    have hne : r.fullName ≠ getURL reg := by
      intro heq
      have hlength := congrArg List.length (heq.symm.trans hname)
      rw [List.length_append, List.length_cons] at hlength
      omega
    obtain ⟨a, ha, hhead⟩ := exists_of_livesIn hlives
    have hcolon : ':' ∉ rest := (colon_notMem_of_fullName (ha ▸ hname)).2
    constructor
    · rintro ⟨q, hq, hjoin, hsame⟩
      have hqtext : q.text = r.fullName ++ q.versionText :=
        text_eq_of_livesIn hr hlives hq hsame (hjoin.trans (List.append_assoc _ _ _))
      have hseparator : separatorOf reg (withoutSlash after) = ['/'] := by
        rw [separatorOf, if_neg]
        rintro ⟨hgitlab, hstart⟩
        -- the image would begin with a colon and with a slash
        have hboth : withoutSlash after ++ tagOf (withoutSlash after) = '/' :: (rest ++ q.versionText) := by
          have h := hjoin.symm.trans hqtext
          rw [separatorOf, if_pos ⟨hgitlab, hstart⟩, hname, List.append_nil, List.append_assoc, List.append_assoc,
            List.append_cancel_left_eq] at h
          exact h
        have hfirst := congrArg List.head? hboth
        rw [List.head?_append, hstart] at hfirst
        exact absurd (Option.some.inj hfirst) (by decide)
      rw [hseparator] at hjoin
      refine ⟨honly ?_, fun h => absurd h hne⟩
      exact before_eq_nil hr hdomain hlives hname htext hq hsame (by rw [hjoin]; simp)
    · rintro ⟨hstart, -⟩
      obtain rfl := hstart before after htext
      have hafter : after = '/' :: (rest ++ r.versionText) := by
        rw [text_eq_fullName hdomain, hname, List.nil_append, List.append_assoc, List.append_cancel_left_eq] at htext
        exact htext.symm
      have hseparator : separatorOf reg (rest ++ r.versionText) = ['/'] := by
        rw [separatorOf, if_neg]
        rintro ⟨-, hstart⟩
        cases rest with
        | nil => exact fullName_ne_append_slash hname
        | cons c rest =>
          obtain rfl : c = ':' := Option.some.inj hstart
          exact hcolon List.mem_cons_self
      rw [hafter, show withoutSlash ('/' :: (rest ++ r.versionText)) = rest ++ r.versionText from rfl, hseparator,
        tagOf_append_versionText hcolon]
      have hcomplete := denotes_complete hr
      rw [text_eq_fullName hdomain, hname] at hcomplete
      simpa using hcomplete

/-- **One registry**, exactly: what is put together denotes the image, which
lives in the registry, precisely if the registry fits. -/
theorem fits_iff (hr : r.Proper) (htype : reg.type ≠ .anonymous) (hfound : isRegistryOf r.text none reg = true) :
    Denotes (buildImageFullURI { registry := reg, image := imageBehind (getURL reg) r.text }) r ∧
      LivesIn r (getURL reg) ↔ Fits r reg := by
  constructor
  · rintro ⟨hdenotes, hlives⟩
    rw [buildImageFullURI_eq hr htype hlives] at hdenotes
    cases hdomain : r.domain with
    | some d =>
      have hsome : r.domain.isSome := by rw [hdomain]; rfl
      exact .inl ⟨by rw [hdomain]; rfl, hlives, (fits_of_host hr hsome hlives).mp hdenotes⟩
    | none =>
      by_cases hoccurs : getURL reg <:+: r.text
      · obtain ⟨before, after, htext, himage, -⟩ := exists_of_occurs hoccurs
        rw [himage] at hdenotes
        exact absurd hdenotes (not_denotes_of_occurs hr hdomain hlives htext)
      · have hhub : reg.type = .dockerhub := by
          by_contra hnot
          exact hoccurs (occurs_of_isRegistryOf hfound hnot)
        have himage : imageBehind (getURL reg) r.text = r.text := imageBehind_of_not_occurs hdomain hoccurs
        rw [himage] at hdenotes
        have hurl := url_eq_of_denotes hr hdomain hlives hhub hdenotes
        rw [getURL, hhub] at hoccurs
        exact .inr ⟨hdomain, hhub, hurl, hurl ▸ hoccurs⟩
  · rintro (⟨hdomain, hlives, hfits⟩ | ⟨hdomain, hhub, hurl, hoccurs⟩)
    · rw [buildImageFullURI_eq hr htype hlives]
      exact ⟨(fits_of_host hr hdomain hlives).mpr hfits, hlives⟩
    · have haddress : getURL reg = dockerHub := by rw [getURL, hhub]; exact hurl
      have hregistry : r.registry = dockerHub := (length_of_none hdomain).1
      have hlives : LivesIn r (getURL reg) := by
        refine .inr ⟨r.repositoryName, ?_⟩
        rw [fullName, haddress, hregistry, List.append_assoc, List.singleton_append]
      refine ⟨?_, hlives⟩
      rw [buildImageFullURI_eq hr htype hlives, haddress, imageBehind_of_not_occurs hdomain hoccurs,
        separatorOf_eq hr (haddress.trans hregistry.symm)]
      have hdomain' : r.complete.domain = none := domain_complete.trans hdomain
      refine ⟨r.complete.onHub, proper_onHub, ?_, (sameImage_onHub hdomain').trans sameImage_complete⟩
      rw [text_onHub hdomain', text_complete]
      have htag : tagOf (r.repositoryName ++ r.versionText) = if r.versionText = [] then ':' :: latest else [] :=
        tagOf_append_versionText colon_notMem_repositoryName
      rw [← text_of_none hdomain] at htag
      rw [htag]
      simp

/-! ## The registries -/

theorem livesIn_dockerHub (hdomain : r.domain = none) : LivesIn r (getURL dockerHubViewModel) := by
  refine .inr ⟨r.repositoryName, ?_⟩
  rw [fullName, (length_of_none hdomain).1, List.append_assoc]
  rfl

theorem build_anonymous : buildImageFullURI { useRegistry := !false, registry := dockerHubViewModel, image := image } =
    image ++ tagOf image := by
  have hbuild : buildImageFullURI { useRegistry := !false, registry := dockerHubViewModel, image := image } =
      if ':' ∉ image then image ++ ':' :: latest else image := rfl
  rw [hbuild, tagOf]
  by_cases hcolon : ':' ∈ image
  · rw [if_pos hcolon, if_neg (not_not.mpr hcolon), List.append_nil]
  · rw [if_neg hcolon, if_pos hcolon]

theorem imageContainsURL_of_host {d : Domain} (h : r.domain = some d) :
    imageContainsURL r.text = true ↔ '.' ∈ d.text ∨ ':' ∈ d.text := by
  have hslash : '/' ∈ r.text := by
    rw [text_of_some h]
    exact List.mem_append_right _ List.mem_cons_self
  rw [imageContainsURL, text_of_some h, Text.cut_append_cons slash_notMem_text, ← text_of_some h,
    decide_eq_true hslash, Bool.true_and, Bool.or_eq_true, decide_eq_true_iff, decide_eq_true_iff]

/-- **The split and the join**, exactly: they are right if the registry that
is found first fits the reference, and if none is found, unless the
reference lives in `localhost`. -/
theorem splitsRight_iff (hr : r.Proper) (htypes : ∀ reg ∈ registries, reg.type ≠ .anonymous) :
    SplitsRight r registries ↔
      match registries.find? (isRegistryOf r.text none) with
      | some reg => Fits r reg
      | none => ∀ d ∈ r.domain, d.text ≠ localhost := by
  unfold SplitsRight retrievePorRegistryModelFromRepositoryWithRegistries
  cases hfind : registries.find? (isRegistryOf r.text none) with
  | some reg =>
    dsimp only
    rw [← fits_iff hr (htypes reg (List.mem_of_find?_eq_some hfind)) (List.find?_some hfind)]
    exact and_congr_right fun _ => ⟨fun h => h rfl, fun h _ => h⟩
  | none =>
    dsimp only
    cases hdomain : r.domain with
    | none =>
      refine iff_of_true ⟨?_, fun _ => livesIn_dockerHub hdomain⟩ fun d hd => nomatch hd
      cases huse : imageContainsURL r.text with
      | true => exact ⟨r, hr, rfl, rfl, rfl, rfl⟩
      | false =>
        rw [build_anonymous, text_of_none hdomain, tagOf_append_versionText colon_notMem_repositoryName,
          ← text_of_none hdomain]
        exact denotes_complete hr
    | some d =>
      have hcontains := imageContainsURL_of_host hdomain
      cases huse : imageContainsURL r.text with
      | true =>
        refine iff_of_true ⟨⟨r, hr, rfl, rfl, rfl, rfl⟩, fun h => nomatch h⟩ ?_
        rintro _ ⟨⟩ hlocal
        have hmark := hcontains.mp huse
        rw [hlocal] at hmark
        revert hmark
        decide
      | false =>
        have hlocal : d.text = localhost := by
          obtain hdot | hcolon | hlocal := hr.domain d hdomain
          · exact absurd (hcontains.mpr (.inl hdot)) (by rw [huse]; exact Bool.false_ne_true)
          · exact absurd (hcontains.mpr (.inr hcolon)) (by rw [huse]; exact Bool.false_ne_true)
          · exact hlocal
        refine iff_of_false (fun h => ?_) fun h => h d rfl hlocal
        -- `localhost` is not Docker Hub
        have hregistry : r.registry = localhost := by rw [registry, hdomain]; exact hlocal
        obtain ⟨a, ha, -⟩ := exists_of_livesIn (h.2 rfl)
        rw [hregistry] at ha
        exact absurd (List.cons.inj (ha : dockerHub = localhost ++ a)).1 (by decide)

/-! ## An image elsewhere -/

/-- `q.io/a/b`. -/
def quayReference : Reference where
  domain := some
    { host := ['q', '.', 'i', 'o']
      port := none
      host_mem := by
        have hfirst : ['q'] ∈ Image.domainComponent := domainComponent_of_lower (by decide) (lower_of_all (by decide))
        have hsecond : ['i', 'o'] ∈ Image.domainComponent :=
          domainComponent_of_lower (by decide) (lower_of_all (by decide))
        exact Language.append_mem_mul hfirst (Language.mem_kstar.mpr ⟨[['.', 'i', 'o']], rfl, fun word hword =>
          List.mem_singleton.mp hword ▸ Language.append_mem_mul (Set.mem_singleton ['.']) hsecond⟩)
      port_mem := Image.portNumber_of_none }
  path := [['a']]
  repository := ['b']
  tag := none
  digest := none
  path_mem := fun s hs => List.mem_singleton.mp hs ▸ mem_mul_kstar
    ⟨by decide, fun c hc => List.mem_singleton.mp hc ▸ .inl (by decide)⟩
  repository_mem := mem_mul_kstar ⟨by decide, fun c hc => List.mem_singleton.mp hc ▸ .inl (by decide)⟩
  tag_mem := Image.tag_of_none

theorem proper_quayReference : quayReference.Proper := by
  constructor
  · rintro d ⟨⟩
    exact .inl (by decide)
  · intro h
    cases h

/-- An account of Docker Hub. -/
def hubAccount (username : Text) : Registry :=
  { id := 1, type := .dockerhub, url := dockerHub, username := username, projectPath := [], useOrganisation := false,
    organisationName := [] }

theorem splitsRight_iff_quay : SplitsRight quayReference [hubAccount ['u']] ↔
    match [hubAccount ['u']].find? (isRegistryOf quayReference.text none) with
    | some reg => Fits quayReference reg
    | none => ∀ d ∈ quayReference.domain, d.text ≠ localhost :=
  splitsRight_iff proper_quayReference fun reg hreg => by
    rw [List.mem_singleton.mp hreg]
    decide

/-- **An image of Quay is looked for in Docker Hub**, as the name of the
account occurs in it. -/
theorem sends_quay_to_hub : ¬ ∀ (r : Reference) (registries : List Registry), r.Proper →
    (∀ reg ∈ registries, reg.type ≠ .anonymous) → SplitsRight r registries := by
  intro h
  have hright := h quayReference [hubAccount ['a']] proper_quayReference fun reg hreg => by
    rw [List.mem_singleton.mp hreg]
    decide
  have hfind : [hubAccount ['a']].find? (isRegistryOf quayReference.text none) = some (hubAccount ['a']) := by
    decide
  unfold SplitsRight retrievePorRegistryModelFromRepositoryWithRegistries at hright
  rw [hfind] at hright
  obtain ⟨a, ha, -⟩ := exists_of_livesIn (hright.2 rfl)
  exact absurd (List.cons.inj (ha : dockerHub = ['q', '.', 'i', 'o'] ++ a)).1 (by decide)

end Images

end Portainer
