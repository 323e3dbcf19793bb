import Portainer.Common.ImageReference
import Portainer.Common.Text
/-!
# Image references — what a reference denotes

A reference without a host lives in Docker Hub, and without a tag and a
digest it means the tag `latest`. Whether the first component of a text is a
host is seen by its characters, so a text denotes one image: `sameImage`.
-/

namespace Portainer

open scoped Computability

namespace Image

/-- `docker.io`. -/
def dockerHub : List Char := ['d', 'o', 'c', 'k', 'e', 'r', '.', 'i', 'o']

/-- `latest`. -/
def latest : List Char := ['l', 'a', 't', 'e', 's', 't']

/-- `localhost`. -/
def localhost : List Char := ['l', 'o', 'c', 'a', 'l', 'h', 'o', 's', 't']

/-- What the first component of a reference has to be to be a host. -/
def DomainLike (s : List Char) : Prop := '.' ∈ s ∨ ':' ∈ s ∨ s = localhost

instance : DecidablePred DomainLike := fun s => inferInstanceAs (Decidable ('.' ∈ s ∨ ':' ∈ s ∨ s = localhost))

/-- Host and port. -/
def Domain.text (d : Domain) : List Char := d.host ++ portText d.port

namespace Reference

/-- The first component is a host exactly where the reference has one. -/
structure Proper (r : Reference) : Prop where
  domain : ∀ d ∈ r.domain, DomainLike d.text
  path : r.domain = none → ∀ component ∈ r.path.head?, ¬ DomainLike component

/-- The registry: Docker Hub if the reference has no host. -/
def registry (r : Reference) : List Char :=
  match r.domain with
  | some d => d.text
  | none => dockerHub

/-- The components of the path, with slashes between them. -/
def repositoryName (r : Reference) : List Char := (r.path.map (· ++ ['/'])).flatten ++ r.repository

/-- The registry and the repository in it. -/
def fullName (r : Reference) : List Char := r.registry ++ '/' :: r.repositoryName

/-- The tag and the digest: `latest` if there is neither. -/
def version (r : Reference) : Option (List Char) × Option Digest :=
  match r.tag, r.digest with
  | none, none => (some latest, none)
  | tag, digest => (tag, digest)

/-- The same registry, repository and tag or digest. -/
def SameImage (q r : Reference) : Prop :=
  q.registry = r.registry ∧ q.repositoryName = r.repositoryName ∧ q.version = r.version

/-- What stands behind the name. -/
def versionText (r : Reference) : List Char := tagText r.tag ++ digestText r.digest

variable {q r : Reference} {d : Domain} {s t rest : List Char}

/-! ## The parts of a text -/

theorem slash_notMem_text : '/' ∉ d.text := by
  intro h
  obtain h | h := List.mem_append.mp h
  · exact (over_host d.host d.host_mem _ h).1 rfl
  · exact (portText_chars _ h).1 rfl

theorem slash_notMem_registry : '/' ∉ r.registry := by
  rw [registry]
  cases r.domain with
  | none => decide
  | some d => exact slash_notMem_text

theorem slash_notMem_versionText : '/' ∉ r.versionText := by
  intro h
  obtain h | h := List.mem_append.mp h
  · exact (tagText_chars _ h).1 rfl
  · cases hdigest : r.digest with
    | none => exact absurd (hdigest ▸ h) List.not_mem_nil
    | some digest =>
      rw [hdigest, digestText, List.mem_append, List.mem_cons, List.mem_cons] at h
      obtain (h | h) | h | h := h
      · exact absurd h (by decide)
      · exact (over_algorithm _ digest.algorithm_mem _ h).1 rfl
      · exact absurd h (by decide)
      · exact (over_digestHex _ digest.hex_mem _ h).1 rfl

theorem colon_notMem_repositoryName : ':' ∉ r.repositoryName := by
  intro h
  obtain h | h := List.mem_append.mp h
  · obtain ⟨component, hcomponent, h⟩ := List.mem_flatten.mp h
    obtain ⟨word, hword, rfl⟩ := List.mem_map.mp hcomponent
    obtain h | h := List.mem_append.mp h
    · exact (over_pathComponent word (r.path_mem word hword) _ h).2.1 rfl
    · exact absurd (List.mem_singleton.mp h) (by decide)
  · exact (over_pathComponent _ r.repository_mem _ h).2.1 rfl

theorem text_of_none (h : r.domain = none) : r.text = r.repositoryName ++ r.versionText := by
  rw [text, name, directory, h, domainText, List.nil_append, List.append_assoc]
  rfl

theorem text_of_some (h : r.domain = some d) :
    r.text = d.text ++ '/' :: (r.repositoryName ++ r.versionText) := by
  rw [text, name, directory, h, repositoryName, versionText, domainText, Domain.text]
  simp

/-- A reference with a host is the full name and the version. -/
theorem text_eq_fullName (h : r.domain.isSome) : r.text = r.fullName ++ r.versionText := by
  obtain ⟨d, hd⟩ := Option.isSome_iff_exists.mp h
  rw [text_of_some hd, fullName, registry, hd, List.append_assoc, List.cons_append]

/-- The first component of a text, if a slash follows it. -/
theorem exists_head_path (hdomain : r.domain = none) (hslash : '/' ∉ s) (h : r.text = s ++ '/' :: rest) :
    s ∈ r.path.head? := by
  have hrepository : '/' ∉ r.repository ++ r.versionText := by
    rw [List.mem_append, not_or]
    exact ⟨fun hmem => (over_pathComponent _ r.repository_mem _ hmem).1 rfl, slash_notMem_versionText⟩
  rw [text_of_none hdomain, repositoryName, List.append_assoc] at h
  cases hpath : r.path with
  | nil =>
    rw [hpath] at h
    refine absurd ?_ hrepository
    rw [show r.repository ++ r.versionText = s ++ '/' :: rest from h]
    exact List.mem_append_right s List.mem_cons_self
  | cons component path =>
    rw [hpath, List.map_cons, List.flatten_cons, List.append_assoc, List.append_assoc] at h
    have hcomponent : '/' ∉ component := fun hmem =>
      (over_pathComponent component (r.path_mem component (hpath ▸ List.mem_cons_self)) _ hmem).1 rfl
    obtain ⟨rfl, -⟩ := Text.eq_of_append_cons hcomponent hslash h
    rfl

/-- **What stands before the first slash** is the host, if it looks like
one. -/
theorem domain_of_text (hproper : r.Proper) (hslash : '/' ∉ s) (hlike : DomainLike s) (h : r.text = s ++ '/' :: rest) :
    ∃ d, r.domain = some d ∧ d.text = s ∧ rest = r.repositoryName ++ r.versionText := by
  cases hdomain : r.domain with
  | none => exact absurd hlike (hproper.path hdomain s (exists_head_path hdomain hslash h))
  | some d =>
    rw [text_of_some hdomain] at h
    obtain ⟨htext, hrest⟩ := Text.eq_of_append_cons slash_notMem_text hslash h
    exact ⟨d, rfl, htext, hrest.symm⟩

theorem repository_ne_nil : r.repository ≠ [] := by
  intro hnil
  obtain ⟨word, hword, rest, -, happend⟩ := Language.mem_mul.mp r.repository_mem
  rw [hnil] at happend
  exact hword.1 (List.append_eq_nil_iff.mp happend).1

/-- A name does not end in a slash. -/
theorem fullName_ne_append_slash : r.fullName ≠ s ++ ['/'] := by
  intro h
  have hlast : r.repository.getLast? = some '/' := by
    have hboth := congrArg List.getLast? h
    rwa [fullName, repositoryName, ← List.cons_append, ← List.append_assoc,
      List.getLast?_append_of_ne_nil _ repository_ne_nil, List.getLast?_concat] at hboth
  exact (over_pathComponent _ r.repository_mem _ (List.mem_of_mem_getLast? hlast)).1 rfl

/-- Nor does the text of a reference without a host begin with one. -/
theorem text_ne_slash_cons (hdomain : r.domain = none) : r.text ≠ '/' :: rest := by
  intro h
  have hhead : ([] : List Char) ∈ r.path.head? := exists_head_path hdomain List.not_mem_nil h
  obtain ⟨word, hword, rest, -, happend⟩ := Language.mem_mul.mp (r.path_mem [] (List.mem_of_mem_head? hhead))
  exact hword.1 (List.append_eq_nil_iff.mp happend).1

/-! ## The version -/

theorem versionText_eq_nil_iff : r.versionText = [] ↔ r.tag = none ∧ r.digest = none := by
  rw [versionText, List.append_eq_nil_iff]
  cases r.tag <;> cases r.digest <;> simp [tagText, digestText]

/-- A version that is there has a colon. -/
theorem colon_mem_versionText (h : r.versionText ≠ []) : ':' ∈ r.versionText := by
  rw [versionText] at h ⊢
  cases htag : r.tag with
  | some t => exact List.mem_append_left _ List.mem_cons_self
  | none =>
    cases hdigest : r.digest with
    | some d => exact List.mem_append_right _ (List.mem_append_right _ List.mem_cons_self)
    | none =>
      rw [htag, hdigest] at h
      exact absurd rfl h

/-- Two texts of one version are the same, or one of them has the tag
`latest` and the other nothing. -/
theorem versionText_cases (h : q.version = r.version) : q.versionText = r.versionText ∨
    (q.versionText = ':' :: latest ∧ r.versionText = []) ∨ q.versionText = [] ∧ r.versionText = ':' :: latest := by
  have hpair : ∀ p : Reference, p.versionText = tagText p.tag ++ digestText p.digest := fun _ => rfl
  have hversion : ∀ p : Reference, p.versionText ≠ [] → p.version = (p.tag, p.digest) := by
    intro p hp
    rw [Ne, versionText_eq_nil_iff] at hp
    rw [version]
    split
    · exact absurd ⟨by assumption, by assumption⟩ hp
    · rfl
  have hnil : ∀ p : Reference, p.versionText = [] → p.version = (some latest, none) := by
    intro p hp
    obtain ⟨htag, hdigest⟩ := versionText_eq_nil_iff.mp hp
    rw [version, htag, hdigest]
  by_cases hq : q.versionText = [] <;> by_cases hr : r.versionText = []
  · exact .inl (hq.trans hr.symm)
  · rw [hnil q hq, hversion r hr, Prod.mk.injEq] at h
    refine .inr (.inr ⟨hq, ?_⟩)
    rw [hpair, ← h.1, ← h.2]
    rfl
  · rw [hnil r hr, hversion q hq, Prod.mk.injEq] at h
    refine .inr (.inl ⟨?_, hr⟩)
    rw [hpair, h.1, h.2]
    rfl
  · rw [hversion q hq, hversion r hr, Prod.mk.injEq] at h
    exact .inl (by rw [hpair, hpair, h.1, h.2])

/-- A text that ends in the tag `latest` behind its only colon. -/
theorem versionText_of_append_latest (hs : ':' ∉ s) (ht : ':' ∉ t) (h : s ++ ':' :: latest = t ++ r.versionText) :
    s = t ∧ r.versionText = ':' :: latest := by
  have hsplit : r.versionText = tagText r.tag ++ digestText r.digest := rfl
  cases htag : r.tag with
  | some tag =>
    rw [hsplit, htag] at h ⊢
    have hcut : s ++ ':' :: latest = t ++ ':' :: (tag ++ digestText r.digest) := h
    obtain ⟨rfl, hrest⟩ := Text.eq_of_append_cons hs ht hcut
    exact ⟨rfl, congrArg (List.cons ':') hrest.symm⟩
  | none =>
    cases hdigest : r.digest with
    | some d =>
      -- the digits of a digest are more than the letters of the tag
      rw [hsplit, htag, hdigest, tagText, digestText, List.nil_append, ← List.append_assoc] at h
      have hfront : ':' ∉ t ++ '@' :: d.algorithm := by
        rw [List.mem_append, List.mem_cons, not_or, not_or]
        exact ⟨ht, by decide, fun hmem => (over_algorithm _ d.algorithm_mem _ hmem).2.1 rfl⟩
      obtain ⟨-, hrest⟩ := Text.eq_of_append_cons hs hfront h
      have hlength : 32 ≤ latest.length := hrest ▸ d.hex_mem.1
      exact absurd hlength (by decide)
    | none =>
      rw [hsplit, htag, hdigest, tagText, digestText, List.append_nil, List.append_nil] at h
      exact absurd (h ▸ List.mem_append_right s List.mem_cons_self) ht

/-! ## The complete reference -/

theorem lower_of_all (h : s.all (fun c => decide (Lower c)) = true) : ∀ c ∈ s, Lower c :=
  fun c hc => of_decide_eq_true (List.all_eq_true.mp h c hc)

theorem latest_mem : latest ∈ Image.tag := by
  have hlower : ∀ c ∈ latest, Lower c := lower_of_all (by decide)
  exact ⟨List.cons_ne_nil _ _, by decide, fun c hc => .inl (.inl (hlower c hc)), by decide, by decide⟩

theorem domainComponent_of_lower (hne : s ≠ []) (h : ∀ c ∈ s, Lower c) : s ∈ domainComponent := by
  have hhyphen : ∀ c ∈ s, c ≠ '-' := by
    rintro c hc rfl
    exact absurd (h _ hc) (by decide)
  refine ⟨hne, fun c hc => .inl (.inl (h c hc)), fun hhead => ?_, fun hlast => ?_⟩
  · exact hhyphen '-' (List.mem_of_mem_head? hhead) rfl
  · exact hhyphen '-' (List.mem_of_mem_getLast? hlast) rfl

/-- Docker Hub. -/
def hub : Domain where
  host := dockerHub
  port := none
  host_mem := by
    have hfirst : ['d', 'o', 'c', 'k', 'e', 'r'] ∈ domainComponent :=
      domainComponent_of_lower (by decide) (lower_of_all (by decide))
    have hsecond : ['i', 'o'] ∈ domainComponent := domainComponent_of_lower (by decide) (lower_of_all (by decide))
    have hdot : ['.', 'i', 'o'] ∈ ({['.']} : Language Char) * domainComponent :=
      Language.append_mem_mul (Set.mem_singleton ['.']) hsecond
    have hrest : ['.', 'i', 'o'] ∈ (({['.']} : Language Char) * domainComponent)∗ :=
      Language.mem_kstar.mpr ⟨[['.', 'i', 'o']], rfl, fun word hword => List.mem_singleton.mp hword ▸ hdot⟩
    exact Language.append_mem_mul hfirst hrest
  port_mem := portNumber_of_none

/-- The tag that is meant where there is none. -/
def withLatest (r : Reference) : Reference :=
  { r with tag := some latest, tag_mem := fun _ h => Option.some.inj h ▸ latest_mem }

/-- The host that is meant where there is none. -/
def onHub (r : Reference) : Reference := { r with domain := some hub }

/-- The tag `latest` written down where there is neither a tag nor a
digest. -/
def complete (r : Reference) : Reference := if r.versionText = [] then r.withLatest else r

theorem Proper.complete (h : r.Proper) : r.complete.Proper := by
  rw [Reference.complete]
  split
  · exact ⟨h.domain, h.path⟩
  · exact h

theorem domain_complete : r.complete.domain = r.domain := by
  rw [complete]
  split
  · rfl
  · rfl

theorem sameImage_complete : r.complete.SameImage r := by
  rw [complete]
  split
  · next hnil =>
    obtain ⟨htag, hdigest⟩ := versionText_eq_nil_iff.mp hnil
    refine ⟨rfl, rfl, ?_⟩
    rw [version, version, htag, hdigest]
    show (some latest, r.digest) = (some latest, none)
    rw [hdigest]
  · exact ⟨rfl, rfl, rfl⟩

theorem text_complete : r.complete.text = r.text ++ if r.versionText = [] then ':' :: latest else [] := by
  rw [complete]
  split
  · next hnil =>
    obtain ⟨htag, hdigest⟩ := versionText_eq_nil_iff.mp hnil
    rw [text, text, htag, hdigest]
    show r.name ++ ':' :: latest ++ digestText r.digest = r.name ++ [] ++ [] ++ ':' :: latest
    rw [hdigest, List.append_nil, List.append_nil]
    exact List.append_nil _
  · rw [List.append_nil]

theorem proper_onHub : r.onHub.Proper := by
  constructor
  · rintro d ⟨⟩
    exact .inl (by decide)
  · intro h
    nomatch h

theorem sameImage_onHub (h : r.domain = none) : r.onHub.SameImage r := by
  refine ⟨?_, rfl, rfl⟩
  rw [registry, registry, h]
  rfl

theorem text_onHub (h : r.domain = none) : r.onHub.text = dockerHub ++ '/' :: r.text := by
  rw [text_of_none h]
  exact text_of_some (r := r.onHub) (d := hub) rfl

theorem SameImage.trans {p : Reference} (h : p.SameImage q) (h' : q.SameImage r) : p.SameImage r :=
  ⟨h.1.trans h'.1, h.2.1.trans h'.2.1, h.2.2.trans h'.2.2⟩

end Reference

end Image

end Portainer
