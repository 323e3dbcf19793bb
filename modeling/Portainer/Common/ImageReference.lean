import Mathlib.Computability.Language
/-!
# Image references — Docker's reference grammar

`[host[:port]/]path[:tag][@digest]`, with the languages of the parts as the
grammar gives them. What keeps the parts apart is that none of them holds
the character that follows it: `Over` says over which characters a language
is, and has one rule for each operator of the grammar.

`text_injective` is the result: the name, the tag and the digest of a
reference can be read off its text.
-/

namespace Portainer

open scoped Computability

/-! ## The characters of a language -/

section Over

variable {α : Type} {P : α → Prop} {L M : Language α} {s : List α}

/-- Every word of the language is over the characters `P`. -/
def Over (P : α → Prop) (L : Language α) : Prop := ∀ s ∈ L, ∀ c ∈ s, P c

/-- The words of one character or more. -/
def oneOrMore (P : α → Prop) : Language α := fun s => s ≠ [] ∧ ∀ c ∈ s, P c

theorem over_oneOrMore : Over P (oneOrMore P) := fun _ hs => hs.2

theorem Over.mono {Q : α → Prop} (h : Over P L) (hPQ : ∀ c, P c → Q c) : Over Q L :=
  fun s hs c hc => hPQ c (h s hs c hc)

theorem Over.mul (hL : Over P L) (hM : Over P M) : Over P (L * M) := by
  intro s hs c hc
  obtain ⟨a, ha, b, hb, rfl⟩ := Language.mem_mul.mp hs
  obtain hc | hc := List.mem_append.mp hc
  · exact hL a ha c hc
  · exact hM b hb c hc

theorem Over.add (hL : Over P L) (hM : Over P M) : Over P (L + M) := by
  intro s hs c hc
  obtain hs | hs := (Language.mem_add L M s).mp hs
  · exact hL s hs c hc
  · exact hM s hs c hc

theorem Over.kstar (hL : Over P L) : Over P L∗ := by
  intro s hs c hc
  obtain ⟨words, rfl, hwords⟩ := Language.mem_kstar.mp hs
  obtain ⟨word, hword, hc⟩ := List.mem_flatten.mp hc
  exact hL word (hwords word hword) c hc

/-- A word followed by any number of others. -/
theorem mem_mul_kstar (h : s ∈ L) : s ∈ L * M∗ := by
  simpa using Language.append_mem_mul h (Language.nil_mem_kstar M)

end Over

/-- Two texts cut at the first of a separator: the pieces agree. -/
theorem append_inj_of_notMem {α : Type} {c : α} {a a' t t' : List α} (ha : c ∉ a) (ha' : c ∉ a')
    (ht : ∀ d ∈ t.head?, d = c) (ht' : ∀ d ∈ t'.head?, d = c) (h : a ++ t = a' ++ t') :
    a = a' ∧ t = t' := by
  induction a generalizing a' with
  | nil =>
    cases a' with
    | nil => exact ⟨rfl, h⟩
    | cons d a' =>
      have hd : d = c := ht d (by rw [← List.nil_append t, h]; rfl)
      exact absurd (hd ▸ List.mem_cons_self) ha'
  | cons d a ih =>
    cases a' with
    | nil =>
      have hd : d = c := ht' d (by rw [← List.nil_append t', ← h]; rfl)
      exact absurd (hd ▸ List.mem_cons_self) ha
    | cons d' a' =>
      obtain ⟨rfl, hrest⟩ := List.cons.inj h
      obtain ⟨rfl, rfl⟩ := ih (fun hc => ha (List.mem_cons_of_mem _ hc))
        (fun hc => ha' (List.mem_cons_of_mem _ hc)) hrest
      exact ⟨rfl, rfl⟩

/-! ## The grammar -/

namespace Image

/-- `[a-z]`. -/
def Lower (c : Char) : Prop := 'a' ≤ c ∧ c ≤ 'z'

/-- `[A-Z]`. -/
def Upper (c : Char) : Prop := 'A' ≤ c ∧ c ≤ 'Z'

/-- `[0-9]`. -/
def Digit (c : Char) : Prop := '0' ≤ c ∧ c ≤ '9'

instance : DecidablePred Lower := fun c => inferInstanceAs (Decidable ('a' ≤ c ∧ c ≤ 'z'))

instance : DecidablePred Upper := fun c => inferInstanceAs (Decidable ('A' ≤ c ∧ c ≤ 'Z'))

instance : DecidablePred Digit := fun c => inferInstanceAs (Decidable ('0' ≤ c ∧ c ≤ '9'))

/-- `[a-zA-Z0-9]`. -/
def Alphanumeric (c : Char) : Prop := Lower c ∨ Upper c ∨ Digit c

/-- `[0-9a-fA-F]`. -/
def HexDigit (c : Char) : Prop := Digit c ∨ ('a' ≤ c ∧ c ≤ 'f') ∨ ('A' ≤ c ∧ c ≤ 'F')

instance : DecidablePred HexDigit := fun c =>
  inferInstanceAs (Decidable (Digit c ∨ ('a' ≤ c ∧ c ≤ 'f') ∨ ('A' ≤ c ∧ c ≤ 'F')))

/-- `domain-component`: letters, digits and inner hyphens. -/
def domainComponent : Language Char := fun s =>
  s ≠ [] ∧ (∀ c ∈ s, Alphanumeric c ∨ c = '-') ∧ s.head? ≠ some '-' ∧ s.getLast? ≠ some '-'

/-- The host of a `domain`: components with dots between them. -/
def host : Language Char := domainComponent * (({['.']} : Language Char) * domainComponent)∗

/-- `port-number`. -/
def portNumber : Language Char := oneOrMore Digit

/-- `alpha-numeric`. -/
def alphaNumeric : Language Char := oneOrMore fun c => Lower c ∨ Digit c

/-- `separator`: `[_.]|__|[-]*`. -/
def separator : Language Char := {['_'], ['.'], ['_', '_']} + ({['-']} : Language Char)∗

/-- `path-component`. -/
def pathComponent : Language Char := alphaNumeric * (separator * alphaNumeric)∗

/-- `tag`: at most 128 characters, the first of them no dot or hyphen. -/
def tag : Language Char := fun s =>
  s ≠ [] ∧ s.length ≤ 128 ∧ (∀ c ∈ s, Alphanumeric c ∨ c = '_' ∨ c = '.' ∨ c = '-') ∧
    s.head? ≠ some '.' ∧ s.head? ≠ some '-'

/-- `digest-algorithm-component`. -/
def algorithmComponent : Language Char := fun s =>
  (∀ c ∈ s, Alphanumeric c) ∧ ∃ c ∈ s.head?, Lower c ∨ Upper c

/-- `digest-algorithm`: components with one of `+`, `.`, `-` and `_`
between them. -/
def algorithm : Language Char :=
  algorithmComponent * (({['+'], ['.'], ['-'], ['_']} : Language Char) * algorithmComponent)∗

/-- `digest-hex`: thirty-two digits or more. -/
def digestHex : Language Char := fun s => 32 ≤ s.length ∧ ∀ c ∈ s, HexDigit c

/-- The registry a reference names. -/
structure Domain where
  host : List Char
  port : Option (List Char)
  host_mem : host ∈ Image.host
  port_mem : ∀ p ∈ port, p ∈ portNumber

/-- The content a reference is pinned to. -/
structure Digest where
  algorithm : List Char
  hex : List Char
  algorithm_mem : algorithm ∈ Image.algorithm
  hex_mem : hex ∈ digestHex

/-- A reference. `path` are the components of the repository path but the
last, which is `repository`. -/
structure Reference where
  domain : Option Domain
  path : List (List Char)
  repository : List Char
  tag : Option (List Char)
  digest : Option Digest
  path_mem : ∀ s ∈ path, s ∈ pathComponent
  repository_mem : repository ∈ pathComponent
  tag_mem : ∀ t ∈ tag, t ∈ Image.tag

theorem portNumber_of_none : ∀ p ∈ (none : Option (List Char)), p ∈ portNumber := fun _ h => nomatch h

theorem tag_of_none : ∀ t ∈ (none : Option (List Char)), t ∈ Image.tag := fun _ h => nomatch h

/-! ## The text of a reference -/

def portText : Option (List Char) → List Char
  | some p => ':' :: p
  | none => []

def domainText : Option Domain → List Char
  | some d => d.host ++ portText d.port ++ ['/']
  | none => []

def tagText : Option (List Char) → List Char
  | some t => ':' :: t
  | none => []

def digestText : Option Digest → List Char
  | some d => '@' :: d.algorithm ++ ':' :: d.hex
  | none => []

namespace Reference

/-- Everything of a name up to its last component. -/
def directory (r : Reference) : List Char := domainText r.domain ++ (r.path.map (· ++ ['/'])).flatten

/-- The name: host, port and path. -/
def name (r : Reference) : List Char := r.directory ++ r.repository

def text (r : Reference) : List Char := r.name ++ tagText r.tag ++ digestText r.digest

end Reference

/-! ## What the parts do not hold -/

/-- None of the characters that end a part of a reference. -/
def Plain (c : Char) : Prop := c ≠ '/' ∧ c ≠ ':' ∧ c ≠ '@'

instance : DecidablePred Plain := fun c => inferInstanceAs (Decidable (c ≠ '/' ∧ c ≠ ':' ∧ c ≠ '@'))

theorem plain_of_lower {c : Char} (h : Lower c) : Plain c := by
  refine ⟨?_, ?_, ?_⟩ <;> rintro rfl <;> exact absurd h (by decide)

theorem plain_of_digit {c : Char} (h : Digit c) : Plain c := by
  refine ⟨?_, ?_, ?_⟩ <;> rintro rfl <;> exact absurd h (by decide)

theorem plain_of_alphanumeric {c : Char} (h : Alphanumeric c) : Plain c := by
  obtain h | h | h := h
  · exact plain_of_lower h
  · refine ⟨?_, ?_, ?_⟩ <;> rintro rfl <;> exact absurd h (by decide)
  · exact plain_of_digit h

theorem over_host : Over Plain host := by
  have hcomponent : Over Plain domainComponent := by
    intro s hs c hc
    obtain h | rfl := hs.2.1 c hc
    · exact plain_of_alphanumeric h
    · decide
  have hdot : Over Plain ({['.']} : Language Char) := by
    rintro s rfl c hc
    obtain rfl := List.mem_singleton.mp hc
    decide
  exact hcomponent.mul (hdot.mul hcomponent).kstar

theorem over_portNumber : Over Plain portNumber := over_oneOrMore.mono fun _ => plain_of_digit

theorem over_pathComponent : Over Plain pathComponent := by
  have halphanumeric : Over Plain alphaNumeric :=
    over_oneOrMore.mono fun _ hc => hc.elim plain_of_lower plain_of_digit
  have hhyphen : Over Plain ({['-']} : Language Char) := by
    rintro s rfl c hc
    obtain rfl := List.mem_singleton.mp hc
    decide
  have hfixed : Over Plain ({['_'], ['.'], ['_', '_']} : Language Char) := by
    rintro s (rfl | rfl | rfl) c hc
    · obtain rfl := List.mem_singleton.mp hc
      decide
    · obtain rfl := List.mem_singleton.mp hc
      decide
    · have hc : c = '_' := by simpa using hc
      rw [hc]
      decide
  exact halphanumeric.mul ((hfixed.add hhyphen.kstar).mul halphanumeric).kstar

theorem over_tag : Over Plain tag := by
  intro s hs c hc
  obtain h | rfl | rfl | rfl := hs.2.2.1 c hc
  · exact plain_of_alphanumeric h
  · decide
  · decide
  · decide

theorem over_algorithm : Over Plain algorithm := by
  have hcomponent : Over Plain algorithmComponent := fun s hs c hc => plain_of_alphanumeric (hs.1 c hc)
  have hfixed : Over Plain ({['+'], ['.'], ['-'], ['_']} : Language Char) := by
    rintro s (rfl | rfl | rfl | rfl) c hc <;> obtain rfl := List.mem_singleton.mp hc <;> decide
  exact hcomponent.mul (hfixed.mul hcomponent).kstar

theorem over_digestHex : Over Plain digestHex := by
  intro s hs c hc
  refine ⟨?_, ?_, ?_⟩ <;> rintro rfl <;> exact absurd (hs.2 _ hc) (by decide)

/-! ## Reading a reference -/

theorem portText_chars {d : Domain} : ∀ c ∈ portText d.port, c ≠ '/' ∧ c ≠ '@' := by
  intro c hc
  cases hport : d.port with
  | none =>
    rw [hport] at hc
    exact absurd hc List.not_mem_nil
  | some p =>
    rw [hport] at hc
    obtain rfl | hc := List.mem_cons.mp hc
    · decide
    · have h := over_portNumber p (d.port_mem p hport) c hc
      exact ⟨h.1, h.2.2⟩

theorem tagText_chars {r : Reference} : ∀ c ∈ tagText r.tag, c ≠ '/' ∧ c ≠ '@' := by
  intro c hc
  cases htag : r.tag with
  | none =>
    rw [htag] at hc
    exact absurd hc List.not_mem_nil
  | some t =>
    rw [htag] at hc
    obtain rfl | hc := List.mem_cons.mp hc
    · decide
    · have h := over_tag t (r.tag_mem t htag) c hc
      exact ⟨h.1, h.2.2⟩

theorem head_tagText {t : Option (List Char)} : ∀ c ∈ (tagText t).head?, c = ':' := by
  cases t with
  | none => simp [tagText]
  | some t => simp [tagText]

theorem head_digestText {d : Option Digest} : ∀ c ∈ (digestText d).head?, c = '@' := by
  cases d with
  | none => simp [digestText]
  | some d => simp [digestText]

namespace Reference

variable {r r' : Reference}

/-- A directory is empty or ends with a slash. -/
theorem getLast_directory : ∀ c ∈ r.directory.getLast?, c = '/' := by
  intro c hc
  obtain hpath | ⟨path, s, hpath⟩ := List.eq_nil_or_concat r.path
  · cases hdomain : r.domain with
    | none => simp [directory, hpath, hdomain, domainText] at hc
    | some d =>
      have : '/' = c := by simpa [directory, hpath, hdomain, domainText] using hc
      exact this.symm
  · have : '/' = c := by simpa [directory, hpath] using hc
    exact this.symm

theorem at_notMem_directory : '@' ∉ r.directory := by
  intro hc
  obtain hc | hc := List.mem_append.mp hc
  · cases hdomain : r.domain with
    | none => simp [hdomain, domainText] at hc
    | some d =>
      simp only [hdomain, domainText, List.mem_append, List.mem_singleton] at hc
      obtain (hc | hc) | hc := hc
      · exact (over_host _ d.host_mem _ hc).2.2 rfl
      · exact (portText_chars _ hc).2 rfl
      · exact absurd hc (by decide)
  · obtain ⟨_, hcomponent, hc⟩ := List.mem_flatten.mp hc
    obtain ⟨s, hs, rfl⟩ := List.mem_map.mp hcomponent
    obtain hc | hc := List.mem_append.mp hc
    · exact (over_pathComponent s (r.path_mem s hs) _ hc).2.2 rfl
    · exact absurd hc (by decide)

theorem at_notMem_name : '@' ∉ r.name := by
  intro hc
  obtain hc | hc := List.mem_append.mp hc
  · exact at_notMem_directory hc
  · exact (over_pathComponent _ r.repository_mem _ hc).2.2 rfl

theorem at_notMem_front : '@' ∉ r.name ++ tagText r.tag := by
  intro hc
  obtain hc | hc := List.mem_append.mp hc
  · exact at_notMem_name hc
  · exact (tagText_chars _ hc).2 rfl

/-- **A reference is read in one way**: its text determines its name, its
tag and its digest. -/
theorem text_injective (h : r.text = r'.text) :
    r.name = r'.name ∧ r.tag = r'.tag ∧ r.digest = r'.digest := by
  obtain ⟨hfront, hdigest⟩ := append_inj_of_notMem at_notMem_front at_notMem_front
    head_digestText head_digestText h
  -- the name ends behind the last slash, at the next colon
  have hlast : r.repository ++ tagText r.tag = r'.repository ++ tagText r'.tag ∧
      r.directory = r'.directory := by
    have hslash : ∀ q : Reference, '/' ∉ (q.repository ++ tagText q.tag).reverse := by
      intro q hc
      obtain hc | hc := List.mem_append.mp (List.mem_reverse.mp hc)
      · exact (over_pathComponent _ q.repository_mem _ hc).1 rfl
      · exact (tagText_chars _ hc).1 rfl
    have hreverse : (r.repository ++ tagText r.tag).reverse ++ r.directory.reverse =
        (r'.repository ++ tagText r'.tag).reverse ++ r'.directory.reverse := by
      rw [← List.reverse_append, ← List.reverse_append, ← List.append_assoc, ← List.append_assoc]
      exact congrArg List.reverse hfront
    obtain ⟨hrepository, hdirectory⟩ := append_inj_of_notMem (hslash r) (hslash r')
      (fun c hc => getLast_directory c (by rwa [List.head?_reverse] at hc))
      (fun c hc => getLast_directory c (by rwa [List.head?_reverse] at hc)) hreverse
    exact ⟨List.reverse_injective hrepository, List.reverse_injective hdirectory⟩
  have hcolon : ∀ q : Reference, ':' ∉ q.repository :=
    fun q hc => (over_pathComponent _ q.repository_mem _ hc).2.1 rfl
  obtain ⟨hrepository, htag⟩ := append_inj_of_notMem (hcolon r) (hcolon r')
    head_tagText head_tagText hlast.1
  refine ⟨by rw [name, name, hlast.2, hrepository], ?_, ?_⟩
  · cases h₁ : r.tag <;> cases h₂ : r'.tag <;> simp_all [tagText]
  · have halgorithm : ∀ d : Digest, ':' ∉ d.algorithm :=
      fun d hc => (over_algorithm _ d.algorithm_mem _ hc).2.1 rfl
    rcases h₁ : r.digest with _ | ⟨a, x, ha, hx⟩ <;> rcases h₂ : r'.digest with _ | ⟨a', x', ha', hx'⟩
    · rfl
    · simp [h₁, h₂, digestText] at hdigest
    · simp [h₁, h₂, digestText] at hdigest
    · rw [h₁, h₂] at hdigest
      obtain ⟨-, hdigest⟩ := List.cons.inj hdigest
      obtain ⟨rfl, hx⟩ := append_inj_of_notMem (halgorithm ⟨a, x, ha, hx⟩)
        (halgorithm ⟨a', x', ha', hx'⟩) (by simp) (by simp) hdigest
      obtain ⟨-, rfl⟩ := List.cons.inj hx
      rfl

end Reference

end Image

end Portainer
