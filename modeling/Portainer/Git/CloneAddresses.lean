import Portainer.Git.Azure
/-!
# Addresses for cloning — what is read from them

A repository of Azure DevOps has an address over HTTPS, of two shapes, and
one over SSH. In each a name is written percent-encoded, which the reader of
the SSH address does not undo. `cloneAddresses_iff`: the two agree exactly
where the SSH address writes the names as they are. The address of the
archive has no such flaw: `addresses_buildDownloadUrl`.
-/

namespace Portainer

namespace Git

open GoUrl
open Percent

variable {organisation project repository : Bytes}

/-! ## Writing the names -/

/-- A writing of a name as a segment of a path: percent-encoded as far as
need be, and maybe further. -/
structure Segment (name : Bytes) where
  text : List Char
  slash : byte '/' ∉ utf8 text
  decodes : unescape .path (utf8 text) = some name

/-- A writing for an address over HTTPS, in which more bytes have a
meaning. -/
structure UrlSegment (name : Bytes) extends Segment name where
  clean : ∀ c ∈ utf8 text, Clean c

/-- A name as a label of a host. -/
structure HostLabel (name : Bytes) where
  text : List Char
  writes : utf8 text = name
  plain : ∀ c ∈ name, isHostByte c = true

/-- The user of an address, with or without a password. -/
structure UserText where
  text : List Char
  user : Userinfo
  valid : parseUserinfo (utf8 text) = some user

/-- **The addresses of a repository over HTTPS.** -/
inductive HttpsAddress (organisation project repository : Bytes)
  | devAzure (user : Option UserText) (o : UrlSegment organisation) (p : UrlSegment project)
      (r : UrlSegment repository)
  | visualStudio (user : Option UserText) (o : HostLabel organisation) (p : UrlSegment project)
      (r : UrlSegment repository)

/-- The user in front of the host. -/
def userText (user : Option UserText) : List Char := user.elim [] fun user => user.text ++ ['@']

def HttpsAddress.text : HttpsAddress organisation project repository → String
  | .devAzure user o p r => String.ofList ("https://".toList ++ (userText user ++ "dev.azure.com".toList) ++
      ('/' :: o.text ++ '/' :: p.text ++ "/_git/".toList ++ r.text))
  | .visualStudio user o p r => String.ofList ("https://".toList ++
      (userText user ++ (o.text ++ ".visualstudio.com".toList)) ++ ('/' :: p.text ++ "/_git/".toList ++ r.text))

/-- **The addresses of a repository over SSH**, with the scheme or
without. -/
structure SshAddress (organisation project repository : Bytes) where
  scheme : Bool
  o : Segment organisation
  p : Segment project
  r : Segment repository

namespace SshAddress

variable (ssh : SshAddress organisation project repository)

def rest : List Char :=
  "git@ssh.dev.azure.com:v3".toList ++ '/' :: (ssh.o.text ++ '/' :: (ssh.p.text ++ '/' :: ssh.r.text))

def text : String := String.ofList (if ssh.scheme then "ssh://".toList ++ ssh.rest else ssh.rest)

/-- The names are written as they are. -/
structure Plain : Prop where
  o : utf8 ssh.o.text = organisation
  p : utf8 ssh.p.text = project
  r : utf8 ssh.r.text = repository

end SshAddress

/-- What the options name. -/
def AzureOptions.Names (opt : AzureOptions) (organisation project repository : Bytes) : Prop :=
  opt.organisation = organisation ∧ opt.project = project ∧ opt.repository = repository

/-! ## Reading the address of an archive -/

/-- The reference that a version of a type stands for. -/
inductive Designates : Bytes → Bytes → Bytes → Prop
  | branch (version : Bytes) : Designates (lit "branch") version (branchPrefix ++ version)
  | tag (version : Bytes) : Designates (lit "tag") version (tagPrefix ++ version)
  | commit (version : Bytes) : Designates (lit "commit") version version

/-- **The address is that of the archive** of the repository at the
reference: so it reads, segment by segment and value by value, when it is
decoded. -/
def Addresses (url organisation project repository referenceName : Bytes) : Prop :=
  ∃ u, parse url = some u ∧ u.host = azureDevOpsHost ∧
    ((u.path.escaped .path).splitOn (byte '/')).map (unescape .pathSegment) =
      [some [], some organisation, some project, some (lit "_apis"), some (lit "git"),
        some (lit "repositories"), some repository, some (lit "items")] ∧
    Carries (parseQuery u.rawQuery) (lit "$format") (lit "zip") ∧
    ∃ type version, Carries (parseQuery u.rawQuery) (lit "versionDescriptor.versionType") type ∧
      Carries (parseQuery u.rawQuery) (lit "versionDescriptor.version") version ∧
      Designates type version referenceName

/-! ## The literals of an address -/

/-- The two delimiters of an address: each is one byte, and the slash stands
for itself wherever it is written. -/
theorem delimiters : String.utf8EncodeChar '/' = [byte '/'] ∧ utf8 ['@'] = [byte '@'] ∧
    (Clean (byte '@') ∧ byte '@' ≠ byte '/') ∧ byte '/' ∈ lit "/@:[%" ∧ byte '/' ≠ byte '%' ∧
    plainByte .path (byte '/') = some (byte '/') ∧ Clean (byte '/') ∧
    validEncoded [byte '/'] .path = true := by
  refine ⟨?_, ?_, ⟨?_, ?_⟩, ?_, ?_, ?_, ?_, ?_⟩ <;> decide_cbv

/-- The hosts of the service: neither is the end of the other. -/
theorem hosts : (∀ c ∈ azureDevOpsHost, isHostByte c = true) ∧
    (∀ c ∈ azureDevOpsHost, Clean c ∧ c ≠ byte '/') ∧ azureDevOpsHost ≠ [] ∧
    (∀ c ∈ visualStudioHostSuffix, isHostByte c = true) ∧ ¬ visualStudioHostSuffix <:+ azureDevOpsHost := by
  refine ⟨forall_mem_of_all ?_, forall_mem_of_all ?_, ?_, forall_mem_of_all ?_, ?_⟩ <;> decide_cbv

/-- The literal segments: none has a byte that would be escaped, and each is
read as what it is. -/
theorem literalSegments : ∀ segment ∈ [lit "_git", lit "_apis", lit "git", lit "repositories", lit "items"],
    (∀ c ∈ segment, Clean c ∧ c ≠ byte '/' ∧ validEncoded [c] .path = true) ∧
    unescape .path segment = some segment ∧ unescape .pathSegment segment = some segment := by
  simp only [List.forall_mem_cons]
  refine ⟨⟨forall_mem_of_all ?_, ?_, ?_⟩, ⟨forall_mem_of_all ?_, ?_, ?_⟩, ⟨forall_mem_of_all ?_, ?_, ?_⟩,
    ⟨forall_mem_of_all ?_, ?_, ?_⟩, ⟨forall_mem_of_all ?_, ?_, ?_⟩, fun _ h => nomatch h⟩ <;> decide_cbv

/-- The host in front of an SSH address. -/
theorem sshHost : '/' ∉ "git@ssh.dev.azure.com:v3".toList ∧ "ssh://".toList.length = 6 ∧
    "git@ssh".toList <+: "git@ssh.dev.azure.com:v3".toList := by
  decide_cbv

/-- The first characters of the schemes. -/
theorem schemes : (∃ t, "https://".toList = 'h' :: t) ∧ (∃ t, "http://".toList = 'h' :: t) ∧
    (∃ t, "git@ssh".toList = 'g' :: t) ∧ ∃ t, "ssh://".toList = 's' :: t := by
  obtain ⟨hhttps, hhttp, hgit, hssh⟩ : "https://".toList = 'h' :: "ttps://".toList ∧
      "http://".toList = 'h' :: "ttp://".toList ∧ "git@ssh".toList = 'g' :: "it@ssh".toList ∧
      "ssh://".toList = 's' :: "sh://".toList := by decide_cbv
  exact ⟨⟨_, hhttps⟩, ⟨_, hhttp⟩, ⟨_, hgit⟩, _, hssh⟩

/-! ## Addresses over SSH -/

section Split

variable {α : Type} [DecidableEq α] {sep : α} {s t : List α}

theorem splitOn_of_notMem (h : sep ∉ s) : s.splitOn sep = [s] := by
  rw [List.splitOn_eq_splitOnP]
  refine List.splitOnP_eq_singleton fun c hc => ?_
  rw [beq_eq_false_iff_ne]
  exact fun heq => h (heq ▸ hc)

theorem splitOn_append_cons (h : sep ∉ s) : (s ++ sep :: t).splitOn sep = s :: t.splitOn sep := by
  rw [List.splitOn_append_cons_self, splitOn_of_notMem h, List.singleton_append]

end Split

/-- The byte of a character is found among the bytes of the text. -/
theorem notMem_of_utf8 {c : Char} {cs : List Char} (hc : String.utf8EncodeChar c = [byte c])
    (h : byte c ∉ utf8 cs) : c ∉ cs := by
  intro hmem
  refine h (List.mem_flatMap.mpr ⟨c, hmem, ?_⟩)
  rw [hc]
  exact List.mem_singleton.mpr rfl

theorem Segment.notMem_text {name : Bytes} (s : Segment name) : '/' ∉ s.text :=
  notMem_of_utf8 delimiters.1 s.slash

theorem parseSshUrl_rest (ssh : SshAddress organisation project repository) : parseSshUrl ssh.rest =
    some {
      organisation := utf8 ssh.o.text
      project := utf8 ssh.p.text
      repository := utf8 ssh.r.text } := by
  have hhost : '/' ∉ "git@ssh.dev.azure.com:v3".toList := sshHost.1
  unfold parseSshUrl SshAddress.rest
  rw [splitOn_append_cons hhost, splitOn_append_cons ssh.o.notMem_text, splitOn_append_cons ssh.p.notMem_text,
    splitOn_of_notMem ssh.r.notMem_text]

theorem not_prefix_of_head {c d : Char} {s t l : List Char} (hd : d :: t <+: l) (hne : c ≠ d) :
    ¬ c :: s <+: l := by
  obtain ⟨rest, rfl⟩ := hd
  intro hprefixed
  rw [List.cons_append, List.cons_prefix_cons] at hprefixed
  exact hne hprefixed.1

theorem parseUrl_git {runes : List Char} (h : "git@ssh".toList <+: runes) :
    parseUrl (String.ofList runes) = parseSshUrl runes := by
  obtain ⟨⟨t₁, hhttps⟩, ⟨t₂, hhttp⟩, ⟨t₃, hgit⟩, -⟩ := schemes
  have hhead : 'g' :: t₃ <+: runes := hgit ▸ h
  unfold parseUrl
  rw [String.toList_ofList, hhttps, hhttp, if_neg, if_pos h]
  exact not_or.mpr ⟨not_prefix_of_head hhead (by decide), not_prefix_of_head hhead (by decide)⟩

theorem parseUrl_scheme {runes : List Char} :
    parseUrl (String.ofList ("ssh://".toList ++ runes)) = parseSshUrl runes := by
  have hlength : "ssh://".toList.length = 6 := sshHost.2.1
  obtain ⟨⟨t₁, hhttps⟩, ⟨t₂, hhttp⟩, ⟨t₃, hgit⟩, t₄, hssh⟩ := schemes
  have hhead : 's' :: t₄ <+: "ssh://".toList ++ runes := hssh ▸ List.prefix_append _ _
  unfold parseUrl
  rw [String.toList_ofList, hhttps, hhttp, hgit, if_neg, if_neg (not_prefix_of_head hhead (by decide)),
    if_pos (List.prefix_append _ _), List.drop_left' hlength]
  exact not_or.mpr ⟨not_prefix_of_head hhead (by decide), not_prefix_of_head hhead (by decide)⟩

theorem parseUrl_https {runes : List Char} :
    parseUrl (String.ofList ("https://".toList ++ runes)) =
      parseHttpUrl (lit "https://" ++ utf8 runes) := by
  unfold parseUrl
  rw [String.toList_ofList, if_pos (.inl (List.prefix_append _ _)), utf8_append]
  rfl

/-- **The reader of the SSH address** takes the names as they are
written. -/
theorem parseUrl_ssh (ssh : SshAddress organisation project repository) : parseUrl ssh.text =
    some {
      organisation := utf8 ssh.o.text
      project := utf8 ssh.p.text
      repository := utf8 ssh.r.text } := by
  have hgit : "git@ssh".toList <+: "git@ssh.dev.azure.com:v3".toList := sshHost.2.2
  have hrest : "git@ssh".toList <+: ssh.rest := hgit.trans (List.prefix_append _ _)
  unfold SshAddress.text
  cases ssh.scheme with
  | false => rw [if_neg Bool.false_ne_true, parseUrl_git hrest, parseSshUrl_rest]
  | true => rw [if_pos rfl, parseUrl_scheme, parseSshUrl_rest]

/-! ## Addresses over HTTPS -/

/-- The path that the names make up. -/
theorem set_path {p text : Bytes} (h : unescape .path p = some text) :
    ∃ part, Part.set .path p = some part ∧ part.text = text := by
  rw [Part.set, h]
  exact ⟨_, rfl, rfl⟩

theorem parseAuthority_userText {host : Bytes} (h : ∀ c ∈ host, isHostByte c = true)
    (user : Option UserText) : parseAuthority (utf8 (userText user) ++ host) =
      some (user.map (·.user), host) := by
  cases user with
  | none => exact parseAuthority_host h
  | some user =>
    have hat : utf8 ['@'] = [byte '@'] := delimiters.2.1
    have htext : utf8 (userText (some user)) ++ host = utf8 user.text ++ byte '@' :: host := by
      rw [userText, Option.elim_some, utf8_append, hat, List.append_assoc, List.singleton_append]
    rw [htext]
    exact parseAuthority_user h user.valid

theorem forall_mem_userText {host : Bytes} (h : ∀ c ∈ host, isHostByte c = true) (user : Option UserText) :
    ∀ c ∈ utf8 (userText user) ++ host, Clean c ∧ c ≠ byte '/' := by
  obtain ⟨-, hat, hplain, hslash, -⟩ := delimiters
  have hhost : ∀ c ∈ host, Clean c ∧ c ≠ byte '/' := by
    intro c hc
    obtain ⟨hclean, hsep, -⟩ := isHostByte_spec c (h c hc)
    refine ⟨hclean, ?_⟩
    rintro rfl
    exact hsep hslash
  intro c hc
  obtain hc | hc := List.mem_append.mp hc
  · cases user with
    | none => nomatch hc
    | some user =>
      rw [userText, Option.elim_some, utf8_append, hat] at hc
      obtain hc | hc := List.mem_append.mp hc
      · exact forall_mem_userinfo user.valid c hc
      · rw [List.mem_singleton.mp hc]
        exact hplain
  · exact hhost c hc

/-- The path of an address, one segment after the other. -/
def joined (segments : List Bytes) : Bytes := segments.flatMap fun segment => byte '/' :: segment

theorem splitOn_joined {segments : List Bytes} (h : ∀ segment ∈ segments, byte '/' ∉ segment) :
    (joined segments).splitOn (byte '/') = [] :: segments := by
  have hgeneral : ∀ first : Bytes, byte '/' ∉ first →
      (first ++ joined segments).splitOn (byte '/') = first :: segments := by
    induction segments with
    | nil =>
      intro first hfirst
      rw [joined, List.flatMap_nil, List.append_nil, splitOn_of_notMem hfirst]
    | cons segment segments ih =>
      intro first hfirst
      have hrest := ih (fun s hs => h s (List.mem_cons_of_mem _ hs)) segment (h segment List.mem_cons_self)
      rw [joined, List.flatMap_cons, List.cons_append, splitOn_append_cons hfirst]
      exact congrArg _ hrest
  exact hgeneral [] List.not_mem_nil

/-- A path is unescaped segment by segment. -/
theorem unescape_joined {segments names : List Bytes}
    (h : List.Forall₂ (fun segment name => unescape .path segment = some name) segments names) :
    unescape .path (joined segments) = some (joined names) := by
  induction h with
  | nil => rfl
  | cons hname _ ih =>
    obtain ⟨-, -, -, -, hslash, hplain, -⟩ := delimiters
    rw [joined, List.flatMap_cons, List.cons_append, unescape_cons hslash, hplain, Option.bind_some,
      unescape_append hname]
    have ih := ih
    unfold joined at ih
    rw [ih]
    rfl

/-- **An address of segments** is parsed into what the segments decode
to. -/
theorem parse_joined {host : Bytes} {segments names : List Bytes} (hhost : ∀ c ∈ host, isHostByte c = true)
    (user : Option UserText) (hnames : List.Forall₂ (fun s n => unescape .path s = some n) segments names)
    (hclean : ∀ segment ∈ segments, ∀ c ∈ segment, Clean c) (hne : segments ≠ []) :
    ∃ part : Part, part.text = joined names ∧
      parse (lit "https://" ++ ((utf8 (userText user) ++ host) ++ joined segments)) = some
        { scheme := lit "https", user := user.map (·.user), host := host, path := part } := by
  obtain ⟨part, hpart, htext⟩ := set_path (unescape_joined hnames)
  have hslash : Clean (byte '/') := delimiters.2.2.2.2.2.2.1
  have hpath : ∀ c ∈ joined segments, Clean c := by
    intro c hc
    obtain ⟨segment, hsegment, hc⟩ := List.mem_flatMap.mp hc
    obtain rfl | hc := List.mem_cons.mp hc
    · exact hslash
    · exact hclean segment hsegment c hc
  have hrooted : (joined segments).head? = some (byte '/') := by
    cases segments with
    | nil => exact absurd rfl hne
    | cons segment segments => rfl
  have hparse : parse (address (utf8 (userText user) ++ host) (joined segments) []) = some
      { scheme := lit "https", user := user.map (·.user), host := host, path := part } :=
    parse_eq (forall_mem_userText hhost user) hpath (fun c hc => nomatch hc) hrooted
      (parseAuthority_userText hhost user) hpart
  rw [address, if_pos rfl, List.append_nil, List.append_assoc] at hparse
  exact ⟨part, htext, hparse⟩

theorem utf8_slash (cs : List Char) : utf8 ('/' :: cs) = byte '/' :: utf8 cs := by
  rw [utf8, List.flatMap_cons, delimiters.1]
  rfl

theorem utf8_git (cs : List Char) : utf8 ("/_git/".toList ++ cs) = joined [lit "_git", utf8 cs] := by
  have hgit : utf8 "/_git/".toList = byte '/' :: (lit "_git" ++ [byte '/']) := by decide_cbv
  rw [utf8_append]
  refine (congrArg (· ++ utf8 cs) hgit).trans ?_
  simp [joined]

theorem parseUrl_address {user : Option UserText} {hostText path : List Char} {segments : List Bytes}
    (hpath : utf8 path = joined segments) :
    parseUrl (String.ofList ("https://".toList ++ (userText user ++ hostText) ++ path)) =
      parseHttpUrl (lit "https://" ++ ((utf8 (userText user) ++ utf8 hostText) ++ joined segments)) :=
  calc parseUrl (String.ofList ("https://".toList ++ (userText user ++ hostText) ++ path))
      = parseUrl (String.ofList ("https://".toList ++ ((userText user ++ hostText) ++ path))) :=
        congrArg (fun l => parseUrl (String.ofList l)) (List.append_assoc _ _ _)
    _ = parseHttpUrl (lit "https://" ++ utf8 ((userText user ++ hostText) ++ path)) := parseUrl_https
    _ = parseHttpUrl (lit "https://" ++ ((utf8 (userText user) ++ utf8 hostText) ++ joined segments)) := by
      rw [utf8_append, hpath, utf8_append]

/-- The segment that marks a repository. -/
theorem git_segment : unescape .path (lit "_git") = some (lit "_git") ∧ byte '/' ∉ lit "_git" ∧
    ∀ c ∈ lit "_git", Clean c := by
  obtain ⟨hbytes, hread, -⟩ := literalSegments (lit "_git") List.mem_cons_self
  exact ⟨hread, fun hmem => (hbytes _ hmem).2.1 rfl, fun c hc => (hbytes c hc).1⟩

theorem parseUrl_devAzure (user : Option UserText) (o : UrlSegment organisation) (p : UrlSegment project)
    (r : UrlSegment repository) (ho : byte '/' ∉ organisation) (hp : byte '/' ∉ project)
    (hr : byte '/' ∉ repository) :
    ∃ opt, parseUrl (HttpsAddress.devAzure user o p r).text = some opt ∧
      opt.Names organisation project repository := by
  obtain ⟨hgit, hslash, hclean⟩ := git_segment
  have hhost : ∀ c ∈ azureDevOpsHost, isHostByte c = true := hosts.1
  have hpath : utf8 ('/' :: o.text ++ '/' :: p.text ++ "/_git/".toList ++ r.text) =
      joined [utf8 o.text, utf8 p.text, lit "_git", utf8 r.text] := by
    rw [List.append_assoc _ _ r.text, utf8_append, utf8_git, utf8_append, utf8_slash, utf8_slash]
    simp [joined]
  have hsegments : ∀ segment ∈ [utf8 o.text, utf8 p.text, lit "_git", utf8 r.text], ∀ c ∈ segment, Clean c := by
    simp only [List.forall_mem_cons]
    exact ⟨o.clean, p.clean, hclean, r.clean, fun _ h => nomatch h⟩
  have hnames : ∀ name ∈ [organisation, project, lit "_git", repository], byte '/' ∉ name := by
    simp only [List.forall_mem_cons]
    exact ⟨ho, hp, hslash, hr, fun _ h => nomatch h⟩
  obtain ⟨part, htext, hparse⟩ := parse_joined hhost user
    (.cons o.decodes (.cons p.decodes (.cons hgit (.cons r.decodes .nil)))) hsegments (List.cons_ne_nil _ _)
  have hsplit : part.text.splitOn (byte '/') = [[], organisation, project, lit "_git", repository] := by
    rw [htext]
    exact splitOn_joined hnames
  have hraw : parseUrl (HttpsAddress.devAzure user o p r).text = parseHttpUrl (lit "https://" ++
      ((utf8 (userText user) ++ azureDevOpsHost) ++ joined [utf8 o.text, utf8 p.text, lit "_git", utf8 r.text])) :=
    parseUrl_address hpath
  rw [hraw, parseHttpUrl, hparse]
  simp only [bind, Option.bind_some, hsplit, if_true]
  exact ⟨_, rfl, rfl, rfl, rfl⟩

theorem parseUrl_visualStudio (user : Option UserText) (o : HostLabel organisation) (p : UrlSegment project)
    (r : UrlSegment repository) (hp : byte '/' ∉ project) (hr : byte '/' ∉ repository) :
    ∃ opt, parseUrl (HttpsAddress.visualStudio user o p r).text = some opt ∧
      opt.Names organisation project repository := by
  obtain ⟨hgit, hslash, hclean⟩ := git_segment
  obtain ⟨-, -, -, hsuffix, hend⟩ := hosts
  have hhost : ∀ c ∈ organisation ++ visualStudioHostSuffix, isHostByte c = true := by
    intro c hc
    obtain hc | hc := List.mem_append.mp hc
    · exact o.plain c hc
    · exact hsuffix c hc
  have hpath : utf8 ('/' :: p.text ++ "/_git/".toList ++ r.text) =
      joined [utf8 p.text, lit "_git", utf8 r.text] := by
    rw [List.append_assoc _ _ r.text, utf8_append, utf8_git, utf8_slash]
    simp [joined]
  have hsegments : ∀ segment ∈ [utf8 p.text, lit "_git", utf8 r.text], ∀ c ∈ segment, Clean c := by
    simp only [List.forall_mem_cons]
    exact ⟨p.clean, hclean, r.clean, fun _ h => nomatch h⟩
  have hnames : ∀ name ∈ [project, lit "_git", repository], byte '/' ∉ name := by
    simp only [List.forall_mem_cons]
    exact ⟨hp, hslash, hr, fun _ h => nomatch h⟩
  obtain ⟨part, htext, hparse⟩ := parse_joined hhost user
    (.cons p.decodes (.cons hgit (.cons r.decodes .nil))) hsegments (List.cons_ne_nil _ _)
  have hsplit : part.text.splitOn (byte '/') = [[], project, lit "_git", repository] := by
    rw [htext]
    exact splitOn_joined hnames
  have hraw : parseUrl (HttpsAddress.visualStudio user o p r).text = parseHttpUrl (lit "https://" ++
      ((utf8 (userText user) ++ (organisation ++ visualStudioHostSuffix)) ++
        joined [utf8 p.text, lit "_git", utf8 r.text])) := by
    have haddress : parseUrl (HttpsAddress.visualStudio user o p r).text = parseHttpUrl (lit "https://" ++
        ((utf8 (userText user) ++ utf8 (o.text ++ ".visualstudio.com".toList)) ++
          joined [utf8 p.text, lit "_git", utf8 r.text])) := parseUrl_address hpath
    rw [haddress, utf8_append o.text, o.writes]
    rfl
  -- no organisation makes the host that of the other shape
  have hother : organisation ++ visualStudioHostSuffix ≠ azureDevOpsHost := by
    intro heq
    exact hend ⟨organisation, heq⟩
  have hlength : (organisation ++ visualStudioHostSuffix).length - visualStudioHostSuffix.length =
      organisation.length := by
    rw [List.length_append]
    omega
  rw [hraw, parseHttpUrl, hparse]
  simp only [bind, Option.bind_some, hsplit]
  rw [if_neg hother, if_pos (List.suffix_append _ _), hlength]
  exact ⟨_, rfl, List.take_left, rfl, rfl⟩

/-- **The reader of the HTTPS address** gives the names that have no
slash. -/
theorem parseUrl_httpsAddress (https : HttpsAddress organisation project repository)
    (ho : byte '/' ∉ organisation) (hp : byte '/' ∉ project) (hr : byte '/' ∉ repository) :
    ∃ opt, parseUrl https.text = some opt ∧ opt.Names organisation project repository := by
  cases https with
  | devAzure user o p r => exact parseUrl_devAzure user o p r ho hp hr
  | visualStudio user o p r => exact parseUrl_visualStudio user o p r hp hr

/-! ## The address of the archive -/

theorem prefix_append_drop {p name : Bytes} (h : p <+: name) : p ++ name.drop p.length = name := by
  obtain ⟨rest, rfl⟩ := h
  rw [List.drop_left]

/-- The type and the version stand for the reference. -/
theorem designates (referenceName : Bytes) :
    Designates (getVersionType referenceName) (formatReferenceName referenceName) referenceName := by
  unfold getVersionType formatReferenceName
  by_cases hbranch : branchPrefix <+: referenceName
  · rw [if_pos hbranch, if_pos hbranch]
    have hdesignates := Designates.branch (referenceName.drop branchPrefix.length)
    rwa [prefix_append_drop hbranch] at hdesignates
  · rw [if_neg hbranch, if_neg hbranch]
    by_cases htag : tagPrefix <+: referenceName
    · rw [if_pos htag, if_pos htag]
      have hdesignates := Designates.tag (referenceName.drop tagPrefix.length)
      rwa [prefix_append_drop htag] at hdesignates
    · rw [if_neg htag, if_neg htag]
      exact .commit referenceName

/-- The query of the address, before it is encoded. -/
def downloadQuery (referenceName : Bytes) : Values :=
  let q : Values := []
  let q := q.set (lit "scopePath") (lit "/")
  let q := q.set (lit "download") (lit "true")
  let q := q.set (lit "versionDescriptor.versionType") (getVersionType referenceName)
  let q := q.set (lit "versionDescriptor.version") (formatReferenceName referenceName)
  let q := q.set (lit "$format") (lit "zip")
  let q := q.set (lit "recursionLevel") (lit "full")
  q.set (lit "api-version") (lit "6.0")

theorem carries_downloadQuery (referenceName : Bytes) :
    Carries (downloadQuery referenceName) (lit "$format") (lit "zip") ∧
    Carries (downloadQuery referenceName) (lit "versionDescriptor.versionType")
      (getVersionType referenceName) ∧
    Carries (downloadQuery referenceName) (lit "versionDescriptor.version")
      (formatReferenceName referenceName) := by
  -- the names set later are others
  obtain ⟨hformat, htype, hversion⟩ :
      (lit "$format" ≠ lit "recursionLevel" ∧ lit "$format" ≠ lit "api-version") ∧
      (lit "versionDescriptor.versionType" ≠ lit "versionDescriptor.version" ∧
        lit "versionDescriptor.versionType" ≠ lit "$format" ∧
        lit "versionDescriptor.versionType" ≠ lit "recursionLevel" ∧
        lit "versionDescriptor.versionType" ≠ lit "api-version") ∧
      lit "versionDescriptor.version" ≠ lit "$format" ∧
      lit "versionDescriptor.version" ≠ lit "recursionLevel" ∧
      lit "versionDescriptor.version" ≠ lit "api-version" := by decide_cbv
  refine ⟨?_, ?_, ?_⟩
  · exact (carries_set.set hformat.1).set hformat.2
  · exact (((carries_set.set htype.1).set htype.2.1).set htype.2.2.1).set htype.2.2.2
  · exact ((carries_set.set hversion.1).set hversion.2.1).set hversion.2.2

/-- The segments of the address, as they are written. -/
def downloadSegments (config : AzureOptions) : List Bytes :=
  [escape .pathSegment config.organisation, escape .pathSegment config.project, lit "_apis", lit "git",
    lit "repositories", escape .pathSegment config.repository, lit "items"]

/-- An escaped segment has no byte that ends it, and none that would be
escaped in a path. -/
theorem forall_mem_escape_segment {name : Bytes} : ∀ c ∈ escape .pathSegment name,
    Clean c ∧ c ≠ byte '/' ∧ validEncoded [c] .path = true :=
  forall_mem_escape (by decide +kernel)

theorem forall_mem_downloadSegments {config : AzureOptions} : ∀ segment ∈ downloadSegments config,
    ∀ c ∈ segment, Clean c ∧ c ≠ byte '/' ∧ validEncoded [c] .path = true := by
  have hliterals := literalSegments
  simp only [List.forall_mem_cons] at hliterals
  obtain ⟨-, hapis, hgit, hrepositories, hitems, -⟩ := hliterals
  simp only [downloadSegments, List.forall_mem_cons]
  exact ⟨forall_mem_escape_segment, forall_mem_escape_segment, hapis.1, hgit.1, hrepositories.1,
    forall_mem_escape_segment, hitems.1, fun _ h => nomatch h⟩

/-- Every segment is read back as what it stands for. -/
theorem unescape_downloadSegments {config : AzureOptions} {mode : Mode}
    (hmode : ∀ s, unescape mode (escape .pathSegment s) = some s)
    (hliterals : ∀ s ∈ [lit "_git", lit "_apis", lit "git", lit "repositories", lit "items"],
      unescape mode s = some s) :
    List.Forall₂ (fun s n => unescape mode s = some n) (downloadSegments config)
      [config.organisation, config.project, lit "_apis", lit "git", lit "repositories", config.repository,
        lit "items"] := by
  simp only [List.forall_mem_cons] at hliterals
  obtain ⟨-, hapis, hgit, hrepositories, hitems, -⟩ := hliterals
  exact .cons (hmode _) (.cons (hmode _) (.cons hapis (.cons hgit (.cons hrepositories
    (.cons (hmode _) (.cons hitems .nil))))))

theorem joined_downloadSegments (config : AzureOptions) :
    baseUrl ++ lit "/" ++ escape .pathSegment config.organisation ++ lit "/" ++
      escape .pathSegment config.project ++ lit "/_apis/git/repositories/" ++
      escape .pathSegment config.repository ++ lit "/items" =
    address azureDevOpsHost (joined (downloadSegments config)) [] := by
  obtain ⟨hbase, hslash, hapis, hitems⟩ : baseUrl = lit "https://" ++ azureDevOpsHost ∧
      lit "/" = [byte '/'] ∧
      lit "/_apis/git/repositories/" =
        byte '/' :: (lit "_apis" ++ byte '/' :: (lit "git" ++ byte '/' :: (lit "repositories" ++ [byte '/']))) ∧
      lit "/items" = byte '/' :: lit "items" := by decide_cbv
  rw [hbase, hslash, hapis, hitems, address, if_pos rfl]
  simp [joined, downloadSegments]

theorem map_of_forall₂ {α β : Type} {f : α → Option β} {l : List α} {l' : List β}
    (h : List.Forall₂ (fun a b => f a = some b) l l') : l.map f = l'.map some := by
  induction h with
  | nil => rfl
  | cons hhead _ ih => rw [List.map_cons, List.map_cons, hhead, ih]

/-- **The address of the archive, decoded**, names the repository and the
reference. -/
theorem addresses_buildDownloadUrl (config : AzureOptions) (referenceName : Bytes) :
    ∃ url, buildDownloadUrl baseUrl config referenceName = some url ∧
      Addresses url config.organisation config.project config.repository referenceName := by
  obtain ⟨hhost, hauthority, hfilled, -⟩ := hosts
  have hslash : Clean (byte '/') ∧ validEncoded [byte '/'] .path = true := delimiters.2.2.2.2.2.2
  have hpath : ∀ c ∈ joined (downloadSegments config), Clean c ∧ validEncoded [c] .path = true := by
    intro c hc
    obtain ⟨segment, hsegment, hc⟩ := List.mem_flatMap.mp hc
    obtain rfl | hc := List.mem_cons.mp hc
    · exact hslash
    · obtain ⟨hclean, -, hvalid⟩ := forall_mem_downloadSegments segment hsegment c hc
      exact ⟨hclean, hvalid⟩
  have hvalid : validEncoded (joined (downloadSegments config)) .path = true := by
    refine List.all_eq_true.mpr fun c hc => ?_
    have hone := (hpath c hc).2
    rwa [validEncoded, List.all_cons, List.all_nil, Bool.and_true] at hone
  have hrooted : (joined (downloadSegments config)).head? = some (byte '/') := rfl
  have hnames : List.Forall₂ (fun s n => unescape .path s = some n) (downloadSegments config) _ :=
    unescape_downloadSegments (fun s => unescape_path_escape) fun s hs => (literalSegments s hs).2.1
  obtain ⟨part, hpart, -⟩ := set_path (unescape_joined hnames)
  have hparse : ∀ query, (∀ c ∈ query, Clean c) →
      parse (address azureDevOpsHost (joined (downloadSegments config)) query) = some
        { scheme := lit "https", host := azureDevOpsHost, path := part, rawQuery := query } := fun query hquery =>
    parse_eq hauthority (fun c hc => (hpath c hc).1) hquery hrooted (parseAuthority_host hhost) hpart
  have hbuilt : buildDownloadUrl baseUrl config referenceName = some
      (address azureDevOpsHost (joined (downloadSegments config)) (downloadQuery referenceName).encode) := by
    have hraw := hparse [] fun c hc => nomatch hc
    rw [← joined_downloadSegments] at hraw
    unfold buildDownloadUrl
    simp only [hraw, bind, Option.bind_some]
    exact congrArg some (string_eq (escape_host hhost) hfilled hpart hvalid hrooted)
  refine ⟨_, hbuilt, _, hparse _ forall_mem_encode, rfl, ?_, ?_⟩
  · have hescaped : part.escaped .path = joined (downloadSegments config) :=
      escaped_path hpart hvalid hrooted
    have hmode : ∀ s, unescape .pathSegment (escape .pathSegment s) = some s := fun s => unescape_escape nofun
    have hnames : List.Forall₂ (fun s n => unescape .pathSegment s = some n) (downloadSegments config) _ :=
      unescape_downloadSegments hmode fun s hs => (literalSegments s hs).2.2
    have hsplit : (joined (downloadSegments config)).splitOn (byte '/') = [] :: downloadSegments config :=
      splitOn_joined fun segment hsegment hmem => (forall_mem_downloadSegments segment hsegment _ hmem).2.1 rfl
    rw [hescaped, hsplit, List.map_cons, map_of_forall₂ hnames]
    rfl
  · obtain ⟨hformat, htype, hversion⟩ := carries_downloadQuery referenceName
    exact ⟨hformat.encode, _, _, htype.encode, hversion.encode, designates referenceName⟩

/-! ## Agreement -/

/-- **The two addresses agree**: both give the names, and from what either
gives the address of the archive is built, for every reference. -/
def Agree (https ssh : String) (organisation project repository : Bytes) : Prop :=
  ∀ address ∈ [https, ssh], ∃ opt, parseUrl address = some opt ∧ opt.Names organisation project repository ∧
    ∀ referenceName, ∃ url, buildDownloadUrl baseUrl opt referenceName = some url ∧
      Addresses url organisation project repository referenceName

/-- **The addresses of a repository agree** exactly where the SSH address
writes its names as they are. -/
theorem cloneAddresses_iff (https : HttpsAddress organisation project repository)
    (ssh : SshAddress organisation project repository) :
    Agree https.text ssh.text organisation project repository ↔ ssh.Plain := by
  have hdownload : ∀ opt : AzureOptions, opt.Names organisation project repository → ∀ referenceName,
      ∃ url, buildDownloadUrl baseUrl opt referenceName = some url ∧
        Addresses url organisation project repository referenceName := by
    rintro opt ⟨rfl, rfl, rfl⟩ referenceName
    exact addresses_buildDownloadUrl opt referenceName
  constructor
  · intro hagree
    obtain ⟨opt, hparse, ⟨ho, hp, hr⟩, -⟩ := hagree ssh.text (List.mem_cons_of_mem _ List.mem_cons_self)
    have hopt := Option.some.inj ((parseUrl_ssh ssh).symm.trans hparse)
    rw [← hopt] at ho hp hr
    exact ⟨ho, hp, hr⟩
  · rintro ⟨ho, hp, hr⟩ address haddress
    -- a name that is written as it is has no slash
    have hso : byte '/' ∉ organisation := ho ▸ ssh.o.slash
    have hsp : byte '/' ∉ project := hp ▸ ssh.p.slash
    have hsr : byte '/' ∉ repository := hr ▸ ssh.r.slash
    simp only [List.mem_cons, List.not_mem_nil, or_false] at haddress
    obtain rfl | rfl := haddress
    · obtain ⟨opt, hparse, hnames⟩ := parseUrl_httpsAddress https hso hsp hsr
      exact ⟨opt, hparse, hnames, hdownload opt hnames⟩
    · have hnames : AzureOptions.Names ⟨utf8 ssh.o.text, utf8 ssh.p.text, utf8 ssh.r.text, [], []⟩
          organisation project repository := ⟨ho, hp, hr⟩
      exact ⟨_, parseUrl_ssh ssh, hnames, hdownload _ hnames⟩

/-- A project with a space in its name. -/
theorem cloneAddresses_differ :
    ∃ (https : HttpsAddress (lit "org") (lit "My Project") (lit "repo"))
      (ssh : SshAddress (lit "org") (lit "My Project") (lit "repo")),
      https.text = "https://dev.azure.com/org/My%20Project/_git/repo" ∧
      ssh.text = "git@ssh.dev.azure.com:v3/org/My%20Project/repo" ∧
      ¬ Agree https.text ssh.text (lit "org") (lit "My Project") (lit "repo") := by
  have hwritings : (∀ name ∈ ["org", "repo"], byte '/' ∉ utf8 name.toList ∧
      unescape .path (utf8 name.toList) = some (lit name) ∧ ∀ c ∈ utf8 name.toList, Clean c) ∧
      byte '/' ∉ utf8 "My%20Project".toList ∧
      unescape .path (utf8 "My%20Project".toList) = some (lit "My Project") ∧
      (∀ c ∈ utf8 "My%20Project".toList, Clean c) ∧ utf8 "My%20Project".toList ≠ lit "My Project" := by
    simp only [List.forall_mem_cons]
    refine ⟨⟨⟨?_, ?_, forall_mem_of_all ?_⟩, ⟨?_, ?_, forall_mem_of_all ?_⟩, fun _ h => nomatch h⟩, ?_, ?_,
      forall_mem_of_all ?_, ?_⟩ <;> decide_cbv
  simp only [List.forall_mem_cons] at hwritings
  obtain ⟨⟨ho, hr, -⟩, hp, hread, hclean, hother⟩ := hwritings
  let o : UrlSegment (lit "org") := ⟨⟨"org".toList, ho.1, ho.2.1⟩, ho.2.2⟩
  let p : UrlSegment (lit "My Project") := ⟨⟨"My%20Project".toList, hp, hread⟩, hclean⟩
  let r : UrlSegment (lit "repo") := ⟨⟨"repo".toList, hr.1, hr.2.1⟩, hr.2.2⟩
  let ssh : SshAddress (lit "org") (lit "My Project") (lit "repo") := ⟨false, o.toSegment, p.toSegment, r.toSegment⟩
  have htexts : String.ofList ("https://".toList ++ (userText none ++ "dev.azure.com".toList) ++
      ('/' :: "org".toList ++ '/' :: "My%20Project".toList ++ "/_git/".toList ++ "repo".toList)) =
        "https://dev.azure.com/org/My%20Project/_git/repo" ∧
      String.ofList ("git@ssh.dev.azure.com:v3".toList ++
        '/' :: ("org".toList ++ '/' :: ("My%20Project".toList ++ '/' :: "repo".toList))) =
        "git@ssh.dev.azure.com:v3/org/My%20Project/repo" := by decide_cbv
  refine ⟨.devAzure none o p r, ssh, htexts.1, htexts.2, ?_⟩
  intro hagree
  obtain ⟨opt, hparse, ⟨-, hproject, -⟩, -⟩ := hagree ssh.text (List.mem_cons_of_mem _ List.mem_cons_self)
  have hopt := Option.some.inj ((parseUrl_ssh ssh).symm.trans hparse)
  rw [← hopt] at hproject
  exact hother hproject

end Git

end Portainer
