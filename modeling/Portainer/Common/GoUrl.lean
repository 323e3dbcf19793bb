import Mathlib
import Portainer.Common.Percent
/-!
# URLs — Go's package `net/url`

`Parse`, `String` and the values of a query, for addresses with a scheme and
an authority. `parse_eq` takes such an address apart, and `string_eq` writes
it: what was parsed is what is written. What a query encodes it decodes.
-/

namespace Portainer

namespace GoUrl

open Percent

/-! ## Cutting a text -/

section Cut

variable {sep : UInt8} {s t : Bytes}

/-- What stands before the first separator, and what stands behind it. -/
def cut (sep : UInt8) (s : Bytes) : Bytes × Bytes :=
  (s.takeWhile (· ≠ sep), (s.dropWhile (· ≠ sep)).tail)

/-- The same at the last separator, if there is one. -/
def cutLast (sep : UInt8) (s : Bytes) : Option (Bytes × Bytes) :=
  if sep ∈ s then
    let (last, first) := cut sep s.reverse
    some (first.reverse, last.reverse)
  else none

theorem takeWhile_append_cons (h : sep ∉ s) : (s ++ sep :: t).takeWhile (· ≠ sep) = s := by
  rw [List.takeWhile_append_of_pos, List.takeWhile_cons_of_neg, List.append_nil]
  · simp
  · intro b hb
    exact decide_eq_true fun heq => h (heq ▸ hb)

theorem dropWhile_append_cons (h : sep ∉ s) : (s ++ sep :: t).dropWhile (· ≠ sep) = sep :: t := by
  rw [List.dropWhile_append_of_pos, List.dropWhile_cons_of_neg]
  · simp
  · intro b hb
    exact decide_eq_true fun heq => h (heq ▸ hb)

theorem cut_append_cons (h : sep ∉ s) : cut sep (s ++ sep :: t) = (s, t) := by
  rw [cut, takeWhile_append_cons h, dropWhile_append_cons h, List.tail_cons]

theorem cut_of_notMem (h : sep ∉ s) : cut sep s = (s, []) := by
  have hall : ∀ b ∈ s, decide (b ≠ sep) = true := fun b hb => decide_eq_true fun heq => h (heq ▸ hb)
  rw [cut, List.takeWhile_eq_self_iff.mpr hall, List.dropWhile_eq_nil_iff.mpr hall, List.tail_nil]

theorem cutLast_append_cons (h : sep ∉ t) : cutLast sep (s ++ sep :: t) = some (s, t) := by
  have hmem : sep ∈ s ++ sep :: t := List.mem_append_right s List.mem_cons_self
  have hreverse : (s ++ sep :: t).reverse = t.reverse ++ sep :: s.reverse := by
    rw [List.reverse_append, List.reverse_cons, List.append_assoc, List.singleton_append]
  have hnot : sep ∉ t.reverse := fun hmem => h (List.mem_reverse.mp hmem)
  rw [cutLast, if_pos hmem, hreverse, cut_append_cons hnot]
  simp only [List.reverse_reverse]

theorem cutLast_of_notMem (h : sep ∉ s) : cutLast sep s = none := if_neg h

end Cut

/-! ## Parts that are escaped -/

/-- A path or a fragment: its text, and how it is written where that is not
how `escape` writes it. -/
structure Part where
  text : Bytes
  raw : Bytes := []
  deriving DecidableEq, Repr

/-- `setPath` and `setFragment`. -/
def Part.set (mode : Mode) (p : Bytes) : Option Part :=
  (unescape mode p).map fun text => ⟨text, if escape mode text = p then [] else p⟩

/-- `validEncoded`. -/
def validEncoded (s : Bytes) (mode : Mode) : Bool :=
  s.all fun c => c ∈ lit "!$&'()*+,;=:@[]%" || !shouldEscape c mode

/-- `EscapedPath` and `EscapedFragment`. -/
def Part.escaped (mode : Mode) (part : Part) : Bytes :=
  if part.raw ≠ [] ∧ validEncoded part.raw mode = true ∧ unescape mode part.raw = some part.text then part.raw
  else if mode = .path ∧ part.text = lit "*" then lit "*"
  else escape mode part.text

/-- **A part is written as it was**, unless it is the path `*`. -/
theorem escaped_set {mode : Mode} {p : Bytes} {part : Part} (h : Part.set mode p = some part)
    (hvalid : validEncoded p mode = true) (hstar : part.text ≠ lit "*") : part.escaped mode = p := by
  obtain ⟨text, htext, rfl⟩ := Option.map_eq_some_iff.mp h
  unfold Part.escaped
  by_cases hdefault : escape mode text = p
  · simp only [if_pos hdefault]
    rw [if_neg (fun h => h.1 rfl), if_neg (fun h => hstar h.2), hdefault]
  · simp only [if_neg hdefault]
    by_cases hempty : p = []
    · subst hempty
      cases Option.some.inj htext
      exact absurd rfl hdefault
    · rw [if_pos ⟨hempty, hvalid, htext⟩]

/-! ## Addresses -/

structure Userinfo where
  username : Bytes
  password : Option Bytes := none
  deriving DecidableEq, Repr

structure URL where
  scheme : Bytes
  user : Option Userinfo := none
  host : Bytes
  path : Part
  forceQuery : Bool := false
  rawQuery : Bytes := []
  fragment : Part := ⟨[], []⟩
  deriving DecidableEq, Repr

/-- `stringContainsCTLByte`, of one byte. -/
def isControl (c : UInt8) : Bool := c < byte ' ' || c = 0x7f

/-- `getScheme`, of a text that has one. -/
def getScheme (s : Bytes) : Option (Bytes × Bytes) :=
  let isSchemeByte := fun c => isAlphanumeric c || c ∈ lit "+-."
  let scheme := s.takeWhile isSchemeByte
  match s.dropWhile isSchemeByte with
  | c :: rest =>
    if c = byte ':' && scheme.head?.any (fun c => isAlphanumeric c && !(byte '0' ≤ c && c ≤ byte '9')) then
      some (scheme, rest)
    else none
  | [] => none

/-- `strings.ToLower`, of a scheme. -/
def toLower (s : Bytes) : Bytes := s.map fun c => if byte 'A' ≤ c && c ≤ byte 'Z' then c + 32 else c

/-- `validOptionalPort`. -/
def validOptionalPort (port : Bytes) : Bool :=
  match port with
  | [] => true
  | c :: digits => c = byte ':' && digits.all fun c => byte '0' ≤ c && c ≤ byte '9'

/-- `parseHost`. A host in brackets is an IP address and is not looked at
here. -/
def parseHost (host : Bytes) : Option Bytes :=
  if host.head? = some (byte '[') then none
  else
    match cutLast (byte ':') host with
    | some (_, port) => if validOptionalPort (byte ':' :: port) then unescape .host host else none
    | none => unescape .host host

/-- `validUserinfo`. -/
def validUserinfo (s : Bytes) : Bool :=
  s.all fun c => isAlphanumeric c || c ∈ lit "-._:~!$&'()*+,;=%@"

/-- The user of `parseAuthority`. -/
def parseUserinfo (userinfo : Bytes) : Option Userinfo :=
  if validUserinfo userinfo = false then none
  else if byte ':' ∈ userinfo then do
    let (username, password) := cut (byte ':') userinfo
    let username ← unescape .userPassword username
    let password ← unescape .userPassword password
    return ⟨username, some password⟩
  else (unescape .userPassword userinfo).map (⟨·, none⟩)

def parseAuthority (authority : Bytes) : Option (Option Userinfo × Bytes) :=
  match cutLast (byte '@') authority with
  | none => (parseHost authority).map (none, ·)
  | some (userinfo, host) => do
    let host ← parseHost host
    let user ← parseUserinfo userinfo
    return (some user, host)

/-- The query of an address without its fragment: whether there is only a
question mark, the address without the query, and the query. -/
def splitQuery (rest : Bytes) : Bool × Bytes × Bytes :=
  if rest.getLast? = some (byte '?') && rest.count (byte '?') = 1 then (true, rest.dropLast, [])
  else (false, cut (byte '?') rest)

/-- `Parse`, of an address with a scheme and an authority; `none` for every
other. -/
def parse (rawurl : Bytes) : Option URL :=
  let (u, frag) := cut (byte '#') rawurl
  if u.any isControl then none
  else do
    let (scheme, rest) ← getScheme u
    let (forceQuery, rest, rawQuery) := splitQuery rest
    if lit "//" <+: rest then do
      let (user, host) ← parseAuthority ((rest.drop 2).takeWhile (· ≠ byte '/'))
      let path ← Part.set .path ((rest.drop 2).dropWhile (· ≠ byte '/'))
      let fragment ← Part.set .fragment frag
      return {
        scheme := toLower scheme
        user := user
        host := host
        path := path
        forceQuery := forceQuery
        rawQuery := rawQuery
        fragment := fragment }
    else none

/-- `Userinfo.String`. -/
def Userinfo.string (user : Userinfo) : Bytes :=
  if user.username ≠ [] ∨ user.password.getD [] ≠ [] then
    escape .userPassword user.username ++
      user.password.elim [] fun password => byte ':' :: escape .userPassword password
  else []

/-- `URL.String`. -/
def URL.string (u : URL) : Bytes :=
  let path := u.path.escaped .path
  u.scheme ++ lit ":" ++
    (if u.host ≠ [] ∨ u.path.text ≠ [] ∨ u.user.isSome then lit "//" else []) ++
    u.user.elim [] (fun user => user.string ++ lit "@") ++ escape .host u.host ++
    (if path ≠ [] ∧ path.head? ≠ some (byte '/') ∧ u.host ≠ [] then lit "/" else []) ++ path ++
    (if u.forceQuery ∨ u.rawQuery ≠ [] then byte '?' :: u.rawQuery else []) ++
    (if u.fragment.text ≠ [] then byte '#' :: u.fragment.escaped .fragment else [])

/-! ## Queries -/

/-- `Values`: the keys and the values, in the order of the query. -/
abbrev Values := List (Bytes × Bytes)

/-- `Query`: pairs that cannot be read are left out. -/
def parseQuery (query : Bytes) : Values :=
  (query.splitOnP fun c => c = byte '&' || c = byte ';').filterMap fun key =>
    if key = [] then none
    else do
      let (key, value) := cut (byte '=') key
      let key ← unescape .queryComponent key
      let value ← unescape .queryComponent value
      return (key, value)

/-- `Set`. -/
def Values.set (values : Values) (key value : Bytes) : Values :=
  values.filter (·.1 ≠ key) ++ [(key, value)]

/-- One pair of `Encode`. -/
def encodePair (pair : Bytes × Bytes) : Bytes :=
  escape .queryComponent pair.1 ++ byte '=' :: escape .queryComponent pair.2

/-- The pairs in the order of `Encode`: that of the keys. -/
def Values.sorted (values : Values) : Values := values.mergeSort fun a b => !(b.1 < a.1)

/-- `Encode`. -/
def Values.encode (values : Values) : Bytes :=
  (lit "&").intercalate (values.sorted.map encodePair)

/-! ## Taking an address apart -/

section Address

variable {authority path query host text : Bytes} {user : Option Userinfo} {part : Part}

/-- A byte that ends no part of an address, up to the query. -/
structure Clean (c : UInt8) : Prop where
  fragment : c ≠ byte '#'
  query : c ≠ byte '?'
  control : isControl c = false

instance (c : UInt8) : Decidable (Clean c) :=
  decidable_of_iff (c ≠ byte '#' ∧ c ≠ byte '?' ∧ isControl c = false)
    ⟨fun ⟨hf, hq, hc⟩ => ⟨hf, hq, hc⟩, fun h => ⟨h.fragment, h.query, h.control⟩⟩

/-- An address, from its parts. -/
def address (authority path query : Bytes) : Bytes :=
  lit "https://" ++ authority ++ path ++ if query = [] then [] else byte '?' :: query

/-- The literals of an address. -/
theorem literals : lit "https:" = [104, 116, 116, 112, 115, 58] ∧
    lit "https://" = lit "https:" ++ lit "//" ∧ lit "https://" = lit "https" ++ lit ":" ++ lit "//" ∧
    lit "//" = [47, 47] ∧ toLower (lit "https") = lit "https" ∧ (∀ c ∈ lit "https://", Clean c) ∧
    lit "*" = [byte '*'] ∧ lit "&" = [byte '&'] := by
  have hclean : ∀ c ∈ lit "https://", Clean c := forall_mem_of_all (by decide_cbv)
  refine ⟨?_, ?_, ?_, ?_, ?_, hclean, ?_, ?_⟩ <;> decide_cbv

/-- The bytes that separate the parts of an address. -/
theorem separators : (byte '?' ≠ byte '#' ∧ isControl (byte '?') = false) ∧
    (byte '/' ≠ byte '%' ∧ byte '/' ≠ byte '*' ∧ plainByte .path (byte '/') = some (byte '/')) ∧
    (byte '%' ∈ lit "/@:[%" ∧ byte '[' ∈ lit "/@:[%" ∧ byte ':' ∈ lit "/@:[%" ∧ byte '@' ∈ lit "/@:[%") ∧
    (byte '=' ≠ byte '&' ∧ byte '=' ≠ byte ';' ∧ Clean (byte '=')) ∧ Clean (byte '&') := by
  refine ⟨⟨?_, ?_⟩, ⟨?_, ?_, ?_⟩, ⟨?_, ?_, ?_, ?_⟩, ⟨?_, ?_, ?_⟩, ?_⟩ <;> decide_cbv

theorem getScheme_https {rest : Bytes} : getScheme (lit "https:" ++ rest) = some (lit "https", rest) := by
  rw [literals.1]
  rfl

/-- The query is what stands behind the question mark. -/
theorem splitQuery_eq {rest : Bytes} (hrest : byte '?' ∉ rest) (hquery : byte '?' ∉ query) :
    splitQuery (rest ++ if query = [] then [] else byte '?' :: query) = (false, rest, query) := by
  have hlast : ¬ (rest ++ if query = [] then [] else byte '?' :: query).getLast? = some (byte '?') := by
    intro hlast
    have hmem := List.mem_of_getLast? hlast
    by_cases hempty : query = []
    · rw [if_pos hempty, List.append_nil] at hmem
      exact hrest hmem
    · rw [if_neg hempty, List.getLast?_append_of_ne_nil _ (List.cons_ne_nil _ _),
        List.getLast?_cons_of_ne_nil hempty] at hlast
      exact hquery (List.mem_of_getLast? hlast)
  unfold splitQuery
  rw [if_neg (by simp only [Bool.and_eq_true, decide_eq_true_iff, not_and]; exact fun h => absurd h hlast)]
  by_cases hempty : query = []
  · rw [if_pos hempty, List.append_nil, cut_of_notMem hrest, hempty]
  · rw [if_neg hempty, cut_append_cons hrest]

/-- **An address comes apart** into the parts it was put together from. -/
theorem parse_eq (hauthority : ∀ c ∈ authority, Clean c ∧ c ≠ byte '/') (hpath : ∀ c ∈ path, Clean c)
    (hquery : ∀ c ∈ query, Clean c) (hrooted : path.head? = some (byte '/'))
    (hhost : parseAuthority authority = some (user, host)) (hpart : Part.set .path path = some part) :
    parse (address authority path query) = some
      { scheme := lit "https", user := user, host := host, path := part, rawQuery := query } := by
  obtain ⟨-, hsplit, -, hslashes, hlower, hlit, -⟩ := literals
  have hmark : ∀ c ∈ (if query = [] then [] else byte '?' :: query), c ≠ byte '#' ∧ isControl c = false := by
    intro c hc
    split at hc
    · nomatch hc
    · obtain rfl | hc := List.mem_cons.mp hc
      · exact separators.1
      · exact ⟨(hquery c hc).fragment, (hquery c hc).control⟩
  have hclean : ∀ c ∈ address authority path query, c ≠ byte '#' ∧ isControl c = false := by
    intro c hc
    unfold address at hc
    simp only [List.mem_append] at hc
    obtain ((hc | hc) | hc) | hc := hc
    · exact ⟨(hlit c hc).fragment, (hlit c hc).control⟩
    · exact ⟨(hauthority c hc).1.fragment, (hauthority c hc).1.control⟩
    · exact ⟨(hpath c hc).fragment, (hpath c hc).control⟩
    · exact hmark c hc
  have hcontrol : (address authority path query).any isControl = false := by
    rw [List.any_eq_false]
    intro c hc
    rw [(hclean c hc).2]
    exact Bool.false_ne_true
  have hfragment : cut (byte '#') (address authority path query) = (address authority path query, []) :=
    cut_of_notMem fun hmem => (hclean _ hmem).1 rfl
  have hscheme : getScheme (address authority path query) =
      some (lit "https", (lit "//" ++ (authority ++ path)) ++ if query = [] then [] else byte '?' :: query) := by
    unfold address
    rw [hsplit]
    simp only [List.append_assoc]
    exact getScheme_https
  have hsplitQuery : splitQuery ((lit "//" ++ (authority ++ path)) ++
      if query = [] then [] else byte '?' :: query) = (false, lit "//" ++ (authority ++ path), query) := by
    refine splitQuery_eq ?_ fun hmem => (hquery _ hmem).query rfl
    intro hmem
    simp only [List.mem_append] at hmem
    obtain hmem | hmem | hmem := hmem
    · have hliteral : byte '?' ∈ lit "https://" := hsplit ▸ List.mem_append_right _ hmem
      exact (hlit _ hliteral).query rfl
    · exact (hauthority _ hmem).1.query rfl
    · exact (hpath _ hmem).query rfl
  have hdrop : (lit "//" ++ (authority ++ path)).drop 2 = authority ++ path := by
    rw [hslashes]
    rfl
  obtain ⟨rest, rfl⟩ : ∃ rest, path = byte '/' :: rest := by
    cases path with
    | nil => nomatch hrooted
    | cons c rest => exact ⟨rest, congrArg (· :: rest) (Option.some.inj hrooted)⟩
  have hnot : byte '/' ∉ authority := fun hmem => (hauthority _ hmem).2 rfl
  have hempty : Part.set .fragment [] = some ⟨[], []⟩ := rfl
  unfold parse
  simp only [hfragment, hcontrol, hscheme]
  rw [if_neg Bool.false_ne_true]
  simp only [bind, Option.bind_some, hsplitQuery, hdrop, takeWhile_append_cons hnot,
    dropWhile_append_cons hnot, hhost, hpart, hempty, hlower]
  rw [if_pos (List.prefix_append _ _)]
  rfl

/-- A path from the root is written as it was. -/
theorem escaped_path (hpart : Part.set .path path = some part) (hvalid : validEncoded path .path = true)
    (hrooted : path.head? = some (byte '/')) : part.escaped .path = path := by
  refine escaped_set hpart hvalid ?_
  obtain ⟨text, htext, rfl⟩ := Option.map_eq_some_iff.mp hpart
  cases path with
  | nil => nomatch hrooted
  | cons c rest =>
    cases Option.some.inj hrooted
    obtain ⟨hslash, hstar, hplain⟩ := separators.2.1
    obtain ⟨-, -, -, -, -, -, hlit, -⟩ := literals
    rw [unescape_cons hslash, hplain, Option.bind_some] at htext
    obtain ⟨rest, -, rfl⟩ := Option.map_eq_some_iff.mp htext
    rw [hlit]
    intro heq
    exact hstar (List.cons.inj heq).1

/-- **An address is written as it was parsed.** -/
theorem string_eq (hhost : escape .host host = host) (hfilled : host ≠ [])
    (hpart : Part.set .path path = some part) (hvalid : validEncoded path .path = true)
    (hrooted : path.head? = some (byte '/')) :
    URL.string { scheme := lit "https", host := host, path := part, rawQuery := query } =
      address host path query := by
  have hescaped : part.escaped .path = path := escaped_path hpart hvalid hrooted
  have hlit : lit "https://" = lit "https" ++ lit ":" ++ lit "//" := literals.2.2.1
  have hslash : ¬ (path ≠ [] ∧ path.head? ≠ some (byte '/') ∧ host ≠ []) := fun h => h.2.1 hrooted
  unfold URL.string address
  simp only [hescaped, hhost]
  rw [if_pos (.inl hfilled), if_neg hslash, hlit]
  by_cases hempty : query = []
  · simp [hempty]
  · simp [hempty]

end Address

/-! ## Hosts -/

section Host

variable {host : Bytes}

/-- A byte of a host name. -/
def isHostByte (c : UInt8) : Bool := isAlphanumeric c || c = byte '-' || c = byte '.'

theorem isHostByte_spec : ∀ c, isHostByte c = true →
    Clean c ∧ c ∉ lit "/@:[%" ∧ plainByte .host c = some c ∧ escapeByte .host c = [c] :=
  forall_byte (by decide +kernel)

/-- **A host name is itself**, escaped or not. -/
theorem unescape_host (h : ∀ c ∈ host, isHostByte c = true) : unescape .host host = some host := by
  induction host with
  | nil => rfl
  | cons c host ih =>
    obtain ⟨-, hsep, hplain, -⟩ := isHostByte_spec c (h c List.mem_cons_self)
    have hpercent : c ≠ byte '%' := by
      rintro rfl
      exact hsep separators.2.2.1.1
    rw [unescape_cons hpercent, hplain, ih fun d hd => h d (List.mem_cons_of_mem c hd)]
    rfl

theorem escape_host (h : ∀ c ∈ host, isHostByte c = true) : escape .host host = host := by
  induction host with
  | nil => rfl
  | cons c host ih =>
    obtain ⟨-, -, -, hescape⟩ := isHostByte_spec c (h c List.mem_cons_self)
    have hrest : escape .host host = host := ih fun d hd => h d (List.mem_cons_of_mem c hd)
    rw [escape, List.flatMap_cons, hescape, ← escape, hrest, List.singleton_append]

theorem notMem_host (h : ∀ c ∈ host, isHostByte c = true) {c : UInt8} (hc : c ∈ lit "/@:[%") : c ∉ host :=
  fun hmem => (isHostByte_spec c (h c hmem)).2.1 hc

theorem parseHost_eq (h : ∀ c ∈ host, isHostByte c = true) : parseHost host = some host := by
  obtain ⟨-, hopening, hcolon, -⟩ := separators.2.2.1
  have hbracket : ¬ host.head? = some (byte '[') := fun hhead =>
    notMem_host h hopening (List.mem_of_mem_head? hhead)
  have hcolon : byte ':' ∉ host := notMem_host h hcolon
  rw [parseHost, if_neg hbracket, cutLast_of_notMem hcolon]
  exact unescape_host h

/-- An authority without a user. -/
theorem parseAuthority_host (h : ∀ c ∈ host, isHostByte c = true) : parseAuthority host = some (none, host) := by
  have hat : byte '@' ∉ host := notMem_host h separators.2.2.1.2.2.2
  rw [parseAuthority, cutLast_of_notMem hat]
  simp only [parseHost_eq h]
  rfl

/-- An authority with a user. -/
theorem parseAuthority_user (h : ∀ c ∈ host, isHostByte c = true) {userinfo : Bytes} {user : Userinfo}
    (huser : parseUserinfo userinfo = some user) :
    parseAuthority (userinfo ++ byte '@' :: host) = some (some user, host) := by
  have hat : byte '@' ∉ host := notMem_host h separators.2.2.1.2.2.2
  rw [parseAuthority, cutLast_append_cons hat]
  simp only [parseHost_eq h, huser]
  rfl

/-- The bytes of a user. -/
theorem forall_mem_userinfo {userinfo : Bytes} {user : Userinfo} (huser : parseUserinfo userinfo = some user) :
    ∀ c ∈ userinfo, Clean c ∧ c ≠ byte '/' := by
  have hvalid : validUserinfo userinfo = true := by
    by_contra hinvalid
    rw [parseUserinfo, if_pos (Bool.eq_false_iff.mpr hinvalid)] at huser
    nomatch huser
  have hbyte : ∀ c, (isAlphanumeric c || decide (c ∈ lit "-._:~!$&'()*+,;=%@")) = true →
      Clean c ∧ c ≠ byte '/' := forall_byte (by decide +kernel)
  intro c hc
  exact hbyte c (List.all_eq_true.mp hvalid c hc)

end Host

/-! ## Reading a query back -/

/-- A pair that was encoded is read back, and has no byte that separates
pairs. -/
theorem encodePair_ne_nil (pair : Bytes × Bytes) : encodePair pair ≠ [] := by
  intro hempty
  exact List.cons_ne_nil _ _ (List.append_eq_nil_iff.mp hempty).2

theorem notMem_escape_query {s : Bytes} :
    ∀ c ∈ escape .queryComponent s, c ≠ byte '&' ∧ c ≠ byte ';' ∧ c ≠ byte '=' ∧ Clean c :=
  forall_mem_escape (by decide +kernel)

theorem forall_mem_encodePair {pair : Bytes × Bytes} :
    ∀ c ∈ encodePair pair, c ≠ byte '&' ∧ c ≠ byte ';' ∧ Clean c := by
  intro c hc
  obtain hc | hc := List.mem_append.mp hc
  · obtain ⟨hamp, hsemi, -, hclean⟩ := notMem_escape_query c hc
    exact ⟨hamp, hsemi, hclean⟩
  · obtain rfl | hc := List.mem_cons.mp hc
    · exact separators.2.2.2.1
    · obtain ⟨hamp, hsemi, -, hclean⟩ := notMem_escape_query c hc
      exact ⟨hamp, hsemi, hclean⟩

theorem splitOnP_intercalate (pairs : Values) (hne : pairs ≠ []) :
    ((lit "&").intercalate (pairs.map encodePair)).splitOnP (fun c => c = byte '&' || c = byte ';') =
      pairs.map encodePair := by
  obtain ⟨-, -, -, -, -, -, -, hsep⟩ := literals
  have hplain : ∀ pair : Bytes × Bytes, ∀ c ∈ encodePair pair,
      (decide (c = byte '&') || decide (c = byte ';')) = false := by
    intro pair c hc
    obtain ⟨hamp, hsemi, -⟩ := forall_mem_encodePair c hc
    rw [decide_eq_false hamp, decide_eq_false hsemi, Bool.or_false]
  rw [hsep]
  induction pairs with
  | nil => exact absurd rfl hne
  | cons pair pairs ih =>
    cases pairs with
    | nil =>
      rw [List.map_cons, List.map_nil, List.intercalate_singleton]
      exact List.splitOnP_eq_singleton (hplain pair)
    | cons next pairs =>
      rw [List.map_cons, List.map_cons, List.intercalate_cons_cons, List.append_assoc, List.singleton_append,
        List.splitOnP_append_cons_of_forall_mem (hplain pair) (byte '&') (by simp)]
      exact congrArg _ (ih (List.cons_ne_nil _ _))

/-- **What a query encodes it decodes.** -/
theorem parseQuery_encode (values : Values) (hne : values ≠ []) :
    parseQuery values.encode = values.sorted := by
  have hpair : ∀ pair : Bytes × Bytes, (if encodePair pair = [] then none else do
      let (key, value) := cut (byte '=') (encodePair pair)
      let key ← unescape .queryComponent key
      let value ← unescape .queryComponent value
      return (key, value)) = some pair := by
    intro pair
    have hnot : byte '=' ∉ escape .queryComponent pair.1 := fun hmem =>
      (notMem_escape_query _ hmem).2.2.1 rfl
    rw [if_neg (encodePair_ne_nil pair), encodePair, cut_append_cons hnot]
    have hmode : Mode.queryComponent ≠ .host := nofun
    simp only [unescape_escape hmode]
    rfl
  have hsorted : values.sorted ≠ [] := by
    intro hempty
    have hperm : values.sorted.Perm values := List.mergeSort_perm values _
    rw [hempty] at hperm
    exact hne hperm.nil_eq.symm
  rw [parseQuery, Values.encode, splitOnP_intercalate _ hsorted, List.filterMap_map]
  have hall : ∀ pairs : Values, pairs.filterMap ((fun key => if key = [] then none else do
      let (key, value) := cut (byte '=') key
      let key ← unescape .queryComponent key
      let value ← unescape .queryComponent value
      return (key, value)) ∘ encodePair) = pairs := by
    intro pairs
    induction pairs with
    | nil => rfl
    | cons pair pairs ih => rw [List.filterMap_cons, Function.comp_apply, hpair, ih]
  exact hall _

/-- The bytes of an encoded query. -/
theorem forall_mem_encode {values : Values} : ∀ c ∈ values.encode, Clean c := by
  have hamp : ∀ c ∈ lit "&", Clean c := by
    rw [literals.2.2.2.2.2.2.2, List.forall_mem_singleton]
    exact separators.2.2.2.2
  have hall : ∀ pairs : Values, ∀ c ∈ (lit "&").intercalate (pairs.map encodePair), Clean c := by
    intro pairs
    induction pairs with
    | nil => exact fun c hc => nomatch hc
    | cons pair pairs ih =>
      cases pairs with
      | nil =>
        rw [List.map_cons, List.map_nil, List.intercalate_singleton]
        exact fun c hc => (forall_mem_encodePair c hc).2.2
      | cons next pairs =>
        rw [List.map_cons, List.map_cons, List.intercalate_cons_cons]
        intro c hc
        obtain hc | hc := List.mem_append.mp hc
        · obtain hc | hc := List.mem_append.mp hc
          · exact (forall_mem_encodePair c hc).2.2
          · exact hamp c hc
        · exact ih c hc
  exact hall values.sorted

/-! ## The value of a key -/

section Carries

variable {values : Values} {key key' value value' : Bytes}

/-- The key has the value, and no other. -/
def Carries (values : Values) (key value : Bytes) : Prop := ∀ v, (key, v) ∈ values ↔ v = value

theorem mem_set {pair : Bytes × Bytes} :
    pair ∈ values.set key value ↔ pair ∈ values ∧ pair.1 ≠ key ∨ pair = (key, value) := by
  rw [Values.set, List.mem_append, List.mem_filter, List.mem_singleton, decide_eq_true_iff]

theorem carries_set : Carries (values.set key value) key value := by
  intro v
  rw [mem_set]
  constructor
  · rintro (⟨-, hne⟩ | heq)
    · exact absurd rfl hne
    · exact congrArg Prod.snd heq
  · rintro rfl
    exact .inr rfl

theorem Carries.set (h : Carries values key value) (hne : key ≠ key') :
    Carries (values.set key' value') key value := by
  intro v
  rw [mem_set, ← h v]
  constructor
  · rintro (⟨hmem, -⟩ | heq)
    · exact hmem
    · exact absurd (congrArg Prod.fst heq) hne
  · intro hmem
    exact .inl ⟨hmem, hne⟩

theorem Carries.sorted (h : Carries values key value) : Carries values.sorted key value := by
  intro v
  rw [← h v]
  exact (List.mergeSort_perm values _).mem_iff

/-- **A key keeps its value** when the query is encoded and read back. -/
theorem Carries.encode (h : Carries values key value) : Carries (parseQuery values.encode) key value := by
  have hne : values ≠ [] := by
    rintro rfl
    exact absurd ((h value).mpr rfl) List.not_mem_nil
  rw [parseQuery_encode values hne]
  exact h.sorted

end Carries

end GoUrl

end Portainer
