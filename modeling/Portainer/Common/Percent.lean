import Mathlib.Tactic.Common
import Mathlib.Data.List.Basic
/-!
# Percent-encoding — texts as bytes, escaped and unescaped

The two functions of Go's package `net/url` on which its URLs are built. What
`escape` writes `unescape` reads back, whatever comes behind, and what it
writes has no byte that the part of the URL gives a meaning to.
-/

namespace Portainer

/-- A text, as a Go string holds it. -/
abbrev Bytes := List UInt8

/-- The bytes of characters. -/
def utf8 (cs : List Char) : Bytes := cs.flatMap String.utf8EncodeChar

/-- The bytes of a text that is written out. -/
def lit (s : String) : Bytes := utf8 s.toList

/-- The byte of an ASCII character. -/
def byte (c : Char) : UInt8 := UInt8.ofNat c.toNat

@[simp] theorem utf8_append (cs ds : List Char) : utf8 (cs ++ ds) = utf8 cs ++ utf8 ds :=
  List.flatMap_append

namespace Percent

/-- The parts of a URL that are escaped differently. -/
inductive Mode
  | path
  | pathSegment
  | host
  | userPassword
  | queryComponent
  | fragment
  deriving DecidableEq, Repr

def isAlphanumeric (c : UInt8) : Bool :=
  (byte 'a' ≤ c && c ≤ byte 'z') || (byte 'A' ≤ c && c ≤ byte 'Z') || (byte '0' ≤ c && c ≤ byte '9')

/-- `shouldEscape`. -/
def shouldEscape (c : UInt8) (mode : Mode) : Bool :=
  if isAlphanumeric c then false
  else if mode = .host && c ∈ lit "!$&'()*+,;=:[]<>\"" then false
  else if c ∈ lit "-_.~" then false
  else if c ∈ lit "$&+,/:;=?@" then
    match mode with
    | .path => c = byte '?'
    | .pathSegment => c ∈ lit "/;,?"
    | .userPassword => c ∈ lit "@/?:"
    | .queryComponent => true
    | .fragment => false
    | .host => true
  else if mode = .fragment && c ∈ lit "!()*" then false
  else true

def ishex (c : UInt8) : Bool :=
  (byte '0' ≤ c && c ≤ byte '9') || (byte 'a' ≤ c && c ≤ byte 'f') || (byte 'A' ≤ c && c ≤ byte 'F')

def unhex (c : UInt8) : UInt8 :=
  if byte '0' ≤ c && c ≤ byte '9' then c - byte '0'
  else if byte 'a' ≤ c && c ≤ byte 'f' then c - byte 'a' + 10
  else if byte 'A' ≤ c && c ≤ byte 'F' then c - byte 'A' + 10
  else 0

/-- The digit of `upperhex`. -/
def hexDigit (n : UInt8) : UInt8 := if n < 10 then byte '0' + n else byte 'A' + (n - 10)

/-- `escape`, of one byte. -/
def escapeByte (mode : Mode) (c : UInt8) : Bytes :=
  if c = byte ' ' && mode = .queryComponent then [byte '+']
  else if shouldEscape c mode then [byte '%', hexDigit (c >>> 4), hexDigit (c &&& 15)]
  else [c]

def escape (mode : Mode) (s : Bytes) : Bytes := s.flatMap (escapeByte mode)

/-- A byte that is no part of an escape, unescaped. -/
def plainByte (mode : Mode) (c : UInt8) : Option UInt8 :=
  if c = byte '+' && mode = .queryComponent then some (byte ' ')
  else if mode = .host && c < 0x80 && shouldEscape c mode then none
  else some c

/-- The byte of an escape. A host escapes only what is not ASCII, and the
percent sign. -/
def escapedByte (mode : Mode) (d e : UInt8) : Option UInt8 :=
  if ishex d && ishex e && !(mode = .host && unhex d < 8 && [d, e] ≠ lit "25") then
    some ((unhex d <<< 4) ||| unhex e)
  else none

/-- `unescape`. `none` is an `EscapeError` or an `InvalidHostError`. -/
def unescape (mode : Mode) : Bytes → Option Bytes
  | [] => some []
  | c :: s =>
    if c = byte '%' then
      match s with
      | d :: e :: rest => do
        let c ← escapedByte mode d e
        let rest ← unescape mode rest
        return c :: rest
      | _ => none
    else do
      let c ← plainByte mode c
      let rest ← unescape mode s
      return c :: rest

/-! ## Round trips -/

section RoundTrips

variable {mode : Mode} {s t x : Bytes} {c : UInt8}

theorem unescape_percent {d e : UInt8} : unescape mode (byte '%' :: d :: e :: s) =
    (escapedByte mode d e).bind fun c => (unescape mode s).map (c :: ·) := by
  rw [unescape, if_pos rfl]
  cases escapedByte mode d e <;> cases unescape mode s <;> rfl

theorem unescape_cons (hc : c ≠ byte '%') : unescape mode (c :: s) =
    (plainByte mode c).bind fun c => (unescape mode s).map (c :: ·) := by
  rw [unescape.eq_def]
  simp only [if_neg hc]
  cases plainByte mode c <;> cases unescape mode s <;> rfl

/-- **What unescapes by itself** unescapes with something behind it. -/
theorem unescape_append (h : unescape mode s = some x) :
    unescape mode (s ++ t) = (unescape mode t).map (x ++ ·) := by
  -- one byte more in front, of the text and of what it stands for
  have hstep : ∀ {first : Option UInt8} {s t : Bytes} {x : Bytes},
      (∀ {y}, unescape mode s = some y → unescape mode (s ++ t) = (unescape mode t).map (y ++ ·)) →
      (first.bind fun c => (unescape mode s).map (c :: ·)) = some x →
      (first.bind fun c => (unescape mode (s ++ t)).map (c :: ·)) = (unescape mode t).map (x ++ ·) := by
    intro first s t x ih hx
    obtain ⟨b, rfl, hx⟩ := Option.bind_eq_some_iff.mp hx
    obtain ⟨y, hy, rfl⟩ := Option.map_eq_some_iff.mp hx
    rw [Option.bind_some, ih hy, Option.map_map]
    rfl
  induction s using unescape.induct generalizing x with
  | case1 =>
    cases Option.some.inj h
    rw [List.nil_append]
    cases unescape mode t <;> rfl
  | case2 d e rest ih =>
    rw [unescape_percent] at h
    rw [List.cons_append, List.cons_append, List.cons_append, unescape_percent]
    exact hstep ih h
  | case3 s hshort =>
    rw [unescape.eq_def] at h
    simp only [if_pos] at h
    nomatch h
  | case4 c s hc ih =>
    rw [unescape_cons hc] at h
    rw [List.cons_append, unescape_cons hc]
    exact hstep ih h

/-- What is checked of every byte of a text holds of each. -/
theorem forall_mem_of_all {P : UInt8 → Prop} [DecidablePred P] (h : s.all (fun b => decide (P b)) = true) :
    ∀ b ∈ s, P b :=
  fun b hb => of_decide_eq_true (List.all_eq_true.mp h b hb)

/-- What holds of the 256 bytes. -/
theorem forall_byte {P : UInt8 → Prop} (h : ∀ n < 256, P (UInt8.ofNat n)) (c : UInt8) : P c := by
  have hc := h c.toNat (UInt8.toNat_lt c)
  rwa [UInt8.ofNat_toNat] at hc

theorem unescape_escapeByte (hmode : mode ≠ .host) (c : UInt8) :
    unescape mode (escapeByte mode c) = some [c] := by
  have hall : ∀ mode ∈ [Mode.path, .pathSegment, .userPassword, .queryComponent, .fragment], ∀ n < 256,
      unescape mode (escapeByte mode (UInt8.ofNat n)) = some [UInt8.ofNat n] := by decide +kernel
  have hlisted : mode ∈ [Mode.path, .pathSegment, .userPassword, .queryComponent, .fragment] := by
    cases mode with
    | host => exact absurd rfl hmode
    | _ => decide
  exact forall_byte (P := fun c => unescape mode (escapeByte mode c) = some [c]) (hall mode hlisted) c

/-- A text is read back if each of its bytes is. -/
theorem unescape_escape_of {mode' : Mode} (h : ∀ c, unescape mode (escapeByte mode' c) = some [c]) :
    unescape mode (escape mode' s) = some s := by
  induction s with
  | nil => rfl
  | cons c s ih =>
    rw [escape, List.flatMap_cons, unescape_append (h c), ← escape, ih]
    rfl

/-- **What is escaped reads back.** -/
theorem unescape_escape (hmode : mode ≠ .host) : unescape mode (escape mode s) = some s :=
  unescape_escape_of (unescape_escapeByte hmode)

/-- A segment is read back as a part of a path, too. -/
theorem unescape_path_escape : unescape .path (escape .pathSegment s) = some s :=
  unescape_escape_of (forall_byte (by decide +kernel))

/-- The bytes of an escaped text. -/
theorem forall_mem_escape {P : UInt8 → Prop} [DecidablePred P]
    (h : ∀ n < 256, (escapeByte mode (UInt8.ofNat n)).all (fun b => decide (P b)) = true) :
    ∀ b ∈ escape mode s, P b := by
  intro b hb
  obtain ⟨c, -, hc⟩ := List.mem_flatMap.mp hb
  have hall := forall_byte (P := fun c => (escapeByte mode c).all (fun b => decide (P b)) = true) h c
  exact forall_mem_of_all hall b hc

end RoundTrips

end Percent

end Portainer
