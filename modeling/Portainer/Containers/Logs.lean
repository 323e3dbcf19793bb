import Mathlib
import Portainer.Common.Text
import Portainer.Common.Matching
/-!
# Containers — the lines of a log

`helpers/logHelper`. A log comes in frames, each a header of eight bytes and a
line, read as one character a byte. The headers are removed by a pattern that
looks for eight characters behind a line feed, and the lines are cut out of
what is left. `demultiplexes_iff` says when the lines are those of the frames:
when no byte of a length, but in the first frame, is a line break itself.

`tokenize` stands for the package that finds the escape sequences, `palette`
for the colours.
-/

namespace Portainer

namespace Logs

open Pattern

abbrev Text := List Char

/-- A token: a text, a colour given by numbers, or something else, by its
type. -/
inductive Token where
  | text (text : Text)
  | moreColor (values : List ℕ)
  | bgMoreColor (values : List ℕ)
  | other (type : String)

structure Span where
  foregroundColor : Option String
  backgroundColor : Option String
  text : Text
deriving DecidableEq

structure Entry where
  line : Text
  spans : List Span
deriving DecidableEq

/-! ## Headers and escape codes -/

/-- `/\n(.{8})/`. -/
def headerPattern : Pattern := seq (one (· == '\n')) (times (fun c => !JsText.isTerminator c) 8)

def stripHeaders (logs : Text) : Text := replaceAll headerPattern ['\n', '\r'] (logs.drop 8)

def isEscape (c : Char) : Bool := c == '\x1b' || c == '\u009b'

/-- `[[()#;?]`. -/
def isOpening (c : Char) : Bool := c ∈ ['[', '(', ')', '#', ';', '?']

/-- `[0-9A-ORZcf-nqry=><]`. -/
def isFinal (c : Char) : Bool :=
  c.isDigit || ('A' ≤ c && c ≤ 'O') || c == 'R' || c == 'Z' || c == 'c' || ('f' ≤ c && c ≤ 'n') || c == 'q' ||
    c == 'r' || c == 'y' || c == '=' || c == '>' || c == '<'

/-- `[0-9]{1,4}(?:;[0-9]{0,4})*`. -/
def numbersPattern : Pattern :=
  seq (seq (one Char.isDigit) (atMost Char.isDigit 3)) (many (seq (one (· == ';')) (atMost Char.isDigit 4)))

/-- The opening characters, as many as there are or fewer. -/
def openingPattern : Pattern := many (one isOpening)

def escapePattern : Pattern := seq (one isEscape) (seq openingPattern (seq (opt numbersPattern) (one isFinal)))

def stripEscapeCodes (logs : Text) : Text := replaceAll escapePattern [] logs

/-! ## Colours -/

variable (palette : ℕ → Option (List ℕ))

/-- A component that is not there is written as a word. -/
def component (rgb : List ℕ) (i : ℕ) : String := (rgb[i]?).elim "undefined" toString

def cssColorFromRgb (rgb : List ℕ) : String :=
  "rgb(" ++ component rgb 0 ++ ", " ++ component rgb 1 ++ ", " ++ component rgb 2 ++ ")"

/-- The colour of the numbers behind the type of a token. -/
def extendedColorForToken (values : List ℕ) : String :=
  if values.head? = some 2 then cssColorFromRgb values.tail
  else if values.head? = some 5 then ((values[1]?).bind palette).elim "" cssColorFromRgb
  else ""

def foregroundNames : List String :=
  ["black", "red", "green", "yellow", "blue", "magenta", "cyan", "white", "brightBlack", "brightRed", "brightGreen",
    "brightYellow", "brightBlue", "brightMagenta", "brightCyan", "brightWhite"]

def backgroundNames : List String :=
  ["bgBlack", "bgRed", "bgGreen", "bgYellow", "bgBlue", "bgMagenta", "bgCyan", "bgWhite", "bgBrightBlack",
    "bgBrightRed", "bgBrightGreen", "bgBrightYellow", "bgBrightBlue", "bgBrightMagenta", "bgBrightCyan", "bgBrightWhite"]

/-- The colour of a name, by its place in the palette. -/
def colorByName (names : List String) (type : String) : Option (List ℕ) := (names.idxOf? type).bind palette

/-! ## Formatting -/

/-- What `formatLogs` has at a token. -/
structure Formatting where
  formattedLogs : List Entry := []
  foregroundColor : Option String := none
  backgroundColor : Option String := none
  line : Text := []
  spans : List Span := []

/-- The line is at its end. -/
def Formatting.endLine (s : Formatting) : Formatting :=
  { s with formattedLogs := s.formattedLogs ++ [⟨s.line, s.spans⟩], line := [], spans := [] }

def Formatting.addText (s : Formatting) (tokenLine : Text) : Formatting :=
  { s with
    line := s.line ++ stripEscapeCodes tokenLine
    spans := s.spans ++ [⟨s.foregroundColor, s.backgroundColor, stripEscapeCodes tokenLine⟩] }

/-- The lines of a text. -/
def Formatting.addLines (s : Formatting) : List Text → Formatting
  | [] => s
  | first :: rest => rest.foldl (fun s tokenLine => s.endLine.addText tokenLine) (s.addText first)

/-- A token that is neither a text nor a colour of numbers. -/
def Formatting.setColor (s : Formatting) (type : String) : Formatting :=
  match colorByName palette foregroundNames type, colorByName palette backgroundNames type with
  | some rgb, _ => { s with foregroundColor := some (cssColorFromRgb rgb) }
  | none, some rgb => { s with backgroundColor := some (cssColorFromRgb rgb) }
  | none, none =>
    if type = "fgDefault" then { s with foregroundColor := none }
    else if type = "bgDefault" then { s with backgroundColor := none }
    else if type = "reset" then { s with foregroundColor := none, backgroundColor := none }
    else s

def Formatting.addToken (s : Formatting) : Token → Formatting
  | .text text => s.addLines (text.splitOn '\n')
  | .moreColor values => { s with foregroundColor := some (extendedColorForToken palette values) }
  | .bgMoreColor values => { s with backgroundColor := some (extendedColorForToken palette values) }
  | .other type => s.setColor palette type

/-- The last line is one if it is not empty. -/
def Formatting.entries (s : Formatting) : List Entry :=
  s.formattedLogs ++ if s.line ≠ [] then [⟨s.line, s.spans⟩] else []

def formatLogs (tokenize : Text → List Token) (logs : Text) (skipHeaders : Bool) : List Entry :=
  ((tokenize (if skipHeaders then stripHeaders logs else logs)).foldl (Formatting.addToken palette) {}).entries

/-! ## Frames -/

/-- The stream that a frame belongs to. -/
inductive Stream where
  | stdin
  | stdout
  | stderr

def Stream.byte : Stream → ℕ
  | stdin => 0
  | stdout => 1
  | stderr => 2

/-- The bytes of a length, the highest first. -/
def lengthBytes (n : ℕ) : List ℕ := [n / 2 ^ 24 % 256, n / 2 ^ 16 % 256, n / 2 ^ 8 % 256, n % 256]

/-- **A frame**: a line without a line feed and without escape sequences, whose
length with the line feed is a number of four bytes. -/
structure Frame where
  stream : Stream
  line : Text
  notMem_line : '\n' ∉ line
  free_line : Free escapePattern line
  length_lt : line.length + 1 < 2 ^ 32

namespace Frame

def size (f : Frame) : ℕ := f.line.length + 1

def header (f : Frame) : Text := ([f.stream.byte, 0, 0, 0] ++ lengthBytes f.size).map Char.ofNat

def text (f : Frame) : Text := f.header ++ f.line ++ ['\n']

/-- No byte of the length is a line break. -/
def Unbroken (f : Frame) : Prop := ∀ b ∈ lengthBytes f.size, b ≠ 10 ∧ b ≠ 13

end Frame

/-! ## The property -/

/-- The text of a token. -/
def Token.toText : Token → Text
  | .text t => t
  | _ => []

/-- **What is known of the package**: a text without escape sequences is one
token, or none if it is empty; and neither a line feed nor the character of
the byte zero belongs to an escape sequence, so they stay in the texts. -/
structure Tokenizes (tokenize : Text → List Token) : Prop where
  free : ∀ s, Free escapePattern s → tokenize s = [.text s] ∨ s = [] ∧ tokenize s = []
  count : ∀ s c, c = '\n' ∨ c = '\x00' → ((tokenize s).flatMap Token.toText).count c = s.count c

/-- An entry shows a line: it is the line, or has a carriage return before it,
and its spans are the line of the entry. -/
def Shows (f : Frame) (e : Entry) : Prop :=
  (e.line = f.line ∨ e.line = '\r' :: f.line) ∧ (e.spans.map Span.text).flatten = e.line

/-- **The log is demultiplexed**: one entry for each frame, in order. -/
def Demultiplexes (tokenize : Text → List Token) (frames : List Frame) : Prop :=
  List.Forall₂ Shows frames (formatLogs palette tokenize (frames.flatMap Frame.text) true)

/-! ## The patterns -/

theorem headerPattern_cons (c : Char) (s : Text) (h : c ≠ '\n') : headerPattern (c :: s) = [] := by
  have hc : (c == '\n') = false := beq_eq_false_iff_ne.mpr h
  rw [headerPattern, seq, one, hc]
  rfl

theorem headerPattern_newline (s : Text) :
    headerPattern ('\n' :: s) = times (fun c => !JsText.isTerminator c) 8 s := List.flatMap_singleton _ s

/-- Eight characters are matched if none is a line break. -/
theorem times_eight (n : ℕ) : ∀ s t : Text, s.length = n →
    times (fun c => !JsText.isTerminator c) n (s ++ t) = if ∀ c ∈ s, JsText.isTerminator c = false then [t] else [] := by
  induction n with
  | zero =>
    intro s t hlength
    rw [List.length_eq_zero_iff.mp hlength]
    exact (if_pos (List.forall_mem_nil _)).symm
  | succ n ih =>
    intro s t hlength
    cases s with
    | nil => cases hlength
    | cons c s =>
      rw [times, seq, List.cons_append, one]
      by_cases hc : JsText.isTerminator c = true
      · rw [if_neg (by rw [hc]; decide), List.flatMap_nil, if_neg]
        intro h
        have hfalse := h c List.mem_cons_self
        rw [hc] at hfalse
        cases hfalse
      · have hfalse : JsText.isTerminator c = false := Bool.eq_false_iff.mpr hc
        have hlength' : s.length = n := Nat.succ.inj hlength
        rw [if_pos (by rw [hfalse]; rfl), List.flatMap_singleton, ih s t hlength']
        refine if_congr ?_ rfl rfl
        rw [List.forall_mem_cons]
        exact (and_iff_right hfalse).symm

theorem headerPattern_match {s t : Text} (hlength : s.length = 8) :
    headerPattern ('\n' :: (s ++ t)) = if ∀ c ∈ s, JsText.isTerminator c = false then [t] else [] := by
  rw [headerPattern_newline]
  exact times_eight 8 s t hlength

theorem within_times {p : Char → Bool} {k : Char → Prop} (h : ∀ c, p c = true → k c) : ∀ n, Within k (times p n)
  | 0 => within_nothing
  | n + 1 => (within_one h).seq (within_times h n)

/-- A header that is removed leaves as many line feeds. -/
theorem count_headerPattern (s : Text) : ∀ rest ∈ headerPattern s, ∃ m, m ≠ [] ∧ s = m ++ rest ∧
    m.count '\n' = ['\n', '\r'].count '\n' := by
  intro rest hrest
  cases s with
  | nil => nomatch hrest
  | cons c s =>
    by_cases hc : c = '\n'
    · subst hc
      rw [headerPattern_newline] at hrest
      obtain ⟨m, rfl, hm⟩ := within_times (k := fun c => c ≠ '\n') (fun c hc heq => by
        rw [heq] at hc
        exact absurd hc (by decide)) 8 s rest hrest
      refine ⟨'\n' :: m, List.cons_ne_nil _ _, rfl, ?_⟩
      rw [List.count_cons_self, List.count_eq_zero_of_not_mem fun hmem => hm _ hmem rfl]
      rfl
    · rw [headerPattern_cons c s hc] at hrest
      nomatch hrest

theorem count_stripHeaders (logs : Text) : (stripHeaders logs).count '\n' = (logs.drop 8).count '\n' :=
  count_replaceAll count_headerPattern _

/-- What an escape sequence is made of. -/
def InEscape (c : Char) : Prop :=
  isEscape c = true ∨ isOpening c = true ∨ c.isDigit = true ∨ c = ';' ∨ isFinal c = true

theorem inEscape_digit (c : Char) (h : c.isDigit = true) : InEscape c := .inr (.inr (.inl h))

theorem within_numbersPattern : Within InEscape numbersPattern := by
  refine ((within_one inEscape_digit).seq (within_atMost inEscape_digit 3)).seq
    (((within_one ?_).seq (within_atMost inEscape_digit 4)).many)
  exact fun c h => .inr (.inr (.inr (.inl (beq_iff_eq.mp h))))

/-- What follows the first character of an escape sequence. -/
theorem within_behindEscape : Within InEscape (seq openingPattern (seq (opt numbersPattern) (one isFinal))) := by
  refine ((within_one fun c h => .inr (.inl h)).many).seq (within_numbersPattern.opt.seq (within_one ?_))
  exact fun c h => .inr (.inr (.inr (.inr h)))

theorem within_escapePattern : Within InEscape escapePattern := (within_one fun _ h => .inl h).seq within_behindEscape

theorem proper_escapePattern : Proper escapePattern := proper_one.seq within_behindEscape

/-- No escape sequence goes beyond a character that belongs to none. -/
theorem stopsAt_escapePattern {c : Char} (h : ¬ InEscape c) : StopsAt c escapePattern := by
  have hdigit : c.isDigit = false := Bool.eq_false_iff.mpr fun hc => h (.inr (.inr (.inl hc)))
  have hsemicolon : (c == ';') = false := Bool.eq_false_iff.mpr fun hc => h (.inr (.inr (.inr (.inl (beq_iff_eq.mp hc)))))
  have hnumbers : StopsAt c numbersPattern := by
    have hseparated : StopsAt c (seq (one (· == ';')) (atMost Char.isDigit 4)) :=
      StopsAt.seq (a := one (· == ';')) (stopsAt_one hsemicolon) (stopsAt_atMost hdigit 4)
    refine ((stopsAt_one hdigit).seq (stopsAt_atMost hdigit 3)).seq (hseparated.many ?_)
    exact proper_one.seq (within_atMost inEscape_digit 4)
  refine (stopsAt_one ?_).seq (((stopsAt_one ?_).many proper_one).seq (hnumbers.opt.seq (stopsAt_one ?_)))
  · exact Bool.eq_false_iff.mpr fun hc => h (.inl hc)
  · exact Bool.eq_false_iff.mpr fun hc => h (.inr (.inl hc))
  · exact Bool.eq_false_iff.mpr fun hc => h (.inr (.inr (.inr (.inr hc))))

theorem escapePattern_cons {c : Char} (h : ¬ InEscape c) (s : Text) : escapePattern (c :: s) = [] := by
  have hc : isEscape c = false := Bool.eq_false_iff.mpr fun hc => h (.inl hc)
  rw [escapePattern, seq, one, hc]
  rfl

theorem not_inEscape {c : Char} (hc : c = '\n' ∨ c = '\r' ∨ c = '\x00') : ¬ InEscape c := by
  have hnone : isEscape c = false ∧ isOpening c = false ∧ c.isDigit = false ∧ c ≠ ';' ∧ isFinal c = false := by
    rcases hc with rfl | rfl | rfl <;> decide
  obtain ⟨hescape, hopening, hdigit, hsemicolon, hfinal⟩ := hnone
  rintro (h | h | h | h | h)
  · rw [hescape] at h
    nomatch h
  · rw [hopening] at h
    nomatch h
  · rw [hdigit] at h
    nomatch h
  · exact hsemicolon h
  · rw [hfinal] at h
    nomatch h

/-- A character that belongs to no escape sequence stays. -/
theorem count_stripEscapeCodes {c : Char} (h : ¬ InEscape c) (s : Text) : (stripEscapeCodes s).count c = s.count c := by
  refine count_replaceAll (fun s rest hrest => ?_) s
  obtain ⟨m, rfl, hm⟩ := within_escapePattern s rest hrest
  have hlt := proper_escapePattern _ rest hrest
  refine ⟨m, fun hnil => ?_, rfl, List.count_eq_zero_of_not_mem fun hmem => h (hm c hmem)⟩
  rw [hnil] at hlt
  exact lt_irrefl _ hlt

/-! ## What is left of the headers -/

theorem stripHeaders_skip {s : Text} (h : '\n' ∉ s) (t : Text) :
    replaceAll headerPattern ['\n', '\r'] (s ++ t) = s ++ replaceAll headerPattern ['\n', '\r'] t := by
  refine replaceAll_append fun m hne hm => ?_
  cases m with
  | nil => exact absurd rfl hne
  | cons c m =>
    refine headerPattern_cons c (m ++ t) fun heq => h ?_
    rw [← heq]
    exact hm.subset List.mem_cons_self

/-- What becomes of a header: it is removed, or stays if a character of it is a
line break. -/
def leftOf (f : Frame) : Text := if ∀ c ∈ f.header, JsText.isTerminator c = false then ['\r'] else f.header

theorem length_header (f : Frame) : f.header.length = 8 := List.length_map _

/-- A frame without a line feed in its header, behind a line feed. -/
theorem stripHeaders_frame {f : Frame} (h : '\n' ∉ f.header) (t : Text) :
    replaceAll headerPattern ['\n', '\r'] ('\n' :: (f.text ++ t)) =
      '\n' :: (leftOf f ++ f.line ++ replaceAll headerPattern ['\n', '\r'] ('\n' :: t)) := by
  have htext : f.text ++ t = f.header ++ (f.line ++ '\n' :: t) := by
    rw [Frame.text, List.append_assoc, List.append_assoc]
    rfl
  have hmatch := headerPattern_match (t := f.line ++ '\n' :: t) (length_header f)
  rw [htext, leftOf]
  by_cases hclean : ∀ c ∈ f.header, JsText.isTerminator c = false
  · rw [if_pos hclean] at hmatch ⊢
    have hreplace := replaceAll_match (a := headerPattern) (r := ['\n', '\r']) (m := '\n' :: f.header)
      (s := f.line ++ '\n' :: t) (List.cons_ne_nil _ _) (by rw [List.cons_append, hmatch]; rfl)
    rw [List.cons_append] at hreplace
    rw [hreplace, stripHeaders_skip f.notMem_line]
    rfl
  · rw [if_neg hclean] at hmatch ⊢
    rw [replaceAll_skip hmatch, stripHeaders_skip h, stripHeaders_skip f.notMem_line, List.append_assoc]

/-- **The frames but the first**, if no header has a line feed. -/
theorem stripHeaders_frames {frames : List Frame} (h : ∀ f ∈ frames, '\n' ∉ f.header) :
    replaceAll headerPattern ['\n', '\r'] ('\n' :: frames.flatMap Frame.text) =
      '\n' :: frames.flatMap fun f => leftOf f ++ f.line ++ ['\n'] := by
  induction frames with
  | nil => rfl
  | cons f frames ih =>
    rw [List.flatMap_cons, stripHeaders_frame (h f List.mem_cons_self), ih fun g hg => h g (List.mem_cons_of_mem f hg),
      List.flatMap_cons, List.append_assoc (leftOf f ++ f.line)]
    rfl

theorem drop_frames (f : Frame) (frames : List Frame) :
    ((f :: frames).flatMap Frame.text).drop 8 = f.line ++ '\n' :: frames.flatMap Frame.text := by
  have htext : (f :: frames).flatMap Frame.text = f.header ++ (f.line ++ '\n' :: frames.flatMap Frame.text) := by
    rw [List.flatMap_cons, Frame.text, List.append_assoc, List.append_assoc]
    rfl
  rw [htext, List.drop_left' (length_header f)]

theorem stripHeaders_eq {f : Frame} {frames : List Frame} (h : ∀ g ∈ frames, '\n' ∉ g.header) :
    stripHeaders ((f :: frames).flatMap Frame.text) =
      f.line ++ '\n' :: frames.flatMap fun g => leftOf g ++ g.line ++ ['\n'] := by
  rw [stripHeaders, drop_frames, stripHeaders_skip f.notMem_line, stripHeaders_frames h]

/-! ## What the lines are made of -/

variable {palette : ℕ → Option (List ℕ)}

/-- How many lines there are so far, and how often a character. -/
def Formatting.count (s : Formatting) (c : Char) : ℕ := (s.formattedLogs.map fun e => e.line.count c).sum + s.line.count c

theorem count_addText {c : Char} (h : ¬ InEscape c) (s : Formatting) (tokenLine : Text) :
    (s.addText tokenLine).count c = s.count c + tokenLine.count c := by
  show _ + (s.line ++ stripEscapeCodes tokenLine).count c = _
  rw [List.count_append, count_stripEscapeCodes h, ← Nat.add_assoc]
  rfl

theorem count_endLine (c : Char) (s : Formatting) : s.endLine.count c = s.count c := by
  show ((s.formattedLogs ++ [(⟨s.line, s.spans⟩ : Entry)]).map fun e => e.line.count c).sum + 0 = _
  rw [List.map_append, List.sum_append]
  rfl

theorem addLines_rest {c : Char} (h : ¬ InEscape c) (rest : List Text) : ∀ s : Formatting,
    (rest.foldl (fun s tokenLine => s.endLine.addText tokenLine) s).formattedLogs.length =
        s.formattedLogs.length + rest.length ∧
      (rest.foldl (fun s tokenLine => s.endLine.addText tokenLine) s).count c = s.count c + rest.flatten.count c := by
  induction rest with
  | nil => exact fun s => ⟨rfl, rfl⟩
  | cons tokenLine rest ih =>
    intro s
    obtain ⟨hlength, hcount⟩ := ih (s.endLine.addText tokenLine)
    rw [List.foldl_cons, hlength, hcount, count_addText h, count_endLine, List.flatten_cons, List.count_append]
    refine ⟨?_, by omega⟩
    show (s.formattedLogs ++ [(⟨s.line, s.spans⟩ : Entry)]).length + rest.length = _
    rw [List.length_append, List.length_singleton, List.length_cons]
    omega

theorem splitOn_count (s : Text) : (s.splitOn '\n').length = s.count '\n' + 1 ∧
    ∀ c ≠ '\n', (s.splitOn '\n').flatten.count c = s.count c := by
  induction s with
  | nil => exact ⟨rfl, fun c _ => rfl⟩
  | cons d s ih =>
    obtain ⟨hlength, hcount⟩ := ih
    rw [List.splitOn_cons_eq_if_modifyHead]
    by_cases hd : d = '\n'
    · rw [if_pos (beq_iff_eq.mpr hd), hd, List.length_cons, hlength, List.count_cons_self]
      refine ⟨rfl, fun c hc => ?_⟩
      rw [List.flatten_cons, List.nil_append, hcount c hc, List.count_cons_of_ne hc.symm]
    · obtain ⟨first, rest, hsplit⟩ := List.exists_cons_of_ne_nil (List.splitOn_ne_nil '\n' s)
      rw [if_neg (by simpa using hd), List.length_modifyHead, hlength, List.count_cons_of_ne hd]
      refine ⟨rfl, fun c hc => ?_⟩
      have hrest := hcount c hc
      rw [hsplit, List.flatten_cons] at hrest
      rw [hsplit, List.modifyHead_cons, List.flatten_cons, List.cons_append, List.count_cons, hrest, List.count_cons]

/-- **A token adds its line feeds as lines**, and its characters. -/
theorem addToken_count {c : Char} (h : ¬ InEscape c) (hc : c ≠ '\n') (s : Formatting) (token : Token) :
    (s.addToken palette token).formattedLogs.length = s.formattedLogs.length + token.toText.count '\n' ∧
      (s.addToken palette token).count c = s.count c + token.toText.count c := by
  cases token with
  | text t =>
    obtain ⟨first, rest, hsplit⟩ := List.exists_cons_of_ne_nil (List.splitOn_ne_nil '\n' t)
    obtain ⟨hlines, hchars⟩ := splitOn_count t
    obtain ⟨hlength, hcount⟩ := addLines_rest h rest (s.addText first)
    have hchars := hchars c hc
    rw [hsplit, List.length_cons] at hlines
    rw [hsplit, List.flatten_cons, List.count_append] at hchars
    rw [Formatting.addToken, hsplit, Formatting.addLines, hlength, hcount, count_addText h, Token.toText]
    refine ⟨?_, by omega⟩
    show s.formattedLogs.length + rest.length = _
    omega
  | moreColor values => exact ⟨rfl, rfl⟩
  | bgMoreColor values => exact ⟨rfl, rfl⟩
  | other type =>
    rw [Formatting.addToken, Formatting.setColor]
    split
    · exact ⟨rfl, rfl⟩
    · exact ⟨rfl, rfl⟩
    · split
      · exact ⟨rfl, rfl⟩
      · split
        · exact ⟨rfl, rfl⟩
        · split <;> exact ⟨rfl, rfl⟩

theorem foldl_addToken_count {c : Char} (h : ¬ InEscape c) (hc : c ≠ '\n') (tokens : List Token) : ∀ s : Formatting,
    (tokens.foldl (Formatting.addToken palette) s).formattedLogs.length =
        s.formattedLogs.length + (tokens.flatMap Token.toText).count '\n' ∧
      (tokens.foldl (Formatting.addToken palette) s).count c = s.count c + (tokens.flatMap Token.toText).count c := by
  induction tokens with
  | nil => exact fun s => ⟨rfl, rfl⟩
  | cons token tokens ih =>
    intro s
    obtain ⟨hlength, hcount⟩ := ih (s.addToken palette token)
    obtain ⟨hlength', hcount'⟩ := @addToken_count palette c h hc s token
    rw [List.foldl_cons, hlength, hcount, hlength', hcount', List.flatMap_cons, List.count_append, List.count_append]
    exact ⟨by omega, by omega⟩

/-! ## Headers -/

theorem isTerminator_ofNat {b : ℕ} (hb : b < 256) : JsText.isTerminator (Char.ofNat b) = true ↔ b = 10 ∨ b = 13 := by
  have hnat : (Char.ofNat b).toNat = b := by
    have hvalid : b.isValidChar := .inl (by omega)
    rw [Char.ofNat, dif_pos hvalid]
    rfl
  have hmem : JsText.isTerminator (Char.ofNat b) = true ↔ Char.ofNat b ∈ JsText.terminators := decide_eq_true_iff
  rw [hmem, JsText.terminators, List.mem_cons, List.mem_cons, List.mem_cons, List.mem_singleton]
  constructor
  · rintro (h | h | h | h)
    · rw [h] at hnat
      exact .inl hnat.symm
    · rw [h] at hnat
      exact .inr hnat.symm
    · rw [h] at hnat
      have hlarge : 8232 = b := hnat
      omega
    · rw [h] at hnat
      have hlarge : 8233 = b := hnat
      omega
  · rintro (rfl | rfl)
    · exact .inl rfl
    · exact .inr (.inl rfl)

theorem lt_of_mem_lengthBytes {n b : ℕ} (h : b ∈ lengthBytes n) : b < 256 := by
  rw [lengthBytes, List.mem_cons, List.mem_cons, List.mem_cons, List.mem_singleton] at h
  omega

/-- A header has no line break if the length has none. -/
theorem header_clean_iff (f : Frame) : (∀ c ∈ f.header, JsText.isTerminator c = false) ↔ f.Unbroken := by
  have hstream : f.stream.byte < 3 := by cases f.stream <;> decide
  have hbyte : ∀ b < 256, JsText.isTerminator (Char.ofNat b) = false ↔ b ≠ 10 ∧ b ≠ 13 := by
    intro b hb
    rw [← Bool.not_eq_true, isTerminator_ofNat hb, not_or]
  rw [Frame.header, List.forall_mem_map, List.forall_mem_append, Frame.Unbroken]
  refine (and_iff_right ?_).trans (forall₂_congr fun b hb => hbyte b (lt_of_mem_lengthBytes hb))
  intro b hb
  rw [List.mem_cons, List.mem_cons, List.mem_cons, List.mem_singleton] at hb
  exact (hbyte b (by omega)).mpr ⟨by omega, by omega⟩

theorem notMem_header {f : Frame} (h : ∀ c ∈ f.header, JsText.isTerminator c = false) : '\n' ∉ f.header := by
  intro hmem
  have hfalse := h '\n' hmem
  revert hfalse
  decide

/-- Three bytes of a header are zero. -/
theorem count_header (f : Frame) : 3 ≤ f.header.count '\x00' := by
  have hheader : f.header = Char.ofNat f.stream.byte :: (List.replicate 3 '\x00' ++ (lengthBytes f.size).map Char.ofNat) := rfl
  rw [hheader, List.count_cons, List.count_append, List.count_replicate_self]
  omega

/-! ## Headers that are removed -/

theorem free_nil : Free escapePattern [] := by
  intro t ht
  rw [List.suffix_nil.mp ht]
  rfl

/-- What is left of clean frames has no escape sequence. -/
theorem free_frames (frames : List Frame) : Free escapePattern (frames.flatMap fun f => '\r' :: f.line ++ ['\n']) := by
  have hnewline := not_inEscape (c := '\n') (.inl rfl)
  have hreturn := not_inEscape (c := '\r') (.inr (.inl rfl))
  induction frames with
  | nil => exact free_nil
  | cons f frames ih =>
    have hline : Free escapePattern (f.line ++ '\n' :: frames.flatMap fun f => '\r' :: f.line ++ ['\n']) :=
      f.free_line.append (stopsAt_escapePattern hnewline) ih (escapePattern_cons hnewline)
    have hwhole := free_nil.append (stopsAt_escapePattern hreturn) hline (escapePattern_cons hreturn)
    rw [List.flatMap_cons, List.cons_append, List.cons_append, List.append_assoc]
    exact hwhole

theorem splitOn_lines {lines : List Text} (h : ∀ l ∈ lines, '\n' ∉ l) :
    (lines.flatMap (· ++ ['\n'])).splitOn '\n' = lines ++ [[]] := by
  induction lines with
  | nil => rfl
  | cons l lines ih =>
    rw [List.flatMap_cons, List.append_assoc, List.singleton_append,
      List.splitOn_append_cons_self_of_not_mem (h l List.mem_cons_self), ih fun l' hl' => h l' (List.mem_cons_of_mem l hl'),
      List.cons_append]

/-- The entry of a line. -/
def plainEntry (line : Text) : Entry := ⟨line, [⟨none, none, line⟩]⟩

theorem addLines_free (rest : List Text) : ∀ s : Formatting, s.foregroundColor = none → s.backgroundColor = none →
    (∀ l ∈ rest, Free escapePattern l) →
    ((rest ++ [[]]).foldl (fun (s : Formatting) tokenLine => s.endLine.addText tokenLine) s).entries =
      s.formattedLogs ++ ⟨s.line, s.spans⟩ :: rest.map plainEntry := by
  induction rest with
  | nil =>
    intro s _ _ _
    show s.formattedLogs ++ [(⟨s.line, s.spans⟩ : Entry)] ++ [] = _
    rw [List.append_nil]
    rfl
  | cons l rest ih =>
    intro s hfg hbg hfree
    have hl : stripEscapeCodes l = l := (hfree l List.mem_cons_self).replaceAll
    rw [List.cons_append, List.foldl_cons,
      ih (s.endLine.addText l) hfg hbg fun l' hl' => hfree l' (List.mem_cons_of_mem l hl')]
    show s.formattedLogs ++ [(⟨s.line, s.spans⟩ : Entry)] ++
      ⟨[] ++ stripEscapeCodes l, [⟨s.foregroundColor, s.backgroundColor, stripEscapeCodes l⟩]⟩ :: rest.map plainEntry = _
    rw [hl, hfg, hbg, List.append_assoc]
    rfl

variable {tokenize : Text → List Token}

/-- **Clean frames are demultiplexed.** -/
theorem demultiplexes_of_unbroken (htokenize : Tokenizes tokenize) {frames : List Frame}
    (h : ∀ f ∈ frames.tail, f.Unbroken) : Demultiplexes palette tokenize frames := by
  cases frames with
  | nil =>
    have hentries : formatLogs palette tokenize ([].flatMap Frame.text) true = [] := by
      show ((tokenize []).foldl (Formatting.addToken palette) {}).entries = []
      obtain htoken | ⟨-, htoken⟩ := htokenize.free [] free_nil
      · rw [htoken]
        rfl
      · rw [htoken]
        rfl
    rw [Demultiplexes, hentries]
    exact .nil
  | cons f frames =>
    have hclean : ∀ g ∈ frames, ∀ c ∈ g.header, JsText.isTerminator c = false := fun g hg => (header_clean_iff g).mpr (h g hg)
    have hleft : (frames.flatMap fun g => leftOf g ++ g.line ++ ['\n']) =
        frames.flatMap fun g => '\r' :: g.line ++ ['\n'] := by
      refine List.flatMap_congr fun g hg => ?_
      rw [leftOf, if_pos (hclean g hg)]
      rfl
    have hstrip := stripHeaders_eq (f := f) fun g hg => notMem_header (hclean g hg)
    rw [hleft] at hstrip
    -- no escape sequence is left, so the package returns the whole text
    have hnewline := not_inEscape (c := '\n') (.inl rfl)
    have hfree := f.free_line.append (stopsAt_escapePattern hnewline) (free_frames frames) (escapePattern_cons hnewline)
    rw [← hstrip] at hfree
    have htoken : tokenize (stripHeaders ((f :: frames).flatMap Frame.text)) =
        [.text (stripHeaders ((f :: frames).flatMap Frame.text))] := by
      obtain htoken | ⟨hnil, -⟩ := htokenize.free _ hfree
      · exact htoken
      · rw [hstrip] at hnil
        exact absurd hnil (List.append_ne_nil_of_right_ne_nil _ (List.cons_ne_nil _ _))
    have hlines : ((frames.map fun g => '\r' :: g.line).flatMap (· ++ ['\n'])).splitOn '\n' =
        (frames.map fun g => '\r' :: g.line) ++ [[]] := by
      refine splitOn_lines fun l hl => ?_
      obtain ⟨g, -, rfl⟩ := List.mem_map.mp hl
      rw [List.mem_cons, not_or]
      exact ⟨by decide, g.notMem_line⟩
    have hentries : formatLogs palette tokenize ((f :: frames).flatMap Frame.text) true =
        plainEntry f.line :: (frames.map fun g => '\r' :: g.line).map plainEntry := by
      rw [formatLogs, if_pos rfl, htoken, List.foldl_cons, List.foldl_nil, Formatting.addToken, hstrip,
        List.splitOn_append_cons_self_of_not_mem f.notMem_line]
      rw [List.flatMap_map] at hlines
      rw [hlines, Formatting.addLines, addLines_free _ _ rfl rfl]
      · show [] ++ (⟨[] ++ stripEscapeCodes f.line, [] ++ [⟨none, none, stripEscapeCodes f.line⟩]⟩ : Entry) :: _ = _
        rw [show stripEscapeCodes f.line = f.line from f.free_line.replaceAll]
        rfl
      · intro l hl
        obtain ⟨g, -, rfl⟩ := List.mem_map.mp hl
        have hreturn := not_inEscape (c := '\r') (.inr (.inl rfl))
        exact free_nil.append (stopsAt_escapePattern hreturn) g.free_line (escapePattern_cons hreturn)
    rw [Demultiplexes, hentries, List.map_map]
    refine .cons ⟨.inl rfl, ?_⟩ ?_
    · exact List.append_nil f.line
    · rw [List.forall₂_map_right_iff, List.forall₂_same]
      exact fun g _ => ⟨.inr rfl, List.append_nil _⟩

/-! ## Headers that stay -/

/-- No header has a line feed if there are no more than the lines have. -/
theorem notMem_headers {frames : List Frame} :
    frames.length ≤ (frames.flatMap Frame.text).count '\n' ∧
      ((frames.flatMap Frame.text).count '\n' ≤ frames.length → ∀ f ∈ frames, '\n' ∉ f.header) := by
  induction frames with
  | nil => exact ⟨le_rfl, fun _ => List.forall_mem_nil _⟩
  | cons f frames ih =>
    obtain ⟨hle, hnone⟩ := ih
    have htext : f.text.count '\n' = f.header.count '\n' + 1 := by
      rw [Frame.text, List.count_append, List.count_append, List.count_eq_zero_of_not_mem f.notMem_line]
      rfl
    rw [List.flatMap_cons, List.count_append, htext, List.length_cons]
    refine ⟨by omega, fun hcount => List.forall_mem_cons.mpr ⟨?_, hnone (by omega)⟩⟩
    exact List.count_eq_zero.mp (by omega)

/-- The entries have the line feeds and the zeros of the text. -/
theorem formatLogs_count (htokenize : Tokenizes tokenize) (logs : Text) :
    (stripHeaders logs).count '\n' ≤ (formatLogs palette tokenize logs true).length ∧
      ((formatLogs palette tokenize logs true).map fun e => e.line.count '\x00').sum =
        (stripHeaders logs).count '\x00' := by
  obtain ⟨hlength, hcount⟩ := @foldl_addToken_count palette '\x00' (not_inEscape (.inr (.inr rfl)))
    (by decide) (tokenize (stripHeaders logs)) {}
  rw [htokenize.count _ _ (.inl rfl)] at hlength
  rw [htokenize.count _ _ (.inr rfl)] at hcount
  have hentries : formatLogs palette tokenize logs true =
      ((tokenize (stripHeaders logs)).foldl (Formatting.addToken palette) {}).entries := rfl
  rw [hentries]
  generalize (tokenize (stripHeaders logs)).foldl (Formatting.addToken palette) {} = s at hlength hcount
  have hstart : s.formattedLogs.length = (stripHeaders logs).count '\n' := hlength.trans (Nat.zero_add _)
  have hzero : s.count '\x00' = (stripHeaders logs).count '\x00' := hcount.trans (Nat.zero_add _)
  rw [Formatting.entries, List.length_append, List.map_append, List.sum_append, ← hstart, ← hzero]
  refine ⟨Nat.le_add_right _ _, congrArg _ ?_⟩
  by_cases hline : s.line = []
  · rw [if_neg (not_not.mpr hline), hline]
    rfl
  · rw [if_pos hline]
    rfl

/-- No header stays if there are no more zeros than the lines have. -/
theorem unbroken_of_count {frames : List Frame} :
    (frames.map fun f => f.line.count '\x00').sum ≤ (frames.flatMap fun f => leftOf f ++ f.line ++ ['\n']).count '\x00' ∧
      ((frames.flatMap fun f => leftOf f ++ f.line ++ ['\n']).count '\x00' ≤
        (frames.map fun f => f.line.count '\x00').sum → ∀ f ∈ frames, f.Unbroken) := by
  induction frames with
  | nil => exact ⟨le_rfl, fun _ => List.forall_mem_nil _⟩
  | cons f frames ih =>
    obtain ⟨hle, hall⟩ := ih
    have htext : (leftOf f ++ f.line ++ ['\n']).count '\x00' = (leftOf f).count '\x00' + f.line.count '\x00' := by
      rw [List.count_append, List.count_append, List.count_singleton, if_neg (by decide), Nat.add_zero]
    rw [List.flatMap_cons, List.count_append, htext, List.map_cons, List.sum_cons]
    refine ⟨by omega, fun hcount => List.forall_mem_cons.mpr ⟨?_, hall (by omega)⟩⟩
    refine (header_clean_iff f).mp ?_
    by_contra hbroken
    have hheader := count_header f
    rw [leftOf, if_neg hbroken] at hcount
    omega

theorem unbroken_of_demultiplexes (htokenize : Tokenizes tokenize) {frames : List Frame}
    (h : Demultiplexes palette tokenize frames) : ∀ f ∈ frames.tail, f.Unbroken := by
  cases frames with
  | nil => exact List.forall_mem_nil _
  | cons f frames =>
    obtain ⟨hlines, hzeros⟩ := @formatLogs_count palette tokenize htokenize ((f :: frames).flatMap Frame.text)
    rw [← h.length_eq, count_stripHeaders, drop_frames, List.count_append, List.count_cons_self,
      List.count_eq_zero_of_not_mem f.notMem_line, List.length_cons] at hlines
    have hnone : ∀ g ∈ frames, '\n' ∉ g.header := notMem_headers.2 (by omega)
    -- the entries have no more zeros than the lines
    have hentries : ∀ {frames : List Frame} {entries : List Entry}, List.Forall₂ Shows frames entries →
        (entries.map fun e => e.line.count '\x00').sum = (frames.map fun f => f.line.count '\x00').sum := by
      intro frames entries hall
      induction hall with
      | nil => rfl
      | @cons f e frames entries hshows _ ih =>
        have hline : e.line.count '\x00' = f.line.count '\x00' := by
          obtain ⟨hline | hline, -⟩ := hshows
          · rw [hline]
          · rw [hline, List.count_cons_of_ne (by decide)]
        rw [List.map_cons, List.map_cons, List.sum_cons, List.sum_cons, ih, hline]
    rw [hentries h, stripHeaders_eq hnone, List.count_append, List.count_cons_of_ne (by decide), List.map_cons,
      List.sum_cons] at hzeros
    have hall : ∀ g ∈ frames, g.Unbroken := unbroken_of_count.2 (by omega)
    exact hall

/-- **A log is demultiplexed** exactly if, but in the first frame, no byte of a
length is a line feed or a carriage return. -/
theorem demultiplexes_iff (palette : ℕ → Option (List ℕ)) (htokenize : Tokenizes tokenize) (frames : List Frame) :
    Demultiplexes palette tokenize frames ↔ ∀ f ∈ frames.tail, f.Unbroken :=
  ⟨unbroken_of_demultiplexes htokenize, demultiplexes_of_unbroken htokenize⟩

/-! ## One log -/

/-- A text without the first characters of an escape sequence has none. -/
theorem free_of_notEscape {s : Text} (h : ∀ c ∈ s, isEscape c = false) : Free escapePattern s := by
  intro t ht
  cases t with
  | nil => rfl
  | cons c t =>
    have hc : isEscape c = false := h c (ht.subset List.mem_cons_self)
    rw [escapePattern, seq, one, hc]
    rfl

/-- A package that finds no escape sequences. -/
def wholeText (s : Text) : List Token := [.text s]

theorem tokenizes_wholeText : Tokenizes wholeText :=
  ⟨fun _ _ => .inl rfl, fun s c _ => congrArg (List.count c) (List.append_nil s)⟩

/-- A line of a few letters. -/
def letters (n : ℕ) (h : n + 1 < 2 ^ 32) : Frame where
  stream := .stdout
  line := List.replicate n 'a'
  notMem_line := fun hmem => absurd (List.eq_of_mem_replicate hmem) (by decide)
  free_line := free_of_notEscape fun c hc => by
    rw [List.eq_of_mem_replicate hc]
    decide
  length_lt := by
    rw [List.length_replicate]
    exact h

theorem demultiplexes_iff_letters :
    Demultiplexes (fun _ => none) wholeText [letters 9 (by omega), letters 3 (by omega), letters 0 (by omega)] ↔
      ∀ f ∈ [letters 9 (by omega), letters 3 (by omega), letters 0 (by omega)].tail, f.Unbroken :=
  demultiplexes_iff (fun _ => none) tokenizes_wholeText _

/-- **A second line of nine letters keeps its header.** -/
theorem keeps_nine_letters : ¬ ∀ (palette : ℕ → Option (List ℕ)) (tokenize : Text → List Token), Tokenizes tokenize →
    ∀ frames, Demultiplexes palette tokenize frames := by
  intro h
  have hall := unbroken_of_demultiplexes tokenizes_wholeText
    (h (fun _ => none) wholeText tokenizes_wholeText [letters 0 (by omega), letters 9 (by omega)])
  have hten : 10 ∈ lengthBytes (letters 9 (by omega)).size := by decide
  exact (hall _ List.mem_cons_self 10 hten).1 rfl

end Logs

end Portainer
