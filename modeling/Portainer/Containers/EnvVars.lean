import Portainer.Common.Text
/-!
# Containers — environment variables

`helpers/env-vars`. A pattern decides which strings `NAME=value` are read;
the others are dropped without a word. `codec_iff` says which variables
survive a reading and a writing: those whose name the pattern accepts, whose
value is on one line and does not end in a blank.
-/

namespace Portainer

namespace EnvVars

open JsText (isBlank isTerminator trim Trimmed)

/-- A variable; one without a value is a name alone. -/
structure Variable where
  name : List Char
  value : Option (List Char)
deriving DecidableEq

/-! ## The pattern -/

def isLetter (c : Char) : Bool := ('a' ≤ c && c ≤ 'z') || ('A' ≤ c && c ≤ 'Z')

def isAlphanumeric (c : Char) : Bool := isLetter c || ('0' ≤ c && c ≤ '9')

/-- `[-_a-zA-Z0-9]`. -/
def isInner (c : Char) : Bool := c == '-' || c == '_' || isAlphanumeric c

/-- `KEY_REGEX`: a letter, and if more follows, the last of it is a letter or
a digit. -/
def isKey : List Char → Bool
  | [] => false
  | c :: s => isLetter c && s.all isInner && s.getLast?.all isAlphanumeric

/-- `(.*)?`: no line terminator. -/
def isValue (s : List Char) : Bool := s.all fun c => !isTerminator c

/-- `KEY_VALUE_REGEX`. Neither a key nor a blank has an equals sign, so the
first one of the text is that of the pattern. -/
def matchKeyValue (s : List Char) : Option Variable :=
  let key := (Text.cut '=' s).1.rdropWhile isBlank
  let value := (Text.cut '=' s).2
  if '=' ∈ s ∧ isKey key ∧ isValue value then some ⟨key, some value⟩ else none

/-! ## Reading and writing -/

/-- One string of the array: a name alone, or what the pattern makes of it;
nothing where it does not match. -/
def parseString (s : List Char) : Option Variable :=
  if '=' ∉ s then some ⟨s, none⟩ else matchKeyValue (trim s)

def parseArrayOfStrings : Option (List (List Char)) → List Variable
  | none => []
  | some array => array.filterMap parseString

/-- `NAME=value`, also for the empty value. -/
def Variable.toString (v : Variable) : List Char :=
  match v.value with
  | some value => v.name ++ '=' :: value
  | none => v.name

def convertToArrayOfStrings : Option (List Variable) → List (List Char)
  | none => []
  | some array => (array.filter (·.name ≠ [])).map Variable.toString

/-- `NEWLINES_REGEX`: the first two alternatives leave nothing to the third. -/
def isNewline (c : Char) : Bool := c == '\n' || c == '\r'

def lines (src : List Char) : List (List Char) := src.splitOnP isNewline

def startsWithHash (s : List Char) : Bool := s.head? = some '#'

def parseDotEnvFile (src : List Char) : List Variable :=
  parseArrayOfStrings (some ((((lines src).filter (· ≠ [])).map trim).filter fun v => !startsWithHash v))

/-! ## The properties -/

/-- A string `NAME=value`. -/
def IsEntry (s : List Char) : Prop := ∃ name value, s = name ++ '=' :: value ∧ name ≠ [] ∧ '=' ∉ name

/-- The variable of a string `NAME=value`. -/
def entryOf (s : List Char) : Variable := ⟨(Text.cut '=' s).1, some (Text.cut '=' s).2⟩

/-- **What survives**: the pattern accepts the name, and the value has no line
terminator and no blank at its end. -/
def Kept (v : Variable) : Prop :=
  ∀ value, v.value = some value → isKey v.name ∧ isValue value ∧ ∀ c ∈ value.getLast?, isBlank c = false

/-- A line that is neither empty nor a comment. -/
def isContent (line : List Char) : Bool := line ≠ [] && !startsWithHash (trim line)

variable {s name value blanks : List Char} {v : Variable}

/-! ## The pattern, as it is written -/

theorem isBlank_of_isInner {c : Char} (h : isInner c) : isBlank c = false :=
  JsText.isBlank_eq_false (by decide) h

theorem forall_isInner_of_isKey (h : isKey s) : ∀ c ∈ s, isInner c := by
  cases s with
  | nil => nomatch h
  | cons d s =>
    rw [isKey, Bool.and_eq_true, Bool.and_eq_true, List.all_eq_true] at h
    intro c hc
    obtain rfl | hc := List.mem_cons.mp hc
    · rw [isInner, isAlphanumeric, h.1.1, Bool.true_or, Bool.or_true]
    · exact h.1.2 c hc

theorem ne_nil_of_isKey (h : isKey s) : s ≠ [] := by
  rintro rfl
  nomatch h

theorem notMem_of_isKey (h : isKey s) : '=' ∉ s := by
  intro hmem
  have hinner : isInner '=' = true := forall_isInner_of_isKey h '=' hmem
  revert hinner
  decide

theorem notMem_append_blanks (h : isKey s) (hblanks : ∀ b ∈ blanks, isBlank b) : '=' ∉ s ++ blanks := by
  rw [List.mem_append, not_or]
  refine ⟨notMem_of_isKey h, fun hmem => ?_⟩
  have hblank : isBlank '=' = true := hblanks '=' hmem
  revert hblank
  decide

/-- A key ends where the blanks begin. -/
theorem rdropWhile_append_blanks (h : isKey s) (hblanks : ∀ b ∈ blanks, isBlank b) :
    (s ++ blanks).rdropWhile isBlank = s := by
  induction blanks using List.reverseRecOn with
  | nil =>
    rw [List.append_nil, List.rdropWhile_eq_self_iff]
    intro hne
    rw [isBlank_of_isInner (forall_isInner_of_isKey h _ (List.getLast_mem hne))]
    exact Bool.false_ne_true
  | append_singleton blanks b ih =>
    have hb : isBlank b := hblanks b (List.mem_append_right blanks List.mem_cons_self)
    rw [← List.append_assoc, List.rdropWhile_concat, if_pos hb]
    exact ih fun b hb => hblanks b (List.mem_append_left _ hb)

/-- **The pattern**: a key, blanks, an equals sign and a value. -/
theorem matchKeyValue_iff : matchKeyValue s = some v ↔ ∃ name blanks value,
    s = name ++ blanks ++ '=' :: value ∧ isKey name ∧ (∀ b ∈ blanks, isBlank b) ∧ isValue value ∧
      v = ⟨name, some value⟩ := by
  constructor
  · intro h
    rw [matchKeyValue] at h
    obtain ⟨⟨hmem, hkey, hvalue⟩, hv⟩ := Option.ite_none_right_eq_some.mp h
    obtain ⟨front, rest, hs, -, hcut⟩ := Text.exists_of_mem hmem
    rw [hcut] at hkey hvalue hv
    refine ⟨front.rdropWhile isBlank, front.rtakeWhile isBlank, rest, ?_, hkey, ?_, hvalue, (Option.some.inj hv).symm⟩
    · rw [List.rdropWhile_append_rtakeWhile]
      exact hs
    · intro b hb
      exact List.mem_rtakeWhile_imp hb
  · rintro ⟨name, blanks, value, rfl, hkey, hblanks, hvalue, rfl⟩
    have hcut : Text.cut '=' (name ++ blanks ++ '=' :: value) = (name ++ blanks, value) :=
      Text.cut_append_cons (notMem_append_blanks hkey hblanks)
    have hmem : '=' ∈ name ++ blanks ++ '=' :: value := List.mem_append_right _ List.mem_cons_self
    rw [matchKeyValue, hcut, rdropWhile_append_blanks hkey hblanks, if_pos ⟨hmem, hkey, hvalue⟩]

/-! ## One string -/

/-- A text has no blank at its ends if it begins with a key and ends in an
equals sign or in no blank. -/
theorem trimmed_entry (hkey : isKey name) (hlast : ∀ c ∈ value.getLast?, isBlank c = false) :
    Trimmed (name ++ '=' :: value) := by
  constructor
  · intro c hc
    obtain ⟨d, rest, rfl⟩ := List.exists_cons_of_ne_nil (ne_nil_of_isKey hkey)
    obtain rfl : d = c := Option.some.inj hc
    exact isBlank_of_isInner (forall_isInner_of_isKey hkey d List.mem_cons_self)
  · intro c hc
    rw [List.getLast?_append_of_ne_nil _ (List.cons_ne_nil _ _)] at hc
    cases value with
    | nil =>
      obtain rfl : '=' = c := Option.some.inj hc
      decide
    | cons d value =>
      rw [List.getLast?_cons_cons] at hc
      exact hlast c hc

theorem mem_entry : '=' ∈ name ++ '=' :: value := List.mem_append_right _ List.mem_cons_self

/-- What is read of a string with an equals sign is a key with a value. -/
theorem exists_of_parseString (hmem : '=' ∈ s) (h : parseString s = some v) :
    ∃ key blanks value, trim s = key ++ blanks ++ '=' :: value ∧ isKey key ∧ (∀ b ∈ blanks, isBlank b) ∧
      isValue value ∧ v = ⟨key, some value⟩ := by
  rw [parseString, if_neg (not_not.mpr hmem)] at h
  exact matchKeyValue_iff.mp h

/-- **A string is read as it stands** exactly if its variable survives. -/
theorem parseString_entry_iff :
    parseString (name ++ '=' :: value) = some ⟨name, some value⟩ ↔ Kept ⟨name, some value⟩ := by
  constructor
  · intro h w hw
    obtain rfl : value = w := Option.some.inj hw
    obtain ⟨key, blanks, rest, htrim, hkey, -, hvalue, hv⟩ := exists_of_parseString mem_entry h
    rw [Variable.mk.injEq, Option.some.injEq] at hv
    obtain ⟨rfl, rfl⟩ := hv
    -- The trimmed text has all the characters, so nothing was trimmed.
    have hself : trim (name ++ '=' :: value) = name ++ '=' :: value := by
      refine JsText.trim_eq_self_of_length_le ?_
      rw [htrim, List.length_append, List.length_append, List.length_append]
      omega
    refine ⟨hkey, hvalue, fun c hc => (JsText.trim_eq_self_iff.mp hself).last c ?_⟩
    rw [Option.mem_def] at hc ⊢
    rw [List.getLast?_append, List.getLast?_cons, hc]
    rfl
  · intro h
    obtain ⟨hkey, hvalue, hlast⟩ := h value rfl
    rw [parseString, if_neg (not_not.mpr mem_entry), JsText.trim_of_trimmed (trimmed_entry hkey hlast)]
    exact matchKeyValue_iff.mpr ⟨name, [], value, by rw [List.append_nil], hkey, List.forall_mem_nil _, hvalue, rfl⟩

/-- **A variable comes back** exactly if it survives. -/
theorem parseString_toString_iff (h : '=' ∉ v.name) : parseString v.toString = some v ↔ Kept v := by
  obtain ⟨name, value⟩ := v
  cases value with
  | none =>
    refine iff_of_true ?_ fun value hvalue => nomatch hvalue
    rw [parseString, if_pos (show '=' ∉ (Variable.mk name none).toString from h)]
    rfl
  | some value => exact parseString_entry_iff

theorem exists_entryOf (h : '=' ∈ s) : ∃ name value, s = name ++ '=' :: value ∧ '=' ∉ name ∧
    entryOf s = ⟨name, some value⟩ := by
  obtain ⟨name, value, hs, hnot, hcut⟩ := Text.exists_of_mem h
  refine ⟨name, value, hs, hnot, ?_⟩
  rw [entryOf, hcut]

theorem IsEntry.mem (h : IsEntry s) : '=' ∈ s := by
  obtain ⟨name, value, rfl, -, -⟩ := h
  exact mem_entry

theorem parseString_iff_kept (h : '=' ∈ s) : parseString s = some (entryOf s) ↔ Kept (entryOf s) := by
  obtain ⟨name, value, rfl, -, hentry⟩ := exists_entryOf h
  rw [hentry]
  exact parseString_entry_iff

/-- **A string comes back** exactly if its variable survives. -/
theorem toString_parseString_iff (h : '=' ∈ s) :
    (parseString s).map Variable.toString = some s ↔ Kept (entryOf s) := by
  rw [← parseString_iff_kept h]
  obtain ⟨name, value, rfl, hnot, hentry⟩ := exists_entryOf h
  rw [hentry]
  constructor
  · intro hmap
    obtain ⟨v, hv, hstring⟩ := Option.map_eq_some_iff.mp hmap
    obtain ⟨key, blanks, rest, -, hkey, -, -, rfl⟩ := exists_of_parseString mem_entry hv
    obtain ⟨rfl, rfl⟩ := Text.eq_of_append_cons (notMem_of_isKey hkey) hnot hstring
    exact hv
  · intro hv
    rw [hv]
    rfl

/-! ## Lists of them -/

/-- What is written of a string after it was read. -/
theorem convert_parse (array : List (List Char)) :
    convertToArrayOfStrings (some (parseArrayOfStrings (some array))) =
      array.filterMap fun s => ((parseString s).filter (·.name ≠ [])).map Variable.toString := by
  rw [convertToArrayOfStrings, parseArrayOfStrings, List.filter_filterMap, List.map_filterMap]

/-- **An array of strings comes back** exactly if none is empty and the
variables of those with an equals sign survive. -/
theorem convert_parse_iff {array : List (List Char)} :
    convertToArrayOfStrings (some (parseArrayOfStrings (some array))) = array ↔
      ∀ s ∈ array, s ≠ [] ∧ ('=' ∈ s → Kept (entryOf s)) := by
  have hmap : (array.filterMap fun s => ((parseString s).filter (·.name ≠ [])).map Variable.toString) = array.map id ↔
      ∀ s ∈ array, ((parseString s).filter (·.name ≠ [])).map Variable.toString = some (id s) :=
    List.filterMap_eq_map_iff_forall_eq_some
  rw [List.map_id] at hmap
  rw [convert_parse, hmap]
  refine forall₂_congr fun s _ => ?_
  by_cases hmem : '=' ∈ s
  · -- what is read of it has a name
    have hfilter : (parseString s).filter (·.name ≠ []) = parseString s := by
      cases hparse : parseString s with
      | none => rfl
      | some v =>
        obtain ⟨key, blanks, rest, -, hkey, -, -, rfl⟩ := exists_of_parseString hmem hparse
        exact Option.filter_some_pos (decide_eq_true (ne_nil_of_isKey hkey))
    have hne : s ≠ [] := List.ne_nil_of_mem hmem
    rw [hfilter, id, toString_parseString_iff hmem]
    exact ⟨fun h => ⟨hne, fun _ => h⟩, fun h => h.2 hmem⟩
  · rw [parseString, if_pos hmem]
    by_cases hne : s = []
    · have hfilter : (some (⟨s, none⟩ : Variable)).filter (·.name ≠ []) = none :=
        Option.filter_some_neg (decide_eq_false (not_not.mpr hne))
      rw [hfilter]
      exact iff_of_false nofun fun h => h.1 hne
    · have hfilter : (some (⟨s, none⟩ : Variable)).filter (·.name ≠ []) = some ⟨s, none⟩ :=
        Option.filter_some_pos (decide_eq_true hne)
      rw [hfilter]
      exact iff_of_true rfl ⟨hne, fun h => absurd h hmem⟩

theorem parse_convert (l : List Variable) (h : ∀ v ∈ l, v.name ≠ []) :
    parseArrayOfStrings (some (convertToArrayOfStrings (some l))) =
      l.filterMap fun v => parseString v.toString := by
  have hall : ∀ v ∈ l, decide (v.name ≠ []) = true := fun v hv => decide_eq_true (h v hv)
  rw [parseArrayOfStrings, convertToArrayOfStrings, List.filter_eq_self.mpr hall, List.filterMap_map]
  rfl

/-- The lines that are read, where none of them has a blank at its ends. -/
theorem parseDotEnvFile_eq (src : List Char)
    (h : ∀ line ∈ (lines src).filter isContent, Trimmed line) :
    parseDotEnvFile src = ((lines src).filter isContent).filterMap parseString := by
  have hfilter : ((lines src).filter (· ≠ [])).filter ((fun v => !startsWithHash v) ∘ trim) =
      (lines src).filter isContent := by
    rw [List.filter_filter]
    exact List.filter_congr fun line _ => Bool.and_comm _ _
  rw [parseDotEnvFile, parseArrayOfStrings, List.filter_map, hfilter, List.filterMap_map]
  refine List.filterMap_congr fun line hline => ?_
  rw [Function.comp_apply, JsText.trim_of_trimmed (h line hline)]

/-! ## The codec -/

/-- **The codec**, exactly: a list of variables is read back as it was, a list
of strings is written back as it was, and a file gives a variable for each
line with content, precisely if each of the variables survives. -/
theorem codec_iff (l : List Variable) (array : List (List Char)) (src : List Char) :
    ((∀ v ∈ l, v.name ≠ [] ∧ '=' ∉ v.name) →
      (parseArrayOfStrings (some (convertToArrayOfStrings (some l))) = l ↔ ∀ v ∈ l, Kept v)) ∧
    ((∀ s ∈ array, IsEntry s) →
      (convertToArrayOfStrings (some (parseArrayOfStrings (some array))) = array ↔ ∀ s ∈ array, Kept (entryOf s))) ∧
    ((∀ line ∈ (lines src).filter isContent, Trimmed line ∧ IsEntry line) →
      (parseDotEnvFile src = ((lines src).filter isContent).map entryOf ↔
        ∀ line ∈ (lines src).filter isContent, Kept (entryOf line))) := by
  refine ⟨fun h => ?_, fun h => ?_, fun h => ?_⟩
  · have hmap : (l.filterMap fun v => parseString v.toString) = l.map id ↔
        ∀ v ∈ l, parseString v.toString = some (id v) := List.filterMap_eq_map_iff_forall_eq_some
    rw [List.map_id] at hmap
    rw [parse_convert l fun v hv => (h v hv).1, hmap]
    exact forall₂_congr fun v hv => parseString_toString_iff (h v hv).2
  · rw [convert_parse_iff]
    exact forall₂_congr fun s hs => ⟨fun hs' => hs'.2 (h s hs).mem, fun hkept =>
      ⟨List.ne_nil_of_mem (h s hs).mem, fun _ => hkept⟩⟩
  · rw [parseDotEnvFile_eq src fun line hline => (h line hline).1, List.filterMap_eq_map_iff_forall_eq_some]
    exact forall₂_congr fun line hline => parseString_iff_kept (h line hline).2.mem

/-- A file of a comment, an empty line and an entry whose value has an equals
sign, and the entry as a variable and as a string. -/
theorem codec_iff_entry :
    (parseArrayOfStrings (some (convertToArrayOfStrings (some [⟨['A', '_', '1'], some ['x', '=']⟩]))) =
        [⟨['A', '_', '1'], some ['x', '=']⟩] ↔ ∀ v ∈ [(⟨['A', '_', '1'], some ['x', '=']⟩ : Variable)], Kept v) ∧
      (convertToArrayOfStrings (some (parseArrayOfStrings (some [['A', '=', 'x', '=']]))) = [['A', '=', 'x', '=']] ↔
        ∀ s ∈ [['A', '=', 'x', '=']], Kept (entryOf s)) ∧
      (parseDotEnvFile ['#', 'c', '\n', '\r', '\n', 'A', '=', 'x'] =
          ((lines ['#', 'c', '\n', '\r', '\n', 'A', '=', 'x']).filter isContent).map entryOf ↔
        ∀ line ∈ (lines ['#', 'c', '\n', '\r', '\n', 'A', '=', 'x']).filter isContent, Kept (entryOf line)) := by
  have hlines : (lines ['#', 'c', '\n', '\r', '\n', 'A', '=', 'x']).filter isContent = [['A', '=', 'x']] := by decide
  obtain ⟨hvariables, hstrings, hfile⟩ := codec_iff [⟨['A', '_', '1'], some ['x', '=']⟩] [['A', '=', 'x', '=']]
    ['#', 'c', '\n', '\r', '\n', 'A', '=', 'x']
  refine ⟨hvariables ?_, hstrings ?_, hfile ?_⟩
  · rintro v (_ | ⟨_, ⟨⟩⟩)
    exact ⟨by decide, by decide⟩
  · rintro s (_ | ⟨_, ⟨⟩⟩)
    exact ⟨['A'], ['x', '='], rfl, by decide, by decide⟩
  · rw [hlines]
    rintro line (_ | ⟨_, ⟨⟩⟩)
    refine ⟨⟨?_, ?_⟩, ['A'], ['x'], rfl, by decide, by decide⟩
    · rintro c ⟨⟩
      decide
    · rintro c ⟨⟩
      decide

/-- A variable whose name begins with an underscore is dropped. -/
theorem drops_underscore : ¬ ((∀ l : List Variable, (∀ v ∈ l, v.name ≠ [] ∧ '=' ∉ v.name) →
      parseArrayOfStrings (some (convertToArrayOfStrings (some l))) = l) ∧
    (∀ array : List (List Char), (∀ s ∈ array, IsEntry s) →
      convertToArrayOfStrings (some (parseArrayOfStrings (some array))) = array) ∧
    ∀ src : List Char, (∀ line ∈ (lines src).filter isContent, Trimmed line ∧ IsEntry line) →
      parseDotEnvFile src = ((lines src).filter isContent).map entryOf) := by
  intro h
  have hdrop := h.1 [⟨['_', 'A'], some ['x']⟩] (by rintro v (_ | ⟨_, ⟨⟩⟩); exact ⟨by decide, by decide⟩)
  revert hdrop
  decide

end EnvVars

end Portainer
