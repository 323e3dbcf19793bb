import Portainer.Common.Text
import Mathlib.Data.List.Count
/-!
# Words — a text that is split as a shell does

White space separates words, except between quotes, which are taken away; a
quote of one kind between those of the other is an ordinary character.
`ShellLike` says what is relied on of a function that splits in this way, and
`shellLike_split` that there is one.
-/

namespace Portainer

namespace ShellWords

open JsText (isBlank)

/-- A word in single quotes. -/
def quote (w : List Char) : List Char := '\'' :: w ++ ['\'']

/-- **A function that splits as a shell does**: a quoted word is a word, also
with more behind it; a single quote that is left stands between double quotes,
which are taken away; and no word is empty. -/
structure ShellLike (split : List Char → List (List Char)) : Prop where
  quoted : ∀ w, '\'' ∉ w → w ≠ [] → split (quote w) = [w]
  quoted_append : ∀ w s, '\'' ∉ w → w ≠ [] → split (quote w ++ ' ' :: s) = w :: split s
  count_lt : ∀ s, '\'' ∈ (split s).flatten → (split s).flatten.count '"' < s.count '"'
  ne_nil : ∀ s, [] ∉ split s

/-- The quoted words, with blanks between them. -/
def joinQuoted : List (List Char) → List Char
  | [] => []
  | [w] => quote w
  | w :: words => quote w ++ ' ' :: joinQuoted words

variable {f : List Char → List (List Char)} {words : List (List Char)}

theorem count_joinQuoted (words : List (List Char)) : (joinQuoted words).count '"' = words.flatten.count '"' := by
  induction words with
  | nil => rfl
  | cons w words ih =>
    have hquote : (quote w).count '"' = w.count '"' := by
      rw [quote, List.cons_append, List.count_cons_of_ne (by decide), List.count_append]
      rfl
    cases words with
    | nil => rw [joinQuoted, hquote, List.flatten_singleton]
    | cons w' words =>
      rw [joinQuoted, List.count_append, List.count_cons_of_ne (by decide), ih, hquote, ← List.count_append]
      · rfl
      · exact fun h => List.cons_ne_nil _ _ h

/-- **Words come back** from their quotes exactly if none is empty or has a
single quote. -/
theorem ShellLike.joinQuoted_iff (h : ShellLike f) (hne : words ≠ []) :
    f (joinQuoted words) = words ↔ ∀ w ∈ words, '\'' ∉ w ∧ w ≠ [] := by
  constructor
  · intro hback w hw
    refine ⟨fun hquote => ?_, fun hnil => ?_⟩
    · have hmem : '\'' ∈ (f (joinQuoted words)).flatten := by
        rw [hback]
        exact List.mem_flatten.mpr ⟨w, hw, hquote⟩
      have hlt := h.count_lt _ hmem
      rw [hback, count_joinQuoted] at hlt
      exact absurd hlt (lt_irrefl _)
    · refine h.ne_nil (joinQuoted words) ?_
      rw [hback]
      exact hnil ▸ hw
  · intro hall
    induction words with
    | nil => exact absurd rfl hne
    | cons w words ih =>
      obtain ⟨hquote, hnil⟩ := hall w List.mem_cons_self
      cases words with
      | nil => exact h.quoted w hquote hnil
      | cons w' words =>
        rw [joinQuoted, h.quoted_append w _ hquote hnil,
          ih (List.cons_ne_nil _ _) fun w hw => hall w (List.mem_cons_of_mem _ hw)]
        intro h
        nomatch h

/-! ## A function that splits so -/

/-- The words of a text, from within a word: whether a single or a double
quote is open, and what of the word is there. -/
def splitFrom : Bool → Bool → List Char → List Char → List (List Char)
  | _, _, word, [] => if word = [] then [] else [word]
  | single, double, word, c :: s =>
    if c = '\'' ∧ double = false then splitFrom (!single) double word s
    else if c = '"' ∧ single = false then splitFrom single (!double) word s
    else if single = false ∧ double = false ∧ isBlank c = true then
      if word = [] then splitFrom single double [] s else word :: splitFrom single double [] s
    else splitFrom single double (word ++ [c]) s

def split (s : List Char) : List (List Char) := splitFrom false false [] s

variable {single double : Bool} {w word s : List Char}

/-- Between single quotes all is one word. -/
theorem splitFrom_single (h : '\'' ∉ w) :
    splitFrom true false word (w ++ '\'' :: s) = splitFrom false false (word ++ w) s := by
  induction w generalizing word with
  | nil => rw [List.nil_append, List.append_nil, splitFrom, if_pos ⟨rfl, rfl⟩, Bool.not_true]
  | cons c w ih =>
    have hc : c ≠ '\'' := fun heq => h (heq ▸ List.mem_cons_self)
    have hw : '\'' ∉ w := fun hmem => h (List.mem_cons_of_mem c hmem)
    rw [List.cons_append, splitFrom, if_neg fun hc' => hc hc'.1, if_neg fun hd => (nomatch hd.2),
      if_neg fun hb => (nomatch hb.1), ih hw, List.append_assoc, List.singleton_append]

theorem split_quote_append (h : '\'' ∉ w) : split (quote w ++ s) = splitFrom false false w s := by
  have htext : quote w ++ s = '\'' :: (w ++ '\'' :: s) := by simp [quote]
  rw [split, htext, splitFrom, if_pos ⟨rfl, rfl⟩, Bool.not_false, splitFrom_single h, List.nil_append]

/-- Quotes are never added, and a single quote only stays if a double one is
open or was taken away. -/
theorem count_splitFrom (s : List Char) : ∀ single double word,
    (splitFrom single double word s).flatten.count '"' ≤ word.count '"' + s.count '"' ∧
      ('\'' ∈ (splitFrom single double word s).flatten →
        '\'' ∈ word ∨ double = true ∨
          (splitFrom single double word s).flatten.count '"' < word.count '"' + s.count '"') := by
  induction s with
  | nil =>
    intro single double word
    rw [splitFrom]
    split
    · exact ⟨Nat.zero_le _, fun h => (nomatch h)⟩
    · rw [List.flatten_singleton]
      exact ⟨le_rfl, .inl⟩
  | cons c s ih =>
    intro single double word
    rw [splitFrom]
    split
    · next hc =>
      rw [hc.1, List.count_cons_of_ne (by decide)]
      exact ih (!single) double word
    · split
      · next hc =>
        obtain ⟨hle, -⟩ := ih single (!double) word
        rw [hc.1, List.count_cons_self]
        exact ⟨by omega, fun _ => .inr (.inr (by omega))⟩
      · next hsingle hdouble =>
        split
        · next hblank =>
          have hne : '"' ≠ c := by
            rintro rfl
            exact absurd hblank.2.2 (by decide)
          obtain ⟨hle, hquote⟩ := ih single double []
          rw [List.count_cons_of_ne hne.symm]
          rw [List.count_nil, Nat.zero_add] at hle hquote
          split
          · next hnil =>
            rw [hnil, List.count_nil, Nat.zero_add]
            exact ⟨hle, hquote⟩
          · rw [List.flatten_cons, List.count_append]
            refine ⟨by omega, fun hmem => ?_⟩
            obtain hmem | hmem := List.mem_append.mp hmem
            · exact .inl hmem
            · obtain hword | hopen | hlt := hquote hmem
              · nomatch hword
              · exact .inr (.inl hopen)
              · exact .inr (.inr (by omega))
        · obtain ⟨hle, hquote⟩ := ih single double (word ++ [c])
          have hcount : (word ++ [c]).count '"' + s.count '"' = word.count '"' + (c :: s).count '"' := by
            rw [List.count_append, List.count_cons, List.count_cons]
            simp
            omega
          rw [hcount] at hle hquote
          refine ⟨hle, fun hmem => ?_⟩
          obtain hword | hrest := hquote hmem
          · obtain hword | hword := List.mem_append.mp hword
            · exact .inl hword
            · obtain rfl := List.mem_singleton.mp hword
              -- a single quote that is kept: a double one is open
              refine .inr (.inl ?_)
              by_contra hopen
              exact hsingle ⟨rfl, Bool.eq_false_iff.mpr hopen⟩
          · exact .inr hrest

theorem nil_notMem_splitFrom (s : List Char) : ∀ single double word, [] ∉ splitFrom single double word s := by
  induction s with
  | nil =>
    intro single double word
    rw [splitFrom]
    split
    · exact List.not_mem_nil
    · next hne => exact fun h => hne (List.mem_singleton.mp h).symm
  | cons c s ih =>
    intro single double word
    rw [splitFrom]
    split
    · exact ih _ _ _
    · split
      · exact ih _ _ _
      · split
        · split
          · exact ih _ _ _
          · next hne =>
            rw [List.mem_cons, not_or]
            exact ⟨fun h => hne h.symm, ih _ _ _⟩
        · exact ih _ _ _

theorem shellLike_split : ShellLike split := by
  refine ⟨fun w h hne => ?_, fun w s h hne => ?_, fun s h => ?_, fun s => nil_notMem_splitFrom s _ _ _⟩
  · have hquote := split_quote_append (s := []) h
    rwa [List.append_nil, splitFrom, if_neg hne] at hquote
  · rw [split_quote_append h, splitFrom, if_neg fun hc => (nomatch hc.1), if_neg fun hc => (nomatch hc.1),
      if_pos ⟨rfl, rfl, rfl⟩, if_neg hne]
    rfl
  · obtain ⟨-, hquote⟩ := count_splitFrom s false false []
    rw [List.count_nil, Nat.zero_add] at hquote
    obtain hword | hopen | hlt := hquote h
    · nomatch hword
    · nomatch hopen
    · exact hlt

end ShellWords

end Portainer
