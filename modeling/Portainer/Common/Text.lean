import Mathlib.Data.List.Basic
import Mathlib.Data.List.DropRight
import Mathlib.Data.List.Infix
import Mathlib.Data.List.TakeWhile
/-!
# Texts — lists of characters

The operations of Go's package `strings` and of JavaScript that cut a text at
a separator, and where a text occurs for the last time. `trim` takes away the
white space at the ends of a text, and leaves one that has none as it is.
-/

namespace Portainer

namespace Text

variable {α : Type} [DecidableEq α] {sep s t u : List α}

/-- `strings.Split(s, sep)[0]`: what stands before the first `sep`. -/
def before (sep : List α) : List α → List α
  | [] => []
  | c :: s => if sep <+: c :: s then [] else c :: before sep s

/-- A separator is not found where its first character does not occur. -/
theorem before_append_of_notMem {c : α} (h : c ∉ s) :
    before (c :: sep) (s ++ t) = s ++ before (c :: sep) t := by
  induction s with
  | nil => rfl
  | cons d s ih =>
    have hd : ¬ (c :: sep) <+: d :: (s ++ t) := by
      rintro ⟨rest, hrest⟩
      exact h ((List.cons.inj hrest).1 ▸ List.mem_cons_self)
    rw [List.cons_append, before, if_neg hd, ih fun hc => h (List.mem_cons_of_mem _ hc),
      List.cons_append]

theorem before_of_isPrefix {c : α} (h : c :: sep <+: s) : before (c :: sep) s = [] := by
  obtain ⟨rest, rfl⟩ := h
  rw [List.cons_append, before, if_pos ⟨rest, rfl⟩]

@[simp] theorem before_singleton_cons {c : α} : before [c] (c :: s) = [] :=
  before_of_isPrefix (List.prefix_append [c] s)

/-! ## The first separator -/

/-- What stands before the first separator, and what stands behind it. -/
def cut (c : α) (s : List α) : List α × List α := (s.takeWhile (· ≠ c), (s.dropWhile (· ≠ c)).tail)

theorem cut_append_cons {c : α} (h : c ∉ s) : cut c (s ++ c :: t) = (s, t) := by
  have hne : ∀ d ∈ s, decide (d ≠ c) = true := fun d hd => decide_eq_true fun heq => h (heq ▸ hd)
  rw [cut, List.takeWhile_append_of_pos hne, List.dropWhile_append_of_pos hne]
  simp

/-- A separator is where the text is cut. -/
theorem exists_of_mem {c : α} (h : c ∈ s) : ∃ before after, s = before ++ c :: after ∧ c ∉ before ∧
    cut c s = (before, after) := by
  obtain ⟨before, after, rfl, hnot⟩ := List.eq_append_cons_of_mem h
  exact ⟨before, after, rfl, hnot, cut_append_cons hnot⟩

/-- What stands around the first separator is determined. -/
theorem eq_of_append_cons {c : α} {s' t' : List α} (hs : c ∉ s) (hs' : c ∉ s') (h : s ++ c :: t = s' ++ c :: t') :
    s = s' ∧ t = t' := by
  have hcut : cut c (s ++ c :: t) = cut c (s' ++ c :: t') := congrArg (cut c) h
  rw [cut_append_cons hs, cut_append_cons hs'] at hcut
  exact Prod.mk.inj hcut

/-- What stands around the last separator is determined. -/
theorem eq_of_append_cons_right {c : α} {s' t' : List α} (ht : c ∉ t) (ht' : c ∉ t')
    (h : s ++ c :: t = s' ++ c :: t') : s = s' ∧ t = t' := by
  have hreverse : t.reverse ++ c :: s.reverse = t'.reverse ++ c :: s'.reverse := by
    have hboth : (s ++ c :: t).reverse = (s' ++ c :: t').reverse := congrArg List.reverse h
    rwa [List.reverse_append, List.reverse_append, List.reverse_cons, List.reverse_cons, List.append_assoc,
      List.append_assoc] at hboth
  obtain ⟨hback, hfront⟩ := eq_of_append_cons (fun hc => ht (List.mem_reverse.mp hc))
    (fun hc => ht' (List.mem_reverse.mp hc)) hreverse
  exact ⟨List.reverse_injective hfront, List.reverse_injective hback⟩

/-- The last separator of a text. -/
theorem exists_last_of_mem {c : α} (h : c ∈ s) : ∃ before after, s = before ++ c :: after ∧ c ∉ after := by
  obtain ⟨after, before, hs, hnot⟩ := List.eq_append_cons_of_mem (List.mem_reverse.mpr h)
  refine ⟨before.reverse, after.reverse, ?_, fun hc => hnot (List.mem_reverse.mp hc)⟩
  rw [← List.reverse_reverse s, hs]
  simp

/-! ## The pieces between separators -/

/-- The pieces, after some characters that are skipped. -/
def pieces (sep : List α) : ℕ → List α → List (List α)
  | _, [] => [[]]
  | skip + 1, _ :: s => pieces sep skip s
  | 0, c :: s =>
    if sep <+: c :: s then [] :: pieces sep (sep.length - 1) s
    else (pieces sep 0 s).modifyHead (c :: ·)

/-- JavaScript's `split`, at a separator that is not empty. -/
def split (sep s : List α) : List (List α) := pieces sep 0 s

theorem pieces_append (s t : List α) : pieces sep s.length (s ++ t) = pieces sep 0 t := by
  induction s with
  | nil => rfl
  | cons c s ih => exact ih

/-- A text is cut at a separator whose first character does not occur before
it. -/
theorem split_append {c : α} (h : c ∉ s) (t : List α) :
    split (c :: sep) (s ++ (c :: sep) ++ t) = s :: split (c :: sep) t := by
  rw [split, split, List.append_assoc]
  induction s with
  | nil =>
    have hprefix : c :: sep <+: c :: (sep ++ t) := List.prefix_append (c :: sep) t
    rw [List.nil_append, List.cons_append, pieces, if_pos hprefix]
    exact congrArg _ (pieces_append sep t)
  | cons d s ih =>
    have hd : ¬ (c :: sep) <+: d :: (s ++ ((c :: sep) ++ t)) := by
      rintro ⟨rest, hrest⟩
      exact h ((List.cons.inj hrest).1 ▸ List.mem_cons_self)
    rw [List.cons_append, pieces, if_neg hd, ih fun hc => h (List.mem_cons_of_mem d hc)]
    rfl

/-- A text without the separator's first character is one piece. -/
theorem split_of_notMem {c : α} (h : c ∉ s) : split (c :: sep) s = [s] := by
  rw [split]
  induction s with
  | nil => rfl
  | cons d s ih =>
    have hd : ¬ (c :: sep) <+: d :: s := by
      rintro ⟨rest, hrest⟩
      exact h ((List.cons.inj hrest).1 ▸ List.mem_cons_self)
    rw [pieces, if_neg hd, ih fun hc => h (List.mem_cons_of_mem d hc)]
    rfl

/-! ## Texts within texts -/

/-- `replace(t, '')`: the text without the first `t`, which is not empty. -/
def without (t : List α) : List α → List α
  | [] => []
  | c :: s => if t <+: c :: s then (c :: s).drop t.length else c :: without t s

/-- A text lies on one side of a character that it has not. -/
theorem infix_append_cons_iff {c : α} (h : c ∉ t) : t <:+: s ++ c :: u ↔ t <:+: s ∨ t <:+: u := by
  constructor
  · intro hinfix
    obtain hs | hu | ⟨t₁, t₂, rfl, hsuffix, hprefix⟩ := List.infix_append_iff.mp hinfix
    · exact .inl hs
    · obtain hprefix | hu := List.infix_cons_iff.mp hu
      · cases t with
        | nil => exact .inl (List.nil_infix)
        | cons d t =>
          obtain ⟨rest, hrest⟩ := hprefix
          exact absurd ((List.cons.inj hrest).1 ▸ List.mem_cons_self) h
      · exact .inr hu
    · cases t₂ with
      | nil => exact .inl ((List.append_nil t₁).symm ▸ hsuffix.isInfix)
      | cons d t₂ =>
        obtain ⟨rest, hrest⟩ := hprefix
        exact absurd ((List.cons.inj hrest).1 ▸ List.mem_append_right t₁ List.mem_cons_self) h
  · rintro (hs | hu)
    · exact hs.trans List.infix_append_left
    · exact hu.trans ((List.suffix_cons c u).isInfix.trans List.infix_append_right)

/-- Characters that a text has not do not matter before it. -/
theorem infix_append_right_iff (h : ∀ c ∈ s, c ∉ t) (u : List α) : t <:+: s ++ u ↔ t <:+: u := by
  induction s with
  | nil => exact Iff.rfl
  | cons c s ih =>
    have hcut : t <:+: [] ++ c :: (s ++ u) ↔ t <:+: [] ∨ t <:+: s ++ u :=
      infix_append_cons_iff (h c List.mem_cons_self)
    rw [List.cons_append, ← List.nil_append (c :: (s ++ u)), hcut,
      ih fun d hd => h d (List.mem_cons_of_mem c hd), List.infix_nil]
    exact or_iff_right_of_imp fun hnil => hnil ▸ List.nil_infix

theorem infix_append_left_iff (h : ∀ c ∈ u, c ∉ t) (s : List α) : t <:+: s ++ u ↔ t <:+: s := by
  cases u with
  | nil => rw [List.append_nil]
  | cons c u =>
    have hnil : t <:+: u ↔ t <:+: [] := by
      have hright := infix_append_right_iff (fun d hd => h d (List.mem_cons_of_mem c hd)) []
      rwa [List.append_nil] at hright
    rw [infix_append_cons_iff (h c List.mem_cons_self), hnil, List.infix_nil]
    exact or_iff_left_of_imp fun hnil => hnil ▸ List.nil_infix

/-- A text lies on one side of a gap whose characters it has not. -/
theorem infix_append_append_iff {gap : List α} (hne : gap ≠ []) (h : ∀ c ∈ gap, c ∉ t) :
    t <:+: s ++ gap ++ u ↔ t <:+: s ∨ t <:+: u := by
  obtain ⟨c, gap, rfl⟩ := List.exists_cons_of_ne_nil hne
  rw [List.append_assoc, List.cons_append, infix_append_cons_iff (h c List.mem_cons_self),
    infix_append_right_iff fun d hd => h d (List.mem_cons_of_mem c hd)]

/-! ## The last occurrence -/

/-- `strings.LastIndex`, and `lastIndexOf`: where a text occurs for the last
time. -/
def lastIndexOf (t : List α) : List α → Option ℕ
  | [] => if t = [] then some 0 else none
  | c :: s =>
    match lastIndexOf t s with
    | some i => some (i + 1)
    | none => if t <+: c :: s then some 0 else none

theorem lastIndexOf_eq_none_iff : lastIndexOf t s = none ↔ ¬ t <:+: s := by
  induction s with
  | nil =>
    rw [lastIndexOf, List.infix_nil, ite_eq_right_iff]
    exact ⟨fun h ht => (nomatch h ht), fun h ht => absurd ht h⟩
  | cons c s ih =>
    rw [lastIndexOf, List.infix_cons_iff, not_or]
    cases hlast : lastIndexOf t s with
    | some i =>
      rw [hlast] at ih
      have hinfix : t <:+: s := not_not.mp fun h => nomatch ih.mpr h
      exact iff_of_false (fun h => nomatch h) fun h => h.2 hinfix
    | none =>
      dsimp only
      rw [ite_eq_right_iff]
      exact ⟨fun h => ⟨fun ht => (nomatch h ht), ih.mp hlast⟩, fun h ht => absurd ht h.1⟩

theorem exists_of_lastIndexOf {i : ℕ} (h : lastIndexOf t s = some i) :
    ∃ before after, s = before ++ t ++ after ∧ before.length = i := by
  induction s generalizing i with
  | nil =>
    obtain ⟨rfl, hi⟩ := Option.ite_none_right_eq_some.mp h
    exact ⟨[], [], rfl, Option.some.inj hi⟩
  | cons c s ih =>
    rw [lastIndexOf] at h
    cases hlast : lastIndexOf t s with
    | some j =>
      rw [hlast] at h
      obtain ⟨before, after, rfl, rfl⟩ := ih hlast
      exact ⟨c :: before, after, rfl, Option.some.inj h⟩
    | none =>
      rw [hlast] at h
      obtain ⟨⟨after, hafter⟩, hi⟩ := Option.ite_none_right_eq_some.mp h
      exact ⟨[], after, hafter.symm, Option.some.inj hi⟩

/-- No occurrence is behind the last one. -/
theorem length_le_of_lastIndexOf {before after : List α} {i : ℕ}
    (h : lastIndexOf t (before ++ t ++ after) = some i) : before.length ≤ i := by
  induction before generalizing i with
  | nil => exact Nat.zero_le i
  | cons c before ih =>
    rw [List.cons_append, List.cons_append, lastIndexOf] at h
    cases hlast : lastIndexOf t (before ++ t ++ after) with
    | some j =>
      rw [hlast] at h
      obtain rfl : j + 1 = i := Option.some.inj h
      have hle : before.length ≤ j := ih hlast
      rw [List.length_cons]
      omega
    | none => exact absurd ⟨before, after, rfl⟩ (lastIndexOf_eq_none_iff.mp hlast)

end Text

/-! ## White space at the ends, in JavaScript -/

namespace JsText

/-- The line terminators: what the dot of a regular expression does not
match. -/
def terminators : List Char := ['\n', '\r', '\u2028', '\u2029']

/-- White space and line terminators. -/
def blanks : List Char :=
  terminators ++ ['\t', '\x0b', '\x0c', ' ', '\u00a0', '\u1680', '\u2000', '\u2001', '\u2002', '\u2003', '\u2004',
    '\u2005', '\u2006', '\u2007', '\u2008', '\u2009', '\u200a', '\u202f', '\u205f', '\u3000', '\ufeff']

def isTerminator (c : Char) : Bool := c ∈ terminators

def isBlank (c : Char) : Bool := c ∈ blanks

/-- `trim`. -/
def trim (s : List Char) : List Char := (s.dropWhile isBlank).rdropWhile isBlank

/-- No blank at either end. -/
structure Trimmed (s : List Char) : Prop where
  head : ∀ c ∈ s.head?, isBlank c = false
  last : ∀ c ∈ s.getLast?, isBlank c = false

variable {s t : List Char}

/-- Characters that no blank is one of are not blank. -/
theorem isBlank_eq_false {p : Char → Bool} (hp : blanks.all (fun c => !p c) = true) {c : Char} (h : p c) :
    isBlank c = false := by
  rw [isBlank, decide_eq_false_iff_not]
  intro hc
  have hnot := List.all_eq_true.mp hp c hc
  rw [h] at hnot
  nomatch hnot

theorem trim_of_trimmed (h : Trimmed s) : trim s = s := by
  have hdrop : s.dropWhile isBlank = s := by
    cases s with
    | nil => rfl
    | cons c s =>
      have hc := h.head c rfl
      rw [List.dropWhile_cons_of_neg (by rw [hc]; exact Bool.false_ne_true)]
  rw [trim, hdrop, List.rdropWhile_eq_self_iff]
  intro hne
  rw [h.last _ (List.getLast?_eq_some_getLast hne)]
  exact Bool.false_ne_true

theorem trimmed_trim (s : List Char) : Trimmed (trim s) := by
  constructor
  · intro c hc
    obtain ⟨rest, hrest⟩ := List.rdropWhile_prefix isBlank (l := s.dropWhile isBlank)
    have hhead : (s.dropWhile isBlank).head? = some c := by
      rw [← hrest, List.head?_append, show (List.rdropWhile isBlank (s.dropWhile isBlank)).head? = some c from hc]
      rfl
    have hnot := List.head?_dropWhile_not isBlank s
    rw [hhead] at hnot
    exact hnot
  · intro c hc
    have hne : trim s ≠ [] := by
      rintro hnil
      rw [hnil] at hc
      nomatch hc
    have hlast := List.rdropWhile_last_not isBlank (s.dropWhile isBlank) hne
    have heq : (trim s).getLast hne = c := by
      rw [Option.mem_def, List.getLast?_eq_some_getLast hne] at hc
      exact Option.some.inj hc
    rw [← heq]
    exact Bool.eq_false_iff.mpr hlast

/-- White space around a text is taken away. -/
theorem trim_append (hs : Trimmed s) {before behind : List Char} (hbefore : ∀ c ∈ before, isBlank c = true)
    (hbehind : ∀ c ∈ behind, isBlank c = true) : trim (before ++ s ++ behind) = s := by
  have hdropped : (before ++ s ++ behind).dropWhile isBlank = (s ++ behind).dropWhile isBlank := by
    rw [List.append_assoc, List.dropWhile_append_of_pos hbefore]
  have hrdropped : (s ++ behind).rdropWhile isBlank = s.rdropWhile isBlank := by
    rw [List.rdropWhile, List.reverse_append,
      List.dropWhile_append_of_pos fun c hc => hbehind c (List.mem_reverse.mp hc), ← List.rdropWhile]
  have hself : trim s = s := trim_of_trimmed hs
  cases s with
  | nil =>
    have hnil : behind.dropWhile isBlank = [] := List.dropWhile_eq_nil_iff.mpr hbehind
    rw [trim, hdropped, List.nil_append, hnil]
    rfl
  | cons c s =>
    have hc : ¬ isBlank c = true := by rw [hs.head c rfl]; exact Bool.false_ne_true
    rw [trim, List.dropWhile_cons_of_neg hc] at hself
    rw [trim, hdropped, List.cons_append, List.dropWhile_cons_of_neg hc, ← List.cons_append, hrdropped, hself]

/-- **A text is left as it is** exactly if it has no blank at either end. -/
theorem trim_eq_self_iff : trim s = s ↔ Trimmed s :=
  ⟨fun h => h ▸ trimmed_trim s, trim_of_trimmed⟩

/-- `trim` takes characters away, or leaves the text as it is. -/
theorem trim_eq_self_of_length_le (h : s.length ≤ (trim s).length) : trim s = s := by
  have hprefix : trim s <+: s.dropWhile isBlank := List.rdropWhile_prefix isBlank _
  have hsuffix : s.dropWhile isBlank <:+ s := List.dropWhile_suffix isBlank
  have hle : (trim s).length ≤ (s.dropWhile isBlank).length := hprefix.length_le
  have hle' : (s.dropWhile isBlank).length ≤ s.length := hsuffix.length_le
  calc trim s = s.dropWhile isBlank := hprefix.eq_of_length (by omega)
    _ = s := hsuffix.eq_of_length (by omega)

end JsText

end Portainer
