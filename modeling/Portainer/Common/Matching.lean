import Mathlib.Data.List.Basic
import Mathlib.Data.List.Infix
/-!
# Patterns — matching with backtracking, and replacing

A pattern of a regular expression, as what remains of a text behind each of
its matches at the start, in the order in which they are tried. The first one
counts. `replaceAll` replaces every match from the left.
-/

namespace Portainer

/-- What remains behind each match at the start of a text. -/
abbrev Pattern := List Char → List (List Char)

namespace Pattern

/-! ## The operators -/

/-- `[...]`. -/
def one (p : Char → Bool) : Pattern
  | [] => []
  | c :: s => if p c then [s] else []

/-- One after the other. -/
def seq (a b : Pattern) : Pattern := fun s => (a s).flatMap b

/-- `(...)?`. -/
def opt (a : Pattern) : Pattern := fun s => a s ++ [s]

/-- `[...]{0,n}`. -/
def atMost (p : Char → Bool) : ℕ → Pattern
  | 0 => fun s => [s]
  | n + 1 => opt (seq (one p) (atMost p n))

/-- `[...]{n}`. -/
def times (p : Char → Bool) : ℕ → Pattern
  | 0 => fun s => [s]
  | n + 1 => seq (one p) (times p n)

/-- `(...)*`, a number of times. -/
def manyAtMost (a : Pattern) : ℕ → Pattern
  | 0 => fun s => [s]
  | n + 1 => opt (seq a (manyAtMost a n))

/-- `(...)*`, of a pattern that is never empty: no more times than there are
characters. -/
def many (a : Pattern) : Pattern := fun s => manyAtMost a s.length s

/-- `replace`, of all matches; the number is that of the characters of the
last match that are still to come. -/
def replaceFrom (a : Pattern) (r : List Char) : ℕ → List Char → List Char
  | _, [] => []
  | k + 1, _ :: s => replaceFrom a r k s
  | 0, c :: s =>
    match (a (c :: s)).head? with
    | some rest => r ++ replaceFrom a r (s.length - rest.length) s
    | none => c :: replaceFrom a r 0 s

def replaceAll (a : Pattern) (r : List Char) (s : List Char) : List Char := replaceFrom a r 0 s

variable {a b : Pattern} {p : Char → Bool} {r s t m : List Char} {c : Char} {n : ℕ}

/-! ## What a match is made of -/

/-- **Each match is of characters of a kind.** -/
def Within (k : Char → Prop) (a : Pattern) : Prop := ∀ s, ∀ rest ∈ a s, ∃ m, s = m ++ rest ∧ ∀ c ∈ m, k c

/-- No match is empty. -/
def Proper (a : Pattern) : Prop := ∀ s, ∀ rest ∈ a s, rest.length < s.length

variable {k : Char → Prop}

theorem within_one (h : ∀ c, p c = true → k c) : Within k (one p) := by
  intro s rest hrest
  cases s with
  | nil => nomatch hrest
  | cons c s =>
    rw [one] at hrest
    split at hrest
    · next hc =>
      obtain rfl := List.mem_singleton.mp hrest
      exact ⟨[c], rfl, fun d hd => List.mem_singleton.mp hd ▸ h c hc⟩
    · nomatch hrest

theorem within_nothing : Within k fun s => [s] := by
  intro s rest hrest
  obtain rfl := List.mem_singleton.mp hrest
  exact ⟨[], rfl, List.forall_mem_nil _⟩

theorem Within.seq (ha : Within k a) (hb : Within k b) : Within k (seq a b) := by
  intro s rest hrest
  obtain ⟨middle, hmiddle, hbehind⟩ := List.mem_flatMap.mp hrest
  obtain ⟨m, rfl, hm⟩ := ha s middle hmiddle
  obtain ⟨m', rfl, hm'⟩ := hb middle rest hbehind
  exact ⟨m ++ m', (List.append_assoc m m' rest).symm, List.forall_mem_append.mpr ⟨hm, hm'⟩⟩

theorem Within.opt (ha : Within k a) : Within k (opt a) := by
  intro s rest hrest
  obtain hrest | hrest := List.mem_append.mp hrest
  · exact ha s rest hrest
  · exact within_nothing s rest hrest

theorem within_atMost (h : ∀ c, p c = true → k c) : ∀ n, Within k (atMost p n)
  | 0 => within_nothing
  | n + 1 => ((within_one h).seq (within_atMost h n)).opt

theorem Within.manyAtMost (ha : Within k a) : ∀ n, Within k (manyAtMost a n)
  | 0 => within_nothing
  | n + 1 => (ha.seq (ha.manyAtMost n)).opt

theorem Within.many (ha : Within k a) : Within k (many a) := fun s => ha.manyAtMost s.length s

theorem proper_one : Proper (one p) := by
  intro s rest hrest
  cases s with
  | nil => nomatch hrest
  | cons c s =>
    rw [one] at hrest
    split at hrest
    · obtain rfl := List.mem_singleton.mp hrest
      exact Nat.lt_succ_self _
    · nomatch hrest

/-- A match that begins with a match is not empty. -/
theorem Proper.seq (ha : Proper a) (hb : Within k b) : Proper (seq a b) := by
  intro s rest hrest
  obtain ⟨middle, hmiddle, hrest⟩ := List.mem_flatMap.mp hrest
  have hlt := ha s middle hmiddle
  obtain ⟨m, rfl, -⟩ := hb middle rest hrest
  rw [List.length_append] at hlt
  omega

/-! ## What stops a match -/

/-- **A character that no match goes beyond.** -/
def StopsAt (c : Char) (a : Pattern) : Prop := ∀ s t, a (s ++ c :: t) = (a s).map (· ++ c :: t)

theorem stopsAt_one (h : p c = false) : StopsAt c (one p) := by
  intro s t
  cases s with
  | nil => exact if_neg (by rw [h]; exact Bool.false_ne_true)
  | cons d s =>
    rw [List.cons_append, one, one]
    split <;> rfl

theorem stopsAt_nothing : StopsAt c fun s => [s] := fun _ _ => rfl

theorem StopsAt.seq (ha : StopsAt c a) (hb : StopsAt c b) : StopsAt c (seq a b) := by
  intro s t
  show (a (s ++ c :: t)).flatMap b = ((a s).flatMap b).map (· ++ c :: t)
  rw [ha, List.flatMap_map, List.map_flatMap]
  exact List.flatMap_congr fun rest _ => hb rest t

theorem StopsAt.opt (ha : StopsAt c a) : StopsAt c (opt a) := by
  intro s t
  show a (s ++ c :: t) ++ [s ++ c :: t] = (a s ++ [s]).map (· ++ c :: t)
  rw [ha, List.map_append]
  rfl

theorem stopsAt_atMost (h : p c = false) : ∀ n, StopsAt c (atMost p n)
  | 0 => stopsAt_nothing
  | n + 1 => ((stopsAt_one h).seq (stopsAt_atMost h n)).opt

theorem StopsAt.manyAtMost (ha : StopsAt c a) : ∀ n, StopsAt c (manyAtMost a n)
  | 0 => stopsAt_nothing
  | n + 1 => (ha.seq (ha.manyAtMost n)).opt

theorem manyAtMost_of_length_eq_zero (ha : Proper a) (h : s.length = 0) : ∀ n, manyAtMost a n s = [s]
  | 0 => rfl
  | n + 1 => by
    have hnone : a s = [] := by
      refine List.eq_nil_iff_forall_not_mem.mpr fun rest hrest => ?_
      have hlt := ha s rest hrest
      omega
    show (a s).flatMap (manyAtMost a n) ++ [s] = [s]
    rw [hnone]
    rfl

/-- More times than there are characters make no difference. -/
theorem manyAtMost_eq (ha : Proper a) (n : ℕ) : ∀ m s, s.length ≤ n → s.length ≤ m →
    manyAtMost a n s = manyAtMost a m s := by
  induction n with
  | zero =>
    intro m s hn _
    rw [manyAtMost_of_length_eq_zero ha (by omega), manyAtMost_of_length_eq_zero ha (by omega)]
  | succ n ih =>
    intro m s hn hm
    cases m with
    | zero => rw [manyAtMost_of_length_eq_zero ha (by omega), manyAtMost_of_length_eq_zero ha (by omega)]
    | succ m =>
      show (a s).flatMap (manyAtMost a n) ++ [s] = (a s).flatMap (manyAtMost a m) ++ [s]
      refine congrArg (· ++ [s]) (List.flatMap_congr fun rest hrest => ?_)
      have hlt := ha s rest hrest
      exact ih m rest (by omega) (by omega)

theorem StopsAt.many (ha : StopsAt c a) (hproper : Proper a) : StopsAt c (many a) := by
  intro s t
  have hlong : Pattern.manyAtMost a (s ++ c :: t).length (s ++ c :: t) =
      (Pattern.manyAtMost a (s ++ c :: t).length s).map (· ++ c :: t) := ha.manyAtMost _ s t
  have hle : s.length ≤ (s ++ c :: t).length := by
    rw [List.length_append]
    omega
  rw [Pattern.many, hlong, manyAtMost_eq hproper _ s.length s hle le_rfl]
  rfl

/-! ## Replacing -/

theorem replaceFrom_append (m s : List Char) : replaceFrom a r m.length (m ++ s) = replaceAll a r s := by
  induction m with
  | nil => rfl
  | cons c m ih =>
    rw [List.cons_append, List.length_cons]
    exact ih

/-- A match is replaced. -/
theorem replaceAll_match (hne : m ≠ []) (h : (a (m ++ s)).head? = some s) :
    replaceAll a r (m ++ s) = r ++ replaceAll a r s := by
  cases m with
  | nil => exact absurd rfl hne
  | cons c m =>
    have hlength : (m ++ s).length - s.length = m.length := by
      rw [List.length_append]
      omega
    rw [List.cons_append] at h ⊢
    rw [replaceAll, replaceFrom, h]
    dsimp only
    rw [hlength, replaceFrom_append]

/-- A character at which nothing matches stays. -/
theorem replaceAll_skip (h : a (c :: s) = []) : replaceAll a r (c :: s) = c :: replaceAll a r s := by
  rw [replaceAll, replaceFrom, h]
  rfl

/-- A text in which nothing matches stays, whatever follows. -/
theorem replaceAll_append (h : ∀ m', m' ≠ [] → m' <:+ m → a (m' ++ s) = []) :
    replaceAll a r (m ++ s) = m ++ replaceAll a r s := by
  induction m with
  | nil => rfl
  | cons c m ih =>
    have hfirst : a (c :: m ++ s) = [] := h _ (List.cons_ne_nil c m) (List.suffix_refl _)
    rw [List.cons_append] at hfirst ⊢
    rw [replaceAll_skip hfirst, ih fun m' hne hm' => h m' hne (hm'.trans (List.suffix_cons c m)), List.cons_append]

/-- **A text that matches nowhere.** -/
def Free (a : Pattern) (s : List Char) : Prop := ∀ t, t <:+ s → a t = []

theorem Free.replaceAll (h : Free a s) : replaceAll a r s = s := by
  have hstay := replaceAll_append (a := a) (r := r) (m := s) (s := []) fun m' _ hm' => by
    rw [List.append_nil]
    exact h m' hm'
  rwa [List.append_nil, show Pattern.replaceAll a r [] = [] from rfl, List.append_nil] at hstay

/-- Two texts that match nowhere, with a character between them that stops a
match. -/
theorem Free.append (hstop : StopsAt c a) (hs : Free a s) (ht : Free a t) (hc : ∀ t, a (c :: t) = []) :
    Free a (s ++ c :: t) := by
  intro u hu
  obtain hu | ⟨s', rfl, hs'⟩ : u <:+ c :: t ∨ ∃ s', u = s' ++ c :: t ∧ s' <:+ s := by
    obtain ⟨v, hv⟩ := hu
    obtain ⟨w, rfl, hw⟩ | ⟨w, rfl, hw⟩ := List.append_eq_append_iff.mp hv
    · exact .inr ⟨w, hw, v, rfl⟩
    · exact .inl ⟨w, hw.symm⟩
  · obtain heq | hu := List.suffix_cons_iff.mp hu
    · rw [heq]
      exact hc t
    · exact ht u hu
  · rw [hstop, hs s' hs', List.map_nil]

/-- **A count that each match keeps** is kept by replacing. -/
theorem count_replaceAll (h : ∀ s, ∀ rest ∈ a s, ∃ m, m ≠ [] ∧ s = m ++ rest ∧ m.count c = r.count c) (s : List Char) :
    (replaceAll a r s).count c = s.count c := by
  induction hlength : s.length using Nat.strongRecOn generalizing s with
  | _ n ih =>
    cases s with
    | nil => rfl
    | cons d s =>
      rw [List.length_cons] at hlength
      cases hmatch : (a (d :: s)).head? with
      | none =>
        rw [replaceAll_skip (List.head?_eq_none_iff.mp hmatch), List.count_cons, List.count_cons,
          ih s.length (by omega) s rfl]
      | some rest =>
        obtain ⟨m, hne, heq, hcount⟩ := h _ rest (List.mem_of_head? hmatch)
        rw [heq] at hmatch ⊢
        have hlt : rest.length < n := by
          have htotal := congrArg List.length heq
          have hpos := List.length_pos_iff.mpr hne
          rw [List.length_append, List.length_cons] at htotal
          omega
        rw [replaceAll_match hne hmatch, List.count_append, List.count_append, hcount, ih rest.length hlt rest rfl]

end Pattern

end Portainer
