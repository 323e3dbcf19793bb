import Mathlib.Tactic.Common
import Mathlib.Algebra.Group.Int.Defs
import Mathlib.Algebra.Group.Nat.Defs
import Mathlib.Data.List.DropRight
/-!
# Slash-separated paths — Go's package `path`

`Base`, `Split`, `Dir`, `Clean` and `Match` of the standard library's
package `path`, the prefix and suffix operations of `strings`, and
`strconv.Atoi`. A path is a list of characters. Every comparison these
functions make is with an ASCII character, so it makes no difference
whether a character stands for a byte or for a rune.

`base_snoc`, `dir_snoc` and the `match_*` lemmas say what the functions do
to a path that is put together from segments.
-/

namespace Portainer

abbrev Path := List Char

namespace Path

/-- `path.Base`: the last element, trailing slashes left aside. -/
def base (p : Path) : Path :=
  if p = [] then ['.']
  else
    let q := (p.rdropWhile (· == '/')).rtakeWhile (· != '/')
    if q = [] then ['/'] else q

/-- `path.Split`: what stands up to the last slash, and what follows it. -/
def split (p : Path) : Path × Path := (p.rdropWhile (· != '/'), p.rtakeWhile (· != '/'))

/-- One element of the path `Clean` reads, on the stack of those it
keeps. -/
def cleanStep (rooted : Bool) (stack : List Path) (e : Path) : List Path :=
  if e = [] ∨ e = ['.'] then stack
  else if e = ['.', '.'] then
    match stack with
    | [] => if rooted then [] else [e]
    | t :: stack' => if t = ['.', '.'] then e :: stack else stack'
  else e :: stack

/-- `path.Clean`: the shortest path that means the same. -/
def clean (p : Path) : Path :=
  let rooted := p.head? == some '/'
  let q := ['/'].intercalate ((p.splitOn '/').foldl (cleanStep rooted) []).reverse
  if rooted then '/' :: q else if q = [] then ['.'] else q

/-- `path.Dir`: all but the last element. -/
def dir (p : Path) : Path := clean (split p).1

/-- A run of characters other than the slash, and then what `k` accepts. -/
def matchStar (k : Path → Bool) : Path → Bool
  | [] => k []
  | c :: cs => k (c :: cs) || (c != '/' && matchStar k cs)

/-- `path.Match`, for patterns whose only metacharacter is the star. -/
def match' : Path → Path → Bool
  | [] => fun name => name.isEmpty
  | p :: ps =>
    if p = '*' then matchStar (match' ps)
    else fun name =>
      match name with
      | [] => false
      | c :: cs => c == p && match' ps cs

/-- `strings.TrimPrefix`. -/
def trimPrefix (t p : Path) : Path := if t <+: p then p.drop t.length else p

/-- `strings.TrimSuffix`. -/
def trimSuffix (t p : Path) : Path := if t <:+ p then p.rdrop t.length else p

/-- The decimal number a list of digits spells. -/
def digits (p : Path) : Option ℕ :=
  if p = [] ∨ ¬ p.all Char.isDigit then none
  else some (p.foldl (fun n c => 10 * n + (c.toNat - '0'.toNat)) 0)

/-- `strconv.Atoi`, on a 64-bit machine. -/
def atoi (p : Path) : Option Int :=
  let value := match p with
    | '-' :: q => (digits q).map fun n => -(n : Int)
    | '+' :: q => (digits q).map Int.ofNat
    | q => (digits q).map Int.ofNat
  value.filter fun n => -2 ^ 63 ≤ n ∧ n < 2 ^ 63

/-! ## Paths put together from segments -/

/-- A segment: no slash, and not one of the elements `Clean` drops. -/
structure Segment (s : Path) : Prop where
  nonempty : s ≠ []
  slash : '/' ∉ s
  dot : s ≠ ['.']
  dotdot : s ≠ ['.', '.']

variable {p s : Path}

private theorem rtakeWhile_append_slash (hs : '/' ∉ s) :
    (p ++ '/' :: s).rtakeWhile (· != '/') = s := by
  unfold List.rtakeWhile
  have hall : ∀ c ∈ s.reverse, (c != '/') = true := by
    intro c hc
    rw [List.mem_reverse] at hc
    simp only [bne_iff_ne]
    rintro rfl
    exact hs hc
  rw [List.reverse_append, List.reverse_cons, List.append_assoc,
    List.takeWhile_append_of_pos hall]
  simp

private theorem rdropWhile_append_slash (hs : '/' ∉ s) :
    (p ++ '/' :: s).rdropWhile (· != '/') = p ++ ['/'] := by
  have hsplit := List.rdropWhile_append_rtakeWhile (p := (· != '/')) (l := p ++ '/' :: s)
  rw [rtakeWhile_append_slash hs] at hsplit
  have : p ++ '/' :: s = (p ++ ['/']) ++ s := by simp
  rw [this] at hsplit ⊢
  exact List.append_cancel_right hsplit

/-- **The base of a path that ends in a segment** is the segment. -/
theorem base_snoc (hne : s ≠ []) (hs : '/' ∉ s) : base (p ++ '/' :: s) = s := by
  have hlast : (p ++ '/' :: s).rdropWhile (· == '/') = p ++ '/' :: s := by
    rw [List.rdropWhile_eq_self_iff]
    intro hl
    have hmem : (p ++ '/' :: s).getLast hl ∈ s := by
      rw [List.getLast_append_of_ne_nil _ (by simp), List.getLast_cons hne]
      exact List.getLast_mem hne
    simp only [beq_iff_eq]
    rintro heq
    exact hs (heq ▸ hmem)
  unfold base
  rw [if_neg (by simp), hlast, rtakeWhile_append_slash hs, if_neg hne]

theorem split_snoc (hs : '/' ∉ s) : split (p ++ '/' :: s) = (p ++ ['/'], s) :=
  Prod.ext (rdropWhile_append_slash hs) (rtakeWhile_append_slash hs)

/-- The first slash of a path is in one place. -/
theorem append_slash_inj {a b x y : Path} (ha : '/' ∉ a) (hb : '/' ∉ b)
    (h : a ++ '/' :: x = b ++ '/' :: y) : a = b ∧ x = y := by
  have htake : ∀ l tail : Path, '/' ∉ l → (l ++ '/' :: tail).takeWhile (· != '/') = l := by
    intro l tail hl
    rw [List.takeWhile_append_of_pos]
    · simp
    · intro c hc
      simp only [bne_iff_ne]
      rintro rfl
      exact hl hc
  have hab : a = b := by rw [← htake a x ha, h, htake b y hb]
  subst hab
  have := List.append_cancel_left h
  exact ⟨rfl, (List.cons.inj this).2⟩

/-- A segment is kept by `Clean`. -/
theorem Segment.cleanStep {rooted : Bool} {stack : List Path} (h : Segment s) :
    cleanStep rooted stack s = s :: stack := by
  unfold Path.cleanStep
  rw [if_neg (by simp [h.nonempty, h.dot]), if_neg h.dotdot]

/-- **The directory of `/a/b/x`** is `/a/b`, for segments `a` and `b`. -/
theorem dir_snoc {a b x : Path} (ha : Segment a) (hb : Segment b) (hx : '/' ∉ x) :
    dir ('/' :: a ++ '/' :: b ++ '/' :: x) = '/' :: a ++ '/' :: b := by
  have hclean : clean ('/' :: a ++ '/' :: b ++ ['/']) = '/' :: a ++ '/' :: b := by
    have hsplit : ('/' :: a ++ '/' :: b ++ ['/']).splitOn '/' = [[], a, b, []] := by
      have h : ('/' :: a ++ '/' :: b ++ ['/']) = [] ++ '/' :: (a ++ '/' :: (b ++ '/' :: [])) := by
        simp
      rw [h, List.splitOn_append_cons_self, List.splitOn_append_cons_self,
        List.splitOn_append_cons_self, List.splitOn_eq_singleton ha.slash,
        List.splitOn_eq_singleton hb.slash]
      rfl
    have hdrop : ∀ stack, Path.cleanStep true stack [] = stack := fun _ => rfl
    have hrooted : (('/' :: a ++ '/' :: b ++ ['/']).head? == some '/') = true := rfl
    unfold clean
    rw [hsplit, hrooted]
    simp only [List.foldl_cons, List.foldl_nil, hdrop, ha.cleanStep, hb.cleanStep]
    simp
  unfold dir
  rw [split_snoc hx]
  exact hclean

/-! ## Patterns -/

theorem matchStar_iff {k : Path → Bool} :
    matchStar k p = true ↔ ∃ a rest, p = a ++ rest ∧ '/' ∉ a ∧ k rest = true := by
  induction p with
  | nil =>
    constructor
    · intro h
      exact ⟨[], [], rfl, by simp, h⟩
    · rintro ⟨a, rest, h, -, hk⟩
      obtain ⟨-, rfl⟩ := List.nil_eq_append_iff.mp h
      exact hk
  | cons c cs ih =>
    simp only [matchStar, Bool.or_eq_true, Bool.and_eq_true, bne_iff_ne, ih]
    constructor
    · rintro (h | ⟨hc, a, rest, rfl, ha, hk⟩)
      · exact ⟨[], c :: cs, rfl, by simp, h⟩
      · exact ⟨c :: a, rest, rfl, by simp [ha, Ne.symm hc], hk⟩
    · rintro ⟨a, rest, h, ha, hk⟩
      cases a with
      | nil => exact .inl (h ▸ hk)
      | cons x a =>
        obtain ⟨rfl, rfl⟩ := List.cons.inj h
        simp only [List.mem_cons, not_or] at ha
        exact .inr ⟨Ne.symm ha.1, a, rest, rfl, ha.2, hk⟩

/-- A star stands for a run without slashes. -/
theorem match_star {ps : Path} : match' ('*' :: ps) p = true ↔
    ∃ a rest, p = a ++ rest ∧ '/' ∉ a ∧ match' ps rest = true := by
  rw [match', if_pos rfl, matchStar_iff]

/-- Text without a star stands for itself. -/
theorem match_text {t ps : Path} (ht : '*' ∉ t) : match' (t ++ ps) p = true ↔
    ∃ rest, p = t ++ rest ∧ match' ps rest = true := by
  induction t generalizing p with
  | nil => simp
  | cons c t ih =>
    simp only [List.mem_cons, not_or] at ht
    rw [List.cons_append, match', if_neg (Ne.symm ht.1)]
    cases p with
    | nil => simp
    | cons x p =>
      simp only [Bool.and_eq_true, beq_iff_eq, ih ht.2, List.cons_append, List.cons.injEq]
      grind

theorem match_nil : match' [] p = true ↔ p = [] := by
  cases p <;> simp [match']

end Path

end Portainer
