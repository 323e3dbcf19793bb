import Portainer.Common.GoPath
/-!
# Locations — where a path leads

`path.Join` puts paths one behind the other and cleans the result. What
counts about a path is then its `Location`: whether it starts at the root,
and the elements that are left of it. The elements are walked over one by
one, so a joined path leads where its parts lead one after the other
(`locate_join`), also where a part was joined before
(`locate_join_join_left`, `locate_join_join_right`).

A location lies inside a directory if it has the elements of the directory
and more. A path joined to a directory may lead out of it, by `..`; a path
of segments does not (`inside_join_segments`).
-/

namespace Portainer

namespace Path

/-- Whether the path starts at the root. -/
def rooted (p : Path) : Bool := p.head? == some '/'

/-- Go along a path, from the elements gone over so far, the last one
first. -/
def walk (r : Bool) (stack : List Path) (p : Path) : List Path :=
  (p.splitOn '/').foldl (cleanStep r) stack

/-- `path.Join`. Empty parts are left out. -/
def join (parts : List Path) : Path :=
  let parts := parts.filter (· ≠ [])
  if parts = [] then [] else clean (['/'].intercalate parts)

/-- Where a path leads. -/
structure Location where
  rooted : Bool
  elements : List Path
  deriving DecidableEq

/-- The location of a path. -/
def locate (p : Path) : Location := ⟨p.rooted, (walk p.rooted [] p).reverse⟩

/-- **The location lies inside the directory**, or is the directory. -/
def Inside (d l : Location) : Prop := d.rooted = l.rooted ∧ d.elements <+: l.elements

instance (d l : Location) : Decidable (Inside d l) := inferInstanceAs (Decidable (_ ∧ _))

theorem inside_refl (d : Location) : Inside d d := ⟨rfl, List.prefix_rfl⟩

/-! ## Walking -/

variable {r i : Bool} {w : List Path} {a b p q e s : Path} {l : List Path}

theorem walk_nil : walk r w [] = w := rfl

theorem walk_append_slash : walk r w (a ++ '/' :: b) = walk r (walk r w a) b := by
  unfold walk
  rw [List.splitOn_append_cons_self, List.foldl_append]

theorem walk_segment (h : Segment s) : walk r w s = s :: w := by
  unfold walk
  rw [List.splitOn_eq_singleton h.slash]
  exact h.cleanStep

theorem walk_intercalate (hl : l ≠ []) :
    walk r w (['/'].intercalate l) = l.foldl (walk r) w := by
  induction l generalizing w with
  | nil => exact absurd rfl hl
  | cons a l ih =>
    cases l with
    | nil => simp [List.intercalate]
    | cons b l =>
      have hcons : ['/'].intercalate (a :: b :: l) = a ++ '/' :: ['/'].intercalate (b :: l) := by
        simp [List.intercalate]
      rw [hcons, walk_append_slash, ih (by simp)]
      rfl

/-- The elements that a walk keeps. -/
structure Kept (e : Path) : Prop where
  nonempty : e ≠ []
  slash : '/' ∉ e
  dot : e ≠ ['.']

theorem kept_cleanStep (he : '/' ∉ e) (h : ∀ t ∈ w, Kept t) : ∀ t ∈ cleanStep i w e, Kept t := by
  intro t ht
  unfold cleanStep at ht
  split at ht
  · exact h t ht
  · rename_i hkept
    have hnew : Kept e := ⟨fun h => hkept (.inl h), he, fun h => hkept (.inr h)⟩
    split at ht
    · split at ht
      · split at ht
        · nomatch ht
        · rw [List.mem_singleton] at ht
          exact ht ▸ hnew
      · split at ht
        · rcases List.mem_cons.mp ht with rfl | ht
          · exact hnew
          · exact h t ht
        · exact h t (List.mem_cons_of_mem _ ht)
    · rcases List.mem_cons.mp ht with rfl | ht
      · exact hnew
      · exact h t ht

theorem kept_foldl (hl : ∀ e ∈ l, '/' ∉ e) (h : ∀ t ∈ w, Kept t) :
    ∀ t ∈ l.foldl (cleanStep i) w, Kept t := by
  induction l generalizing w with
  | nil => exact h
  | cons e l ih =>
    exact ih (fun e' he' => hl e' (List.mem_cons_of_mem e he'))
      (kept_cleanStep (hl e List.mem_cons_self) h)

theorem notMem_of_mem_splitOn (he : e ∈ p.splitOn '/') : '/' ∉ e := by
  induction p generalizing e with
  | nil => simp_all
  | cons c p ih =>
    rw [List.splitOn_cons_eq_if_modifyHead] at he
    split at he
    · rcases List.mem_cons.mp he with rfl | he
      · simp
      · exact ih he
    · rename_i hc
      cases hsplit : p.splitOn '/' with
      | nil => simp [hsplit] at he
      | cons x xs =>
        rw [hsplit, List.modifyHead_cons] at he
        rcases List.mem_cons.mp he with rfl | he
        · have hx := ih (e := x) (by rw [hsplit]; exact List.mem_cons_self)
          simp only [List.mem_cons, not_or]
          exact ⟨fun h => hc (h ▸ beq_self_eq_true '/'), hx⟩
        · exact ih (by rw [hsplit]; exact List.mem_cons_of_mem x he)

theorem kept_walk : ∀ t ∈ walk i [] p, Kept t :=
  kept_foldl (fun _ he => notMem_of_mem_splitOn he) (by simp)

/-- **A path that was walked is walked over again with the same result**:
from anywhere if it was a relative path, and from the root if it was a
rooted one. -/
theorem foldl_foldl (hl : ∀ e ∈ l, '/' ∉ e) (h : i = true → r = true ∧ w = []) :
    (l.foldl (cleanStep i) []).reverse.foldl (cleanStep r) w = l.foldl (cleanStep r) w := by
  induction l using List.reverseRecOn with
  | nil => rfl
  | append_singleton l e ih =>
    have hl' : ∀ e ∈ l, '/' ∉ e := fun e' he' => hl e' (List.mem_append_left _ he')
    have hkept : ∀ t ∈ l.foldl (cleanStep i) [], Kept t := kept_foldl hl' (by simp)
    have ih := ih hl'
    rw [List.foldl_append, List.foldl_append, List.foldl_cons, List.foldl_nil, List.foldl_cons,
      List.foldl_nil, ← ih]
    generalize l.foldl (cleanStep i) [] = done at hkept ih ⊢
    by_cases hskip : e = [] ∨ e = ['.']
    · simp [cleanStep, hskip]
    by_cases hup : e = ['.', '.']
    · subst hup
      cases done with
      | nil =>
        cases i with
        | false => rfl
        | true =>
          obtain ⟨rfl, rfl⟩ := h rfl
          rfl
      | cons t done =>
        by_cases ht : t = ['.', '.']
        · subst ht
          simp [cleanStep]
        · -- the element before it is undone, here as in the walk from `w`
          have hk := hkept t List.mem_cons_self
          have hstep : ∀ x, cleanStep r x t = t :: x := fun x => by
            simp [cleanStep, hk.nonempty, hk.dot, ht]
          have hback : ∀ j x, cleanStep j (t :: x) ['.', '.'] = x := fun j x => by
            simp [cleanStep, ht]
          rw [hback, List.reverse_cons, List.foldl_append, List.foldl_cons, List.foldl_nil, hstep,
            hback]
    · have hpush : ∀ j x, cleanStep j x e = e :: x := fun j x => by
        unfold cleanStep
        rw [if_neg hskip, if_neg hup]
      rw [hpush, List.reverse_cons, List.foldl_append, List.foldl_cons, List.foldl_nil]

/-! ## Cleaned paths -/

theorem clean_eq : clean p =
    if p.rooted then '/' :: ['/'].intercalate (walk p.rooted [] p).reverse
    else if ['/'].intercalate (walk p.rooted [] p).reverse = [] then ['.']
    else ['/'].intercalate (walk p.rooted [] p).reverse := rfl

theorem clean_ne : clean p ≠ [] := by
  rw [clean_eq]
  split
  · simp
  · split
    · simp
    · assumption

theorem intercalate_eq_nil (h : ['/'].intercalate l = []) : l.foldl (cleanStep r) w = w := by
  rcases l with _ | ⟨a, _ | ⟨b, l⟩⟩
  · rfl
  · obtain rfl : a = [] := by simpa [List.intercalate] using h
    rfl
  · simp [List.intercalate] at h

/-- What is left of a path leads where the path leads. -/
theorem walk_clean (h : p.rooted = true → r = true ∧ w = []) :
    walk r w (clean p) = walk r w p := by
  have hagain := foldl_foldl (r := r) (w := w) (fun e he => notMem_of_mem_splitOn (p := p) he) h
  have hinter : ∀ es : List Path, (∀ e ∈ es, Kept e) →
      walk r w (['/'].intercalate es) = es.foldl (cleanStep r) w := by
    intro es hes
    cases es with
    | nil => rfl
    | cons e es =>
      unfold walk
      rw [List.splitOn_intercalate '/' (fun e' he' => (hes e' he').slash) (by simp)]
  have hkept : ∀ e ∈ (walk p.rooted [] p).reverse, Kept e := fun e he =>
    kept_walk e (List.mem_reverse.mp he)
  rw [clean_eq]
  split
  · -- a rooted path begins with an empty element
    have hslash : ('/' :: ['/'].intercalate (walk p.rooted [] p).reverse) =
        [] ++ '/' :: ['/'].intercalate (walk p.rooted [] p).reverse := rfl
    rw [hslash, walk_append_slash, walk_nil, hinter _ hkept]
    exact hagain
  · split
    · rename_i hnil
      have hnone := intercalate_eq_nil (r := r) (w := w) hnil
      have hdot : walk r w ['.'] = w := by
        unfold walk
        rw [List.splitOn_eq_singleton (by simp)]
        simp [cleanStep]
      rw [hdot]
      exact hnone.symm.trans hagain
    · rw [hinter _ hkept]
      exact hagain

@[simp] theorem rooted_clean : (clean p).rooted = p.rooted := by
  rw [clean_eq]
  split
  · rename_i h
    rw [h]
    rfl
  · rename_i h
    have hp : p.rooted = false := by simpa using h
    rw [hp]
    split
    · rfl
    · cases hes : (walk false [] p).reverse with
      | nil => rfl
      | cons e es =>
        have he : Kept e := kept_walk e (List.mem_reverse.mp (hes ▸ List.mem_cons_self))
        cases e with
        | nil => exact absurd rfl he.nonempty
        | cons c e =>
          have hc : c ≠ '/' := fun h => he.slash (h ▸ List.mem_cons_self)
          cases es <;> simp [List.intercalate, rooted, hc]

theorem locate_clean : locate (clean p) = locate p := by
  unfold locate
  rw [rooted_clean, walk_clean fun h => ⟨h, rfl⟩]

/-! ## Joined paths -/

theorem foldl_walk_filter : (l.filter (· ≠ [])).foldl (walk r) w = l.foldl (walk r) w := by
  induction l generalizing w with
  | nil => rfl
  | cons a l ih =>
    by_cases ha : a = []
    · subst ha
      rw [List.filter_cons_of_neg (by simp), ih, List.foldl_cons, walk_nil]
    · rw [List.filter_cons_of_pos (by simpa using ha), List.foldl_cons, ih, List.foldl_cons]

theorem join_cons (ha : a ≠ []) :
    join (a :: l) = clean (['/'].intercalate (a :: l.filter (· ≠ []))) := by
  unfold join
  rw [List.filter_cons_of_pos (by simpa using ha)]
  simp

theorem join_ne (ha : a ≠ []) : join (a :: l) ≠ [] := by
  rw [join_cons ha]
  exact clean_ne

@[simp] theorem rooted_join (ha : a ≠ []) : (join (a :: l)).rooted = a.rooted := by
  rw [join_cons ha, rooted_clean]
  cases a with
  | nil => exact absurd rfl ha
  | cons c a => cases l.filter (· ≠ []) <;> simp [List.intercalate, rooted]

theorem walk_join (ha : a ≠ []) (h : a.rooted = true → r = true ∧ w = []) :
    walk r w (join (a :: l)) = (a :: l).foldl (walk r) w := by
  have hrooted : rooted (['/'].intercalate (a :: l.filter (· ≠ []))) = a.rooted := by
    rw [← rooted_clean, ← join_cons ha, rooted_join ha]
  rw [join_cons ha, walk_clean (by rw [hrooted]; exact h), walk_intercalate (by simp),
    List.foldl_cons, List.foldl_cons, foldl_walk_filter]

/-- **A joined path leads where its parts lead**, one after the other. -/
theorem locate_join (ha : a ≠ []) :
    locate (join (a :: l)) = ⟨a.rooted, ((a :: l).foldl (walk a.rooted) []).reverse⟩ := by
  unfold locate
  rw [rooted_join ha, walk_join ha fun h => ⟨h, rfl⟩]

/-- Joined paths that lead to one place are one text. -/
theorem join_eq_of_locate {l' : List Path} (ha : a ≠ []) (hb : b ≠ [])
    (h : locate (join (a :: l)) = locate (join (b :: l'))) : join (a :: l) = join (b :: l') := by
  rw [join_cons ha, join_cons hb] at h ⊢
  rw [locate_clean, locate_clean] at h
  obtain ⟨hrooted, hwalk⟩ := Location.mk.inj h
  rw [clean_eq, clean_eq, hwalk, hrooted]

/-- Parts that were joined before, in front. -/
theorem locate_join_join_left {l' : List Path} (ha : a ≠ []) :
    locate (join (join (a :: l) :: l')) = locate (join (a :: (l ++ l'))) := by
  rw [locate_join (join_ne ha), locate_join ha, rooted_join ha, List.foldl_cons,
    walk_join ha fun h => ⟨h, rfl⟩, ← List.cons_append, List.foldl_append]

/-- Parts that were joined before, at the end, if they are relative. -/
theorem locate_join_join_right (ha : a ≠ []) (hb : b ≠ []) (hrel : b.rooted = false) :
    locate (join [a, join (b :: l)]) = locate (join (a :: b :: l)) := by
  rw [locate_join ha, locate_join ha, List.foldl_cons, List.foldl_cons, List.foldl_nil,
    walk_join hb (by simp [hrel])]
  rfl

/-! ## Inside -/

/-- **Segments do not lead out.** -/
theorem inside_join_segments (ha : a ≠ []) (hl : ∀ s ∈ l, Segment s) :
    Inside (locate a) (locate (join (a :: l))) := by
  have hfold : ∀ (l w : List Path), (∀ s ∈ l, Segment s) →
      l.foldl (walk a.rooted) w = l.reverse ++ w := by
    intro l
    induction l with
    | nil => exact fun _ _ => rfl
    | cons s l ih =>
      intro w hl
      rw [List.foldl_cons, walk_segment (hl s List.mem_cons_self),
        ih _ fun s' hs' => hl s' (List.mem_cons_of_mem s hs')]
      simp
  rw [locate_join ha]
  refine ⟨rfl, ?_⟩
  simp only [locate, List.foldl_cons, hfold l _ hl, List.reverse_append, List.reverse_reverse]
  exact List.prefix_append _ _

/-! ## Paths that climb -/

/-- On the stack of a walk from nowhere, the elements that climb are at the
bottom, and a rooted walk has none. -/
def Climbs (r : Bool) (w : List Path) : Prop :=
  ∃ a b, w = a ++ b ∧ (∀ e ∈ a, e ≠ ['.', '.']) ∧ (∀ e ∈ b, e = ['.', '.']) ∧ (r = true → b = [])

theorem climbs_cleanStep (h : Climbs r w) : Climbs r (cleanStep r w e) := by
  obtain ⟨a, b, rfl, ha, hb, hr⟩ := h
  unfold cleanStep
  split
  · exact ⟨a, b, rfl, ha, hb, hr⟩
  · split
    · rename_i hup
      cases a with
      | nil =>
        cases b with
        | nil =>
          cases r with
          | true => exact ⟨[], [], rfl, by simp, by simp, by simp⟩
          | false => exact ⟨[], [e], rfl, by simp, by simp [hup], by simp⟩
        | cons t b =>
          have ht := hb t List.mem_cons_self
          refine ⟨[], e :: t :: b, by simp [ht], by simp, ?_, fun h => by simpa using hr h⟩
          intro x hx
          rcases List.mem_cons.mp hx with rfl | hx
          · exact hup
          · exact hb x hx
      | cons t a =>
        have ht := ha t List.mem_cons_self
        refine ⟨a, b, by simp [ht], fun x hx => ha x (List.mem_cons_of_mem t hx), hb, hr⟩
    · rename_i hup
      refine ⟨e :: a, b, rfl, fun x hx => ?_, hb, hr⟩
      rcases List.mem_cons.mp hx with rfl | hx
      · exact hup
      · exact ha x hx

theorem climbs_foldl {l : List Path} (h : Climbs r w) : Climbs r (l.foldl (cleanStep r) w) := by
  induction l generalizing w with
  | nil => exact h
  | cons e l ih => exact ih (climbs_cleanStep h)

theorem climbs_walk : Climbs r (walk r [] p) :=
  climbs_foldl ⟨[], [], rfl, by simp, by simp, fun _ => rfl⟩

theorem Climbs.head_ne (h : Climbs true (s :: w)) : s ≠ ['.', '.'] := by
  obtain ⟨a, b, heq, ha, -, hb⟩ := h
  rw [hb rfl, List.append_nil] at heq
  exact ha s (heq ▸ List.mem_cons_self)

theorem Climbs.all_of_head (h : Climbs r (['.', '.'] :: w)) : ∀ e ∈ w, e = ['.', '.'] := by
  obtain ⟨a, b, heq, ha, hb, -⟩ := h
  cases a with
  | nil =>
    intro e he
    rw [List.nil_append] at heq
    exact hb e (heq ▸ List.mem_cons_of_mem _ he)
  | cons t a =>
    obtain ⟨rfl, -⟩ := List.cons.inj heq
    exact absurd rfl (ha _ List.mem_cons_self)

theorem cleanStep_normal (hs : Kept s) (hup : s ≠ ['.', '.']) : cleanStep r w s = s :: w := by
  unfold cleanStep
  rw [if_neg (by simp [hs.nonempty, hs.dot]), if_neg hup]

/-- The elements that a cleaned path is written with. -/
theorem splitOn_clean : (clean q).splitOn '/' =
    if q.rooted then [] :: (if walk true [] q = [] then [[]] else (walk true [] q).reverse)
    else if walk false [] q = [] then [['.']] else (walk false [] q).reverse := by
  have hkept : ∀ r, ∀ e ∈ (walk r [] q).reverse, '/' ∉ e := fun r e he =>
    (kept_walk e (List.mem_reverse.mp he)).slash
  have hne : ∀ r, walk r [] q ≠ [] → ['/'].intercalate (walk r [] q).reverse ≠ [] := by
    intro r hne hnil
    cases hes : (walk r [] q).reverse with
    | nil => exact hne (List.reverse_eq_nil_iff.mp hes)
    | cons e es =>
      have he : Kept e := kept_walk e (List.mem_reverse.mp (hes ▸ List.mem_cons_self))
      rw [hes] at hnil
      cases es with
      | nil => exact he.nonempty (by simpa [List.intercalate] using hnil)
      | cons e' es => simp [List.intercalate] at hnil
  rw [clean_eq]
  cases hr : q.rooted with
  | true =>
    simp only [if_true]
    have hcons : ('/' :: ['/'].intercalate (walk true [] q).reverse) =
      [] ++ '/' :: ['/'].intercalate (walk true [] q).reverse := rfl
    rw [hcons, List.splitOn_append_cons_self]
    by_cases hnil : walk true [] q = []
    · rw [if_pos hnil, hnil]
      rfl
    · rw [if_neg hnil, List.splitOn_intercalate '/' (hkept true) (by simpa using hnil)]
      rfl
  | false =>
    simp only [Bool.false_eq_true, if_false]
    by_cases hnil : walk false [] q = []
    · rw [if_pos hnil, hnil]
      rfl
    · rw [if_neg hnil, if_neg (hne false hnil), List.splitOn_intercalate '/' (hkept false) (by simpa using hnil)]

/-- A path in front of its last slash, and what follows. -/
theorem split_eq (p : Path) : (split p).1 = [] ∧ (split p).2 = p ∧ '/' ∉ p ∨
    ∃ y s, p = y ++ '/' :: s ∧ '/' ∉ s ∧ split p = (y ++ ['/'], s) := by
  induction p using List.reverseRecOn with
  | nil => exact .inl ⟨rfl, rfl, by simp⟩
  | append_singleton l c ih =>
    by_cases hc : c = '/'
    · subst hc
      exact .inr ⟨l, [], rfl, by simp, split_snoc (by simp)⟩
    · rcases ih with ⟨-, -, hl⟩ | ⟨y, s, rfl, hs, -⟩
      · have hnone : '/' ∉ l ++ [c] := by simp [hl, Ne.symm hc]
        refine .inl ⟨?_, ?_, hnone⟩
        · unfold split
          rw [List.rdropWhile_eq_nil_iff]
          intro x hx
          have hne : x ≠ '/' := fun h => hnone (h ▸ hx)
          simpa using hne
        · unfold split
          rw [List.rtakeWhile_eq_self_iff]
          intro x hx
          have hne : x ≠ '/' := fun h => hnone (h ▸ hx)
          simpa using hne
      · have hs' : '/' ∉ s ++ [c] := by simp [hs, Ne.symm hc]
        refine .inr ⟨y, s ++ [c], by simp, hs', ?_⟩
        have := split_snoc (p := y) hs'
        simpa using this

/-! ## Names at the end of a path -/

theorem intercalate_concat (hl : l ≠ []) :
    ['/'].intercalate (l ++ [s]) = ['/'].intercalate l ++ '/' :: s := by
  induction l with
  | nil => exact absurd rfl hl
  | cons a l ih =>
    cases l with
    | nil => simp [List.intercalate]
    | cons b l =>
      have hrest := ih (List.cons_ne_nil b l)
      rw [List.cons_append, List.cons_append, List.intercalate_cons_cons, List.intercalate_cons_cons,
        ← List.cons_append, hrest, List.append_assoc, List.append_assoc, List.append_assoc]

/-- A name is put behind where the path before it leads. -/
theorem locate_slash (hs : Segment s) : locate (a ++ '/' :: s) =
    ⟨(a ++ ['/']).rooted, (walk (a ++ ['/']).rooted [] a).reverse ++ [s]⟩ := by
  have hrooted : (a ++ '/' :: s).rooted = (a ++ ['/']).rooted := by
    cases a <;> rfl
  unfold locate
  rw [hrooted, walk_append_slash, walk_segment hs, List.reverse_cons]

/-- A path joined from a directory and two names ends with the second. -/
theorem exists_join_eq (ha : a ≠ []) (hb : Segment b) (hs : Segment s) :
    ∃ front, join [a, b, s] = front ++ '/' :: s := by
  have hwalk : ∀ i, walk i [] (['/'].intercalate [a, b, s]) = s :: b :: walk i [] a := by
    intro i
    rw [walk_intercalate (List.cons_ne_nil _ _), List.foldl_cons, List.foldl_cons, List.foldl_cons,
      List.foldl_nil, walk_segment hb, walk_segment hs]
  have hfilter : [b, s].filter (· ≠ []) = [b, s] := by
    simp [hb.nonempty, hs.nonempty]
  rw [join_cons ha, hfilter, clean_eq, hwalk, List.reverse_cons, List.reverse_cons,
    intercalate_concat (by simp)]
  split
  · exact ⟨_, (List.cons_append).symm⟩
  · rw [if_neg (by simp)]
    exact ⟨_, rfl⟩

/-! ## Below a directory -/

/-- The location that elements lead to from a directory. -/
def Location.under (d : Location) (l : List Path) : Location := ⟨d.rooted, d.elements ++ l⟩

theorem inside_iff {d k : Location} : Inside d k ↔ ∃ l, k = d.under l := by
  constructor
  · rintro ⟨hrooted, l, hl⟩
    exact ⟨l, by rw [Location.under, hrooted, hl]⟩
  · rintro ⟨l, rfl⟩
    exact ⟨rfl, List.prefix_append _ _⟩

theorem inside_under {d : Location} : Inside d (d.under l) := inside_iff.mpr ⟨l, rfl⟩

/-- **Strictly below a directory**: in it, and not the directory itself. -/
def Below (d k : Location) : Prop := Inside d k ∧ k ≠ d

instance (d k : Location) : Decidable (Below d k) := inferInstanceAs (Decidable (_ ∧ _))

/-- Two directories have nothing in common. -/
def Apart (d d' : Location) : Prop := ∀ k, Inside d k → ¬ Inside d' k

/-- Directories in one place with different names are apart. -/
theorem apart_of_ne {d : Location} {e s : Path} (h : e ≠ s) : Apart (d.under [e]) (d.under [s]) := by
  intro k hk hk'
  obtain ⟨l, rfl⟩ := inside_iff.mp hk
  obtain ⟨l', hl'⟩ := inside_iff.mp hk'
  simp only [Location.under, Location.mk.injEq, List.append_assoc, List.append_cancel_left_eq,
    List.singleton_append, List.cons.injEq] at hl'
  exact h hl'.2.1

end Path

end Portainer
