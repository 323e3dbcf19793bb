import Portainer.Common.FileTree
/-!
# Overlays — files laid over a tree

A program that only makes directories and writes files leaves the tree it
found with some files laid over it: a file that was written holds what was
written last, and every other file is as it was. What is on the tree stays
in directories, under names that are no paths.
-/

namespace Portainer

/-! ## Paths that lead down

A path *descends* along some names if it leads to them from everywhere.
Below an absolute path in its cleaned form, joining is writing the names
behind one another with slashes in between (`Absolute.join_eq`), so that the
front of such a path can be cut off again as a text. -/

namespace Path

variable {a p q s : Path} {cwd l rel : List Path} {w : List Path}

/-- **The path leads down along the names**, from everywhere. -/
def Descends (p : Path) (rel : List Path) : Prop := ∀ w, walk true w p = rel.reverse ++ w

/-- The names with a slash in front of each. -/
def spell (rel : List Path) : Path := rel.flatMap fun s => '/' :: s

/-- The names joined to a path, one after the other. -/
def under (p : Path) (rel : List Path) : Path := rel.foldl (fun p name => join [p, name]) p

theorem descends_dot : Descends ['.'] [] := fun _ => rfl

theorem descends_segment (hs : Segment s) : Descends s [s] := fun _ => walk_segment hs

theorem spell_cons : spell (s :: rel) = '/' :: s ++ spell rel := rfl

theorem spell_append : spell (l ++ rel) = spell l ++ spell rel := List.flatMap_append

/-- A path and a slash and some names. -/
theorem walk_append_spell (hrel : ∀ s ∈ rel, Segment s) :
    walk true w (p ++ spell rel) = rel.reverse ++ walk true w p := by
  induction rel using List.reverseRecOn with
  | nil =>
    show walk true w (p ++ []) = _
    rw [List.append_nil]
    rfl
  | append_singleton rel s ih =>
    have hs : Segment s := hrel s (List.mem_append_right rel List.mem_cons_self)
    have hsnoc : p ++ spell (rel ++ [s]) = (p ++ spell rel) ++ '/' :: s := by
      rw [spell_append, spell_cons, List.append_assoc]
      simp [spell]
    rw [hsnoc, walk_append_slash, ih fun s' hs' => hrel s' (List.mem_append_left _ hs'), walk_segment hs,
      List.reverse_append]
    rfl

theorem descends_spell (hrel : ∀ s ∈ rel, Segment s) : Descends (spell rel) rel := fun w => by
  have hwalk := walk_append_spell (w := w) (p := []) hrel
  rwa [List.nil_append, walk_nil] at hwalk

/-! ## Joined paths -/

theorem resolve_join (ha : a ≠ []) (hp : Descends p rel) : resolve cwd (join [a, p]) = resolve cwd a ++ rel := by
  unfold resolve
  rw [rooted_join ha]
  cases hr : a.rooted with
  | true =>
    rw [if_pos rfl, walk_join ha fun _ => ⟨rfl, rfl⟩, List.foldl_cons, List.foldl_cons, List.foldl_nil, hp,
      List.reverse_append, List.reverse_reverse]
  | false =>
    rw [if_neg Bool.false_ne_true, walk_join ha (by simp [hr]), List.foldl_cons, List.foldl_cons, List.foldl_nil,
      hp, List.reverse_append, List.reverse_reverse]

instance : Decidable (Segment s) :=
  decidable_of_iff (s ≠ [] ∧ '/' ∉ s ∧ s ≠ ['.'] ∧ s ≠ ['.', '.'])
    ⟨fun hs => ⟨hs.1, hs.2.1, hs.2.2.1, hs.2.2.2⟩, fun hs => ⟨hs.nonempty, hs.slash, hs.dot, hs.dotdot⟩⟩

/-! ## Absolute paths -/

/-- **An absolute path** in its cleaned form, other than the root. -/
structure Absolute (p : Path) : Prop where
  rooted : p.rooted = true
  cleaned : clean p = p
  deep : walk true [] p ≠ []

theorem intercalate_append_spell (hl : l ≠ []) :
    ['/'].intercalate (l ++ rel) = ['/'].intercalate l ++ spell rel := by
  induction rel using List.reverseRecOn with
  | nil => rw [List.append_nil]; exact (List.append_nil _).symm
  | append_singleton rel s ih =>
    have hne : l ++ rel ≠ [] := by simp [hl]
    rw [← List.append_assoc, intercalate_concat hne, ih, spell_append, spell_cons, List.append_assoc]
    simp [spell]

theorem clean_clean : clean (clean p) = clean p := by
  rw [clean_eq (p := clean p), rooted_clean, walk_clean fun h => ⟨h, rfl⟩, ← clean_eq]

theorem foldl_walk_segments (hrel : ∀ s ∈ rel, Segment s) : rel.foldl (walk true) w = rel.reverse ++ w := by
  induction rel generalizing w with
  | nil => rfl
  | cons s rel ih =>
    rw [List.foldl_cons, walk_segment (hrel s List.mem_cons_self),
      ih fun s' hs' => hrel s' (List.mem_cons_of_mem s hs')]
    simp

theorem trimPrefix_append (t p : Path) : trimPrefix t (t ++ p) = p := by
  rw [trimPrefix, if_pos (List.prefix_append t p), List.drop_left]

/-- The names with slashes are clean, and nothing is the current directory. -/
theorem clean_spell (hrel : ∀ s ∈ rel, Segment s) : clean (spell rel) = if rel = [] then ['.'] else spell rel := by
  cases rel with
  | nil => rfl
  | cons s rel =>
    have hrooted : (spell (s :: rel)).rooted = true := rfl
    have hwalk : walk true [] (spell (s :: rel)) = (s :: rel).reverse ++ [] := descends_spell hrel []
    rw [if_neg (List.cons_ne_nil s rel), clean_eq, hrooted, if_pos rfl, hwalk, List.append_nil, List.reverse_reverse]
    show '/' :: ['/'].intercalate ([s] ++ rel) = _
    rw [intercalate_append_spell (List.cons_ne_nil s [])]
    simp [spell_cons, List.intercalate]

theorem descends_clean_spell (hrel : ∀ s ∈ rel, Segment s) : Descends (clean (spell rel)) rel := by
  rw [clean_spell hrel]
  split
  · rename_i hnil
    subst hnil
    exact descends_dot
  · exact descends_spell hrel

namespace Absolute

theorem ne_nil (hp : Absolute p) : p ≠ [] := by
  rintro rfl
  exact absurd hp.rooted (by decide)

/-- **Joining names to an absolute path** is writing them behind it. -/
theorem join_eq (hp : Absolute p) (hrel : ∀ s ∈ rel, Segment s) : join (p :: rel) = p ++ spell rel := by
  have hjoined : (join (p :: rel)).rooted = true := (rooted_join hp.ne_nil).trans hp.rooted
  have hcleaned : clean (join (p :: rel)) = join (p :: rel) := by
    rw [join_cons hp.ne_nil]
    exact clean_clean
  have hwalk : walk true [] (join (p :: rel)) = rel.reverse ++ walk true [] p := by
    rw [walk_join hp.ne_nil fun _ => ⟨rfl, rfl⟩, List.foldl_cons, foldl_walk_segments hrel]
  have happend : join (p :: rel) = clean p ++ spell rel := by
    rw [← hcleaned, clean_eq, clean_eq, hjoined, hp.rooted, if_pos rfl, if_pos rfl, hwalk, List.reverse_append,
      List.reverse_reverse, intercalate_append_spell (by simpa using hp.deep)]
    rfl
  rw [happend, hp.cleaned]

/-- One name joined to an absolute path. -/
theorem join_pair (hp : Absolute p) (hs : Segment s) : join [p, s] = p ++ '/' :: s := by
  rw [hp.join_eq fun s' hs' => List.mem_singleton.mp hs' ▸ hs, spell_cons]
  simp [spell]

/-- A way down from an absolute path. -/
theorem of_descends (ha : Absolute a) (hp : Descends p rel) : Absolute (join [a, p]) := by
  refine ⟨(rooted_join ha.ne_nil).trans ha.rooted, ?_, ?_⟩
  · rw [join_cons ha.ne_nil]
    exact clean_clean
  · rw [walk_join ha.ne_nil fun _ => ⟨rfl, rfl⟩, List.foldl_cons, List.foldl_cons, List.foldl_nil, hp]
    simp [ha.deep]

theorem of_pair (hp : Absolute p) (hs : Segment s) : Absolute (join [p, s]) :=
  hp.of_descends (descends_segment hs)

theorem under_eq (hp : Absolute p) (hrel : ∀ s ∈ rel, Segment s) : under p rel = p ++ spell rel := by
  induction rel generalizing p with
  | nil => exact (List.append_nil p).symm
  | cons s rel ih =>
    have hs : Segment s := hrel s List.mem_cons_self
    show under (join [p, s]) rel = _
    rw [ih (hp.of_pair hs) fun s' hs' => hrel s' (List.mem_cons_of_mem s hs'), hp.join_pair hs, spell_cons,
      List.append_assoc]

end Absolute

end Path

open Path (walk cleanStep Segment Kept kept_cleanStep notMem_of_mem_splitOn Absolute Descends under)

namespace FileTree

variable {t t₀ : FileTree} {F G : List Path → Option String} {l d : List Path} {s : Path} {content : String}

/-! ## Where paths lead -/

theorem segment_cleanStep {e : Path} {w : List Path} (he : '/' ∉ e) (hw : ∀ s ∈ w, Segment s) :
    ∀ s ∈ cleanStep true w e, Segment s := by
  intro s hs
  have hkept : Kept s := kept_cleanStep he (fun t ht => ⟨(hw t ht).nonempty, (hw t ht).slash, (hw t ht).dot⟩) s hs
  refine ⟨hkept.nonempty, hkept.slash, hkept.dot, ?_⟩
  unfold cleanStep at hs
  split at hs
  · exact (hw s hs).dotdot
  · split at hs
    · cases w with
      | nil => exact absurd hs List.not_mem_nil
      | cons top w =>
        have htop : top ≠ ['.', '.'] := (hw top List.mem_cons_self).dotdot
        simp only [htop, if_false] at hs
        exact (hw s (List.mem_cons_of_mem top hs)).dotdot
    · rename_i hup
      rcases List.mem_cons.mp hs with rfl | hs
      · exact hup
      · exact (hw s hs).dotdot

/-- **A path leads to names that are no paths**, from a directory that is
reached by such names. -/
theorem segment_resolve {cwd : List Path} {p : Path} (hcwd : ∀ s ∈ cwd, Segment s) :
    ∀ s ∈ resolve cwd p, Segment s := by
  have hfold : ∀ (l w : List Path), (∀ e ∈ l, '/' ∉ e) → (∀ s ∈ w, Segment s) →
      ∀ s ∈ l.foldl (cleanStep true) w, Segment s := by
    intro l
    induction l with
    | nil => exact fun _ _ hw => hw
    | cons e l ih =>
      intro w hl hw
      exact ih _ (fun x hx => hl x (List.mem_cons_of_mem e hx)) (segment_cleanStep (hl e List.mem_cons_self) hw)
  intro s hs
  refine hfold (p.splitOn '/') _ (fun _ he => notMem_of_mem_splitOn he) ?_ s (List.mem_reverse.mp hs)
  split
  · exact fun s hs => absurd hs List.not_mem_nil
  · exact fun s hs => hcwd s (List.mem_reverse.mp hs)

/-- An absolute path ends in a name. -/
theorem exists_snoc_of_absolute {p : Path} (hp : Absolute p) : ∃ q s, Segment s ∧ p = q ++ '/' :: s := by
  have hresolve : resolve [] p = (walk true [] p).reverse := by rw [resolve, hp.rooted, if_pos rfl]
  obtain ⟨l, s, hls⟩ := (List.eq_nil_or_concat (walk true [] p).reverse).resolve_left (by simpa using hp.deep)
  rw [List.concat_eq_append] at hls
  have hnil : ∀ s ∈ ([] : List Path), Segment s := fun _ hs => absurd hs List.not_mem_nil
  have hs : Segment s := segment_resolve hnil s (by
    rw [hresolve, hls]
    exact List.mem_append_right l (List.mem_singleton_self s))
  have hcleaned := hp.cleaned
  rw [Path.clean_eq, hp.rooted, if_pos rfl, hls] at hcleaned
  by_cases hl : l = []
  · subst hl
    exact ⟨[], s, hs, by rw [← hcleaned]; simp [List.intercalate]⟩
  · exact ⟨'/' :: ['/'].intercalate l, s, hs, by rw [← hcleaned, Path.intercalate_concat hl]; simp⟩

/-- The directory of an absolute path is one name above it. -/
theorem resolve_dir_of_absolute (cwd : List Path) {p : Path} (hp : Absolute p) :
    ∃ s, Segment s ∧ resolve cwd p = resolve cwd (Path.dir p) ++ [s] := by
  obtain ⟨q, s, hs, rfl⟩ := exists_snoc_of_absolute hp
  have hfront : (q ++ ['/']).rooted = true := by
    have hrooted := hp.rooted
    cases q <;> exact hrooted
  refine ⟨s, hs, ?_⟩
  rw [Path.dir, Path.split_snoc hs.slash, resolve_clean, resolve, resolve, hp.rooted, hfront, if_pos rfl,
    Path.walk_append_slash, Path.walk_append_slash, Path.walk_segment hs, Path.walk_nil, List.reverse_cons]

/-- **An absolute path that leads to a location.** -/
structure Located (t : FileTree) (p : Path) (l : List Path) : Prop where
  absolute : Absolute p
  leads : resolve t.workingDirectory p = l

namespace Located

variable {p q : Path} {rel : List Path}

theorem descend (h : Located t p l) (hq : Descends q rel) : Located t (Path.join [p, q]) (l ++ rel) :=
  ⟨h.absolute.of_descends hq, by rw [Path.resolve_join h.absolute.ne_nil hq, h.leads]⟩

theorem join (h : Located t p l) (hs : Segment s) : Located t (Path.join [p, s]) (l ++ [s]) :=
  h.descend (Path.descends_segment hs)

theorem under (h : Located t p l) (hrel : ∀ s ∈ rel, Segment s) : Located t (under p rel) (l ++ rel) := by
  induction rel generalizing p l with
  | nil => rwa [List.append_nil]
  | cons s rel ih =>
    have hrest := ih (h.join (hrel s List.mem_cons_self)) fun s' hs' => hrel s' (List.mem_cons_of_mem s hs')
    rwa [List.append_assoc] at hrest

end Located

theorem WellFormed.segment_workingDirectory (ht : t.WellFormed) : ∀ s ∈ t.workingDirectory, Segment s := by
  refine ht.segment _ ?_
  rw [t.node_of_prefix _ List.prefix_rfl]
  exact Option.some_ne_none _

/-- Below what is no directory there is nothing. -/
theorem WellFormed.content?_below (ht : t.WellFormed) (hl : t.node l ≠ some .directory) (hne : d ≠ l)
    (hd : l <+: d) : t.content? d = none := by
  cases hcontent : t.content? d with
  | none => rfl
  | some c =>
    have hnode : t.node d ≠ none := by
      rw [content?_eq_some.mp hcontent]
      exact Option.some_ne_none _
    exact absurd (ht.parent d hnode l hd (Ne.symm hne)) hl

/-- No file lies below another. -/
theorem WellFormed.eq_of_content? (ht : t.WellFormed) (hl : t.content? l ≠ none) (hd : t.content? d ≠ none)
    (hfront : l <+: d) : l = d := by
  by_contra hne
  refine hd (ht.content?_below (fun hdirectory => hl ?_) (Ne.symm hne) hfront)
  rw [content?, hdirectory]

/-! ## Operations -/

theorem node_mkdirAll_of_not (hd : ¬ d <+: l) : (t.mkdirAll l).node d = t.node d :=
  if_neg fun hmade => hd hmade.1

theorem content?_mkdirAll : (t.mkdirAll l).content? d = t.content? d := by
  unfold content?
  by_cases h : d <+: l ∧ t.node d = none
  · rw [show (t.mkdirAll l).node d = some .directory from if_pos h, h.2]
  · rw [show (t.mkdirAll l).node d = t.node d from if_neg h]

theorem content?_withFile (hl : t.node l ≠ some .directory) :
    (t.withFile l content).content? d = if d = l then some content else t.content? d := by
  by_cases hd : d = l
  · subst hd
    rw [if_pos rfl, content?_eq_some]
    exact node_withFile_self hl
  · rw [if_neg hd]
    unfold content?
    rw [node_withFile_of_ne hd]

theorem WellFormed.mkdirAll (ht : t.WellFormed) (hl : t.canMkdirAll l = true) (hsegments : ∀ s ∈ l, Segment s) :
    (t.mkdirAll l).WellFormed where
  parent k hk d hd hne := by
    by_cases hmade : k <+: l ∧ t.node k = none
    · exact node_mkdirAll_of_prefix hl (hd.trans hmade.1)
    · have hold : t.node k ≠ none := by
        rw [show (t.mkdirAll l).node k = t.node k from if_neg hmade] at hk
        exact hk
      exact node_mkdirAll_of_some (ht.parent k hold d hd hne)
  segment k hk := by
    by_cases hmade : k <+: l ∧ t.node k = none
    · exact fun s hs => hsegments s (hmade.1.mem hs)
    · rw [show (t.mkdirAll l).node k = t.node k from if_neg hmade] at hk
      exact ht.segment k hk

theorem WellFormed.withFile (ht : t.WellFormed) (hl : t.canCreate l = true) (hsegments : ∀ s ∈ l, Segment s) :
    (t.withFile l content).WellFormed where
  parent k hk d hd hne := by
    obtain ⟨hway, hnot⟩ := canCreate_iff.mp hl
    have hdirectory : t.node d = some .directory := by
      by_cases hkl : k = l
      · subst hkl
        exact hway d hd hne
      · rw [node_withFile_of_ne hkl] at hk
        exact ht.parent k hk d hd hne
    have hdl : d ≠ l := by
      rintro rfl
      exact hnot hdirectory
    rw [node_withFile_of_ne hdl]
    exact hdirectory
  segment k hk := by
    by_cases hkl : k = l
    · subst hkl
      exact hsegments
    · rw [node_withFile_of_ne hkl] at hk
      exact ht.segment k hk

/-! ## Overlays -/

/-- **The tree is another with the files of `F` laid over it.** -/
structure Laid (t₀ : FileTree) (F : List Path → Option String) (t : FileTree) : Prop where
  workingDirectory : t.workingDirectory = t₀.workingDirectory
  wellFormed : t.WellFormed
  content : ∀ l, t.content? l = (F l).or (t₀.content? l)

/-- One more file. -/
def put (l : List Path) (content : String) (F : List Path → Option String) : List Path → Option String :=
  fun d => if d = l then some content else F d

namespace Laid

theorem refl (ht : t.WellFormed) : Laid t (fun _ => none) t := ⟨rfl, ht, fun _ => rfl⟩

theorem congr (h : Laid t₀ F t) (hFG : ∀ l, F l = G l) : Laid t₀ G t :=
  ⟨h.workingDirectory, h.wellFormed, fun l => by rw [h.content, hFG]⟩

theorem mkdirAll (h : Laid t₀ F t) (hl : t.canMkdirAll l = true) (hsegments : ∀ s ∈ l, Segment s) :
    Laid t₀ F (t.mkdirAll l) :=
  ⟨h.workingDirectory, h.wellFormed.mkdirAll hl hsegments, fun d => content?_mkdirAll.trans (h.content d)⟩

theorem withFile (h : Laid t₀ F t) (hl : t.canCreate l = true) (hsegments : ∀ s ∈ l, Segment s) :
    Laid t₀ (put l content F) (t.withFile l content) where
  workingDirectory := h.workingDirectory
  wellFormed := h.wellFormed.withFile hl hsegments
  content d := by
    rw [content?_withFile (canCreate_iff.mp hl).2, h.content, put]
    split <;> rfl

/-- The same file again. -/
theorem rewrite (h : Laid t₀ (put l content F) t) {content' : String} :
    Laid t₀ (put l content' F) (t.withFile l content') := by
  have hfile : t.node l = some (.file content) := by
    rw [← content?_eq_some, h.content, put, if_pos rfl]
    rfl
  have hnot : t.node l ≠ some .directory := by
    rw [hfile]
    exact fun heq => nomatch heq
  have hpresent : t.node l ≠ none := hfile ▸ Option.some_ne_none _
  have hcan : t.canCreate l = true := canCreate_iff.mpr ⟨h.wellFormed.parent l hpresent, hnot⟩
  refine (h.withFile hcan (h.wellFormed.segment l hpresent)).congr fun d => ?_
  unfold put
  split <;> rfl

end Laid

/-- **Files that hold what `c` says of their place**, laid one after the
other. -/
theorem foldl_put {c : List Path → String} {fs : List (List Path × String)} (hfs : ∀ f ∈ fs, f.2 = c f.1) :
    fs.foldl (fun F f => put f.1 f.2 F) F l = if l ∈ fs.map Prod.fst then some (c l) else F l := by
  induction fs using List.reverseRecOn with
  | nil => rfl
  | append_singleton fs f ih =>
    rw [List.foldl_append, List.foldl_cons, List.foldl_nil, put, ih fun f' hf' => hfs f' (List.mem_append_left _ hf')]
    by_cases hl : l = f.1
    · rw [if_pos hl, if_pos (by simp [hl]), hl, hfs f (List.mem_append_right fs List.mem_cons_self)]
    · rw [if_neg hl]
      refine if_congr ?_ rfl rfl
      simp [hl]

/-! ## Room for files -/

/-- **The tree has room for files** at some places: none of them lies below
another, no directory is in their place and no file on the way to them. -/
structure Fits (places : Set (List Path)) (t : FileTree) : Prop where
  apart : ∀ l ∈ places, ∀ d ∈ places, d <+: l → d = l
  place : ∀ l ∈ places, t.node l ≠ some .directory
  way : ∀ l ∈ places, ∀ d, d <+: l → d ≠ l → t.node d = none ∨ t.node d = some .directory

namespace Fits

variable {places : Set (List Path)}

/-- The way to a place can be made. -/
theorem canMkdirAll (h : Fits places t) (hl : l ∈ places) (hd : d <+: l) (hne : d ≠ l) : t.canMkdirAll d = true :=
  canMkdirAll_iff.mpr fun e he => h.way l hl e (he.trans hd) fun heq =>
    hne (List.IsPrefix.eq_of_length hd (le_antisymm hd.length_le (heq ▸ he.length_le)))

/-- Directories that are no places. -/
theorem mkdirAll (h : Fits places t) (hd : ∀ e, e <+: d → e ∉ places) : Fits places (t.mkdirAll d) where
  apart := h.apart
  place l hl := by
    rw [node_mkdirAll_of_not fun hfront => hd l hfront hl]
    exact h.place l hl
  way l hl e he hne := by
    by_cases hmade : e <+: d ∧ t.node e = none
    · exact .inr (if_pos hmade)
    · rw [show (t.mkdirAll d).node e = t.node e from if_neg hmade]
      exact h.way l hl e he hne

/-- A file in one of the places. -/
theorem withFile (h : Fits places t) (hd : d ∈ places) : Fits places (t.withFile d content) where
  apart := h.apart
  place l hl := by
    by_cases heq : l = d
    · subst heq
      rw [node_withFile_self (h.place l hl)]
      simp
    · rw [node_withFile_of_ne heq]
      exact h.place l hl
  way l hl e he hne := by
    have hother : e ≠ d := by
      rintro rfl
      exact hne (h.apart l hl e hd he)
    rw [node_withFile_of_ne hother]
    exact h.way l hl e he hne

/-- A file can be created once the way to it is made. -/
theorem canCreate_mkdirAll (h : Fits places t) (hl : d ++ [s] ∈ places) :
    (t.mkdirAll d).canCreate (d ++ [s]) = true := by
  have hne : d ≠ d ++ [s] := by simp
  have hcan : t.canMkdirAll d = true := h.canMkdirAll hl (List.prefix_append d [s]) hne
  refine canCreate_iff.mpr ⟨fun e he heq => ?_, ?_⟩
  · exact node_mkdirAll_of_prefix hcan ((List.prefix_concat_iff.mp he).resolve_left heq)
  · rw [node_mkdirAll_of_not fun hfront => ?_]
    · exact h.place _ hl
    · have hlength := hfront.length_le
      simp at hlength

end Fits

end FileTree

end Portainer
