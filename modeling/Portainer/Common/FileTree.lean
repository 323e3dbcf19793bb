import Mathlib.Data.List.Infix
import Mathlib.Data.List.Dedup
import Mathlib.Data.String.Basic
import Portainer.Common.Location
/-!
# File trees — what is on a disk, by location

A file tree says of every absolute location whether there is a directory or
a file. The working directory and the directories above it are there, and
stay there: no operation takes a directory away or puts a file in its
place. A path that is not rooted is walked from the working directory.

`MkdirAll` makes the directories that are missing on the way to a location,
and fails where a file is in the way. A file can be created where the way is
all directories and no directory is in its place. A walk lists what lies at
and below a location.
-/

namespace Portainer

open Path (walk cleanStep clean dir rooted_clean walk_clean walk_nil walk_append_slash split_eq
  splitOn_clean Kept kept_walk cleanStep_normal Climbs climbs_walk)

/-- What there can be at a location. -/
inductive Node
  | directory
  | file (content : String)
  deriving DecidableEq, Repr

/-- Where a path leads, from a working directory: the elements below the
root. -/
def resolve (workingDirectory : List Path) (p : Path) : List Path :=
  (walk true (if p.rooted then [] else workingDirectory.reverse) p).reverse

/-! ## Where paths lead -/

section Resolve

variable {cwd : List Path} {p q : Path}

theorem resolve_clean : resolve cwd (clean q) = resolve cwd q := by
  unfold resolve
  rw [rooted_clean, walk_clean]
  intro h
  simp [h]

/-- Climbing from a directory whose elements do not climb leads above it. -/
theorem walk_climb {l : List Path} (hl : ∀ e ∈ l, e = ['.', '.']) (hcwd : ∀ e ∈ cwd, e ≠ ['.', '.']) :
    (l.foldl (cleanStep true) cwd.reverse).reverse <+: cwd := by
  have hsuffix : ∀ w : List Path, w <:+ cwd.reverse → l.foldl (cleanStep true) w <:+ cwd.reverse := by
    induction l with
    | nil => exact fun w hw => hw
    | cons e l ih =>
      intro w hw
      refine ih (fun x hx => hl x (List.mem_cons_of_mem e hx)) _ ?_
      rw [hl e List.mem_cons_self]
      cases w with
      | nil => exact List.nil_suffix
      | cons t w =>
        have ht : t ≠ ['.', '.'] := hcwd t (List.mem_reverse.mp (hw.mem List.mem_cons_self))
        simp only [cleanStep, ht]
        exact (List.suffix_cons t w).trans hw
  have := hsuffix _ List.suffix_rfl
  rw [← List.reverse_prefix] at this
  simpa using this

/-- **The directory of a cleaned path** is the location without its last
element, or it is the working directory or above it. -/
theorem resolve_dir (hcwd : ∀ e ∈ cwd, e ≠ ['.', '.']) (hp : p = clean q ∨ p = []) :
    resolve cwd (dir p) <+: cwd ∨ ∃ s, resolve cwd p = resolve cwd (dir p) ++ [s] := by
  have hdir : resolve cwd (dir p) = resolve cwd (Path.split p).1 := resolve_clean
  rw [hdir]
  rcases split_eq p with ⟨hnil, -, -⟩ | ⟨y, s, rfl, hs, hsplit⟩
  · left
    rw [hnil]
    simp [resolve, Path.rooted, walk, cleanStep]
  rw [hsplit]
  have hrooted : (y ++ ['/']).rooted = (y ++ '/' :: s).rooted := by
    cases y <;> rfl
  have hfront : ∀ r w, walk r w (y ++ ['/']) = walk r w y := fun r w => by
    rw [walk_append_slash, walk_nil]
  have hstep : ∀ r w, walk r w (y ++ '/' :: s) = cleanStep r (walk r w y) s := fun r w => by
    rw [walk_append_slash]
    unfold walk
    rw [List.splitOn_eq_singleton hs]
    rfl
  unfold resolve
  simp only [hrooted, hfront, hstep]
  have hclean : y ++ '/' :: s = clean q := hp.resolve_right (by simp)
  have helements : y.splitOn '/' ++ [s] = (clean q).splitOn '/' := by
    rw [← hclean, List.splitOn_append_cons_self, List.splitOn_eq_singleton hs]
  have hyrooted : (y ++ '/' :: s).rooted = q.rooted := by rw [hclean, rooted_clean]
  rw [hyrooted]
  rw [splitOn_clean] at helements
  cases hr : q.rooted with
  | true =>
    rw [hr, if_pos rfl] at helements
    cases hwalk : walk true [] q with
    | nil =>
      -- the root
      rw [hwalk, if_pos rfl] at helements
      obtain ⟨hy, -⟩ := List.append_inj' (show y.splitOn '/' ++ [s] = [[]] ++ [[]] from helements) rfl
      left
      simp only [if_true]
      unfold walk
      rw [hy]
      exact List.nil_prefix
    | cons t w =>
      rw [hwalk, if_neg (by simp), List.reverse_cons, ← List.cons_append] at helements
      obtain ⟨-, hst⟩ := List.append_inj' helements rfl
      obtain rfl := (List.cons.inj hst).1
      have hkept : Kept s := kept_walk s (hwalk ▸ List.mem_cons_self)
      have hclimbs : Climbs true (walk true [] q) := climbs_walk
      rw [hwalk] at hclimbs
      refine .inr ⟨s, ?_⟩
      rw [cleanStep_normal hkept (hclimbs.head_ne), List.reverse_cons]
  | false =>
    rw [hr] at helements
    cases hwalk : walk false [] q with
    | nil =>
      rw [hwalk] at helements
      have hlen := congrArg List.length helements
      have hpos : 0 < (y.splitOn '/').length := List.length_pos_of_ne_nil (List.splitOn_ne_nil _ _)
      simp only [List.length_append, List.length_singleton, Bool.false_eq_true, if_false, if_true] at hlen
      omega
    | cons t w =>
      rw [hwalk, if_neg (by simp), if_neg (by simp), List.reverse_cons] at helements
      obtain ⟨hy, hst⟩ := List.append_inj' helements rfl
      obtain rfl := (List.cons.inj hst).1
      have hkept : Kept s := kept_walk s (hwalk ▸ List.mem_cons_self)
      by_cases hup : s = ['.', '.']
      · left
        have hclimbs : Climbs false (walk false [] q) := climbs_walk
        rw [hwalk, hup] at hclimbs
        have hall := hclimbs.all_of_head
        unfold walk
        rw [hy]
        exact walk_climb (fun e he => hall e (List.mem_reverse.mp he)) hcwd
      · refine .inr ⟨s, ?_⟩
        rw [cleanStep_normal hkept hup, List.reverse_cons]

end Resolve

/-! ## Trees -/

/-- A disk, with the working directory of the process. What is on it is
among the listed locations. -/
structure FileTree where
  node : List Path → Option Node
  workingDirectory : List Path
  climbs_not : ∀ e ∈ workingDirectory, e ≠ ['.', '.']
  node_of_prefix : ∀ d, d <+: workingDirectory → node d = some .directory
  locations : List (List Path)
  listed : ∀ l, node l ≠ none → l ∈ locations

namespace FileTree

/-- No file is in the way to the location, nor at it. -/
def canMkdirAll (t : FileTree) (l : List Path) : Bool :=
  l.inits.all fun d => t.node d = none || t.node d = some .directory

/-- The directories on the way to the location that are not there. -/
def missing (t : FileTree) (l : List Path) : List (List Path) :=
  l.inits.filter fun d => t.node d = none

/-- The way to the location is all directories, and it is not one. -/
def canCreate (t : FileTree) (l : List Path) : Bool :=
  (l.dropLast.inits.all fun d => t.node d = some .directory) && t.node l ≠ some .directory

/-- `os.MkdirAll`. -/
def mkdirAll (t : FileTree) (l : List Path) : FileTree where
  node d := if d <+: l ∧ t.node d = none then some .directory else t.node d
  workingDirectory := t.workingDirectory
  climbs_not := t.climbs_not
  node_of_prefix d hd := by
    have hdirectory := t.node_of_prefix d hd
    simp [hdirectory]
  locations := l.inits ++ t.locations
  listed d hd := by
    rw [List.mem_append, List.mem_inits]
    split at hd
    · rename_i hmade
      exact .inl hmade.1
    · exact .inr (t.listed d hd)

/-- A file with some content, where there is no directory. -/
def withFile (t : FileTree) (l : List Path) (content : String) : FileTree where
  node d := if d = l ∧ t.node l ≠ some .directory then some (.file content) else t.node d
  workingDirectory := t.workingDirectory
  climbs_not := t.climbs_not
  node_of_prefix d hd := by
    have hdirectory := t.node_of_prefix d hd
    split
    · rename_i h
      exact absurd (h.1 ▸ hdirectory) h.2
    · exact hdirectory
  locations := l :: t.locations
  listed d hd := by
    rw [List.mem_cons]
    split at hd
    · rename_i h
      exact .inl h.1
    · exact .inr (t.listed d hd)

/-- What there is at and below a location, in the order in which
`filepath.Walk` comes by: a directory before what it holds, and the names of
a directory in lexical order. -/
def below (t : FileTree) (l : List Path) : List (List Path) :=
  ((t.locations.filter fun d => l <+: d ∧ t.node d ≠ none).dedup).mergeSort fun d e => decide (d ≤ e)

/-- The content of the file at a location. -/
def content? (t : FileTree) (l : List Path) : Option String :=
  match t.node l with
  | some (.file content) => some content
  | _ => none

/-- **A tree as it is on a disk**: what there is lies in directories, under
names that are no paths themselves. -/
structure WellFormed (t : FileTree) : Prop where
  parent : ∀ l, t.node l ≠ none → ∀ d, d <+: l → d ≠ l → t.node d = some .directory
  segment : ∀ l, t.node l ≠ none → ∀ s ∈ l, Path.Segment s

variable {t : FileTree} {l d : List Path} {content : String}

theorem canMkdirAll_iff : t.canMkdirAll l = true ↔
    ∀ d, d <+: l → t.node d = none ∨ t.node d = some .directory := by
  simp [canMkdirAll, List.mem_inits]

theorem mem_missing : d ∈ t.missing l ↔ d <+: l ∧ t.node d = none := by
  simp [missing, List.mem_inits]

theorem prefix_dropLast_iff : d <+: l.dropLast ∧ l ≠ [] ↔ d <+: l ∧ d ≠ l := by
  induction l using List.reverseRecOn with
  | nil =>
    simp only [ne_eq, not_true, and_false, false_iff, List.prefix_nil]
    exact fun h => h.2 h.1
  | append_singleton l a _ =>
    rw [List.dropLast_concat]
    constructor
    · rintro ⟨hd, -⟩
      refine ⟨hd.trans (List.prefix_append _ _), fun heq => ?_⟩
      have hlen := hd.length_le
      rw [heq, List.length_append, List.length_singleton] at hlen
      omega
    · rintro ⟨hd, hne⟩
      exact ⟨(List.prefix_concat_iff.mp hd).resolve_left hne, by simp⟩

/-- **A file can be created** below directories only, and not over one. -/
theorem canCreate_iff : t.canCreate l = true ↔
    (∀ d, d <+: l → d ≠ l → t.node d = some .directory) ∧ t.node l ≠ some .directory := by
  simp only [canCreate, Bool.and_eq_true, List.all_eq_true, List.mem_inits, decide_eq_true_eq]
  refine and_congr_left fun hl => ?_
  have hne : l ≠ [] := by
    rintro rfl
    exact hl (t.node_of_prefix [] (List.nil_prefix))
  constructor
  · intro h d hd hdl
    exact h d (prefix_dropLast_iff.mpr ⟨hd, hdl⟩).1
  · intro h d hd
    obtain ⟨hd', hdl⟩ := prefix_dropLast_iff.mp ⟨hd, hne⟩
    exact h d hd' hdl

theorem node_mkdirAll_of_some {n : Node} (h : t.node d = some n) :
    (t.mkdirAll l).node d = some n := by
  simp [mkdirAll, h]

theorem node_mkdirAll_of_prefix (hl : t.canMkdirAll l = true) (hd : d <+: l) :
    (t.mkdirAll l).node d = some .directory := by
  rcases canMkdirAll_iff.mp hl d hd with h | h <;> simp [mkdirAll, h, hd]

/-- Where nothing is missing, nothing is made. -/
theorem missing_eq_nil (h : ∀ d, d <+: l → t.node d ≠ none) : t.missing l = [] := by
  rw [missing, List.filter_eq_nil_iff]
  intro d hd
  simpa using h d ((List.mem_inits _ _).mp hd)

theorem node_withFile_self (hl : t.node l ≠ some .directory) :
    (t.withFile l content).node l = some (.file content) := by
  simp [withFile, hl]

theorem mem_below : d ∈ t.below l ↔ l <+: d ∧ t.node d ≠ none := by
  simp only [below, List.mem_mergeSort, List.mem_dedup, List.mem_filter, decide_eq_true_eq]
  exact ⟨fun h => h.2, fun h => ⟨t.listed d h.2, h⟩⟩

theorem content?_eq_some : t.content? l = some content ↔ t.node l = some (.file content) := by
  unfold content?
  cases h : t.node l with
  | none => simp
  | some n => cases n <;> simp

theorem node_withFile_of_ne (hd : d ≠ l) : (t.withFile l content).node d = t.node d := by
  simp [withFile, hd]

end FileTree

end Portainer
