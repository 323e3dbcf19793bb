import Portainer.Archive.Model
import Portainer.Common.Keeps
/-!
# One entry of an archive

What an extractor does with an entry depends on its target: the entry is
skipped or refused, or a directory or a file is made at some path. A file
cannot be made where it clashes with a file that was made before, one being
below the other, nor above the working directory. The first half of this
module follows an extraction that may fail, the second one that finds every
file it is about to write.
-/

namespace Portainer

open Path (join dir)
open Action (Meets)

namespace Archive

/-- What is done with an entry. -/
inductive Target
  | skipped
  | refused
  | directory (p : Path)
  | file (p : Path)

/-- The target of an entry, in `ExtractTarGz`. -/
def tarTarget (outputDirPath : Path) (header : TarEntry) : Target :=
  if header.typeflag = typeDir then .skipped
  else if header.typeflag = typeReg then .file (extractedPath outputDirPath header)
  else .refused

/-- The target of an entry, in `UnzipArchive`. -/
def archiveTarget (dest : Path) (file : ZipEntry) : Target := .file (join [dest, file.name])

/-- The target of an entry, in `UnzipFile`. -/
def unzipTarget (dest : Path) (f : ZipEntry) : Target :=
  if legalFilePath dest (join [dest, f.name]) = true then
    if f.isDir then .directory (join [dest, f.name]) else .file (join [dest, f.name])
  else .refused

/-- Of two locations, one is above the other, or they are the same. -/
def Comparable (d l : List Path) : Prop := d <+: l ∨ l <+: d

/-- Nothing is written outside the directory `d`, and nothing is made that
is not inside it or on the way to it. -/
def Act.Confined (d : List Path) : Act → Prop
  | mkdir l => Comparable d l
  | create l => d <+: l
  | write l => d <+: l

/-- A file cannot be made: it would be above the working directory, or above
or below a file that was made before. -/
def Clash (cwd : List Path) (written : List (List Path)) (l : List Path) : Prop :=
  l <+: cwd ∨ ∃ w ∈ written, w ≠ l ∧ Comparable w l

variable {cwd d l : List Path} {written : List (List Path)} {p q : Path} {content : String} {a : Act}

theorem Comparable.of_prefix (hl : d <+: l) {e : List Path} (he : e <+: l) : Comparable d e :=
  List.prefix_or_prefix_of_prefix hl he

/-! ## The operations -/

section Operations

variable {R : Callee → Prop} {P : Disk → Prop} {Q : Unit → Disk → Prop} {E : String → Disk → Prop}

/-- The disk with the directories made. -/
def Disk.mkdirAll (p : Path) (h : Disk) : Disk where
  tree := h.tree.mkdirAll (h.locate p)
  acts := h.acts ++ (h.tree.missing (h.locate p)).map .mkdir

/-- The disk with an empty file. -/
def Disk.create (p : Path) (h : Disk) : Disk where
  tree := h.tree.withFile (h.locate p) ""
  acts := h.acts ++ [.create (h.locate p)]

/-- The disk with the file written. -/
def Disk.copy (p : Path) (content : String) (h : Disk) : Disk where
  tree := h.tree.withFile (h.locate p) content
  acts := h.acts ++ [.write (h.locate p)]

theorem meets_mkdirAll (hmade : ∀ h, P h → h.tree.canMkdirAll (h.locate p) = true → Q () (h.mkdirAll p))
    (hnot : ∀ h text, P h → h.tree.canMkdirAll (h.locate p) = false → E text h)
    (hfault : ¬ R .fileService → ∀ h text, P h → E text h) : Meets R P (mkdirAll p) Q E := by
  refine Meets.bind (M := fun possible h => P h ∧ h.tree.canMkdirAll (h.locate p) = possible)
    (Meets.get fun h hh => ⟨hh, rfl⟩) fun possible => ?_
  cases possible with
  | false => exact Meets.fail fun h hh => hnot h _ hh.1 hh.2
  | true =>
    exact Meets.call (fun h hh => hmade h hh.1 hh.2) fun hR h text hh => hfault hR h text hh.1

theorem meets_create (hmade : ∀ h, P h → h.tree.canCreate (h.locate p) = true → p ≠ [] → Q () (h.create p))
    (hnot : ∀ h text, P h → h.tree.canCreate (h.locate p) = false ∨ p = [] → E text h)
    (hfault : ¬ R .fileService → ∀ h text, P h → E text h) : Meets R P (create p) Q E := by
  refine Meets.bind (M := fun possible h => P h ∧ h.tree.canCreate (h.locate p) = possible)
    (Meets.get fun h hh => ⟨hh, rfl⟩) fun possible => ?_
  refine Meets.bind (M := fun _ h => P h ∧ h.tree.canCreate (h.locate p) = true ∧ p ≠ [])
    (Meets.require (fun h hh hc => ⟨hh.1, hh.2.trans hc.1, hc.2⟩) fun h hh hc => ?_) fun _ => ?_
  · refine hnot h _ hh.1 ?_
    by_cases hp : p = []
    · exact .inr hp
    · left
      rw [hh.2]
      simpa [hp] using hc
  · exact Meets.call (fun h hh => hmade h hh.1 hh.2.1 hh.2.2) fun hR h text hh => hfault hR h text hh.1

theorem meets_copy (hmade : ∀ h, P h → Q () (h.copy p content))
    (hfault : ¬ R .fileService → ∀ h text, P h → E text h) : Meets R P (copy p content) Q E :=
  Meets.call hmade hfault

end Operations

/-! ## Extractions that may fail -/

/-- **The state of an extraction**: the files in the list have been written,
and nothing outside. -/
structure Reached (cwd d : List Path) (written : List (List Path)) (h : Disk) : Prop where
  workingDirectory : h.tree.workingDirectory = cwd
  file : ∀ w ∈ written, ∃ content, h.tree.node w = some (.file content)
  directory : ∀ w ∈ written, ∀ e, e <+: w → e ≠ w → h.tree.node e = some .directory
  confined : ∀ a ∈ h.acts, a.Confined d

section Reached

variable {h : Disk}

theorem Reached.locate (hh : Reached cwd d written h) : h.locate p = resolve cwd p := by
  rw [Disk.locate, hh.workingDirectory]

theorem Reached.node_of_prefix (hh : Reached cwd d written h) {e : List Path} (he : e <+: cwd) :
    h.tree.node e = some .directory :=
  h.tree.node_of_prefix e (by rw [hh.workingDirectory]; exact he)

/-- Making directories takes nothing away. -/
theorem Reached.mkdirAll (hh : Reached cwd d written h)
    (hmissing : ∀ e ∈ h.tree.missing (resolve cwd p), Comparable d e) :
    Reached cwd d written (h.mkdirAll p) := by
  refine ⟨hh.workingDirectory, fun w hw => ?_, fun w hw e he hne => ?_, fun a ha => ?_⟩
  · obtain ⟨content, hfile⟩ := hh.file w hw
    exact ⟨content, FileTree.node_mkdirAll_of_some hfile⟩
  · exact FileTree.node_mkdirAll_of_some (hh.directory w hw e he hne)
  · rcases List.mem_append.mp ha with ha | ha
    · exact hh.confined a ha
    · obtain ⟨e, he, rfl⟩ := List.mem_map.mp ha
      rw [hh.locate] at he
      exact hmissing e he

/-- A file that was made is one more. -/
theorem Reached.create (hh : Reached cwd d written h) (hinside : d <+: resolve cwd p)
    (hcan : h.tree.canCreate (h.locate p) = true) :
    Reached cwd d (resolve cwd p :: written) (h.create p) := by
  rw [hh.locate] at hcan
  obtain ⟨hway, hnot⟩ := FileTree.canCreate_iff.mp hcan
  have hself : (h.create p).tree.node (resolve cwd p) = some (.file "") := by
    show (h.tree.withFile (h.locate p) "").node _ = _
    rw [hh.locate]
    exact FileTree.node_withFile_self hnot
  have hother : ∀ e, e ≠ resolve cwd p → (h.create p).tree.node e = h.tree.node e := by
    intro e he
    show (h.tree.withFile (h.locate p) "").node _ = _
    rw [hh.locate]
    exact FileTree.node_withFile_of_ne he
  refine ⟨hh.workingDirectory, fun w hw => ?_, fun w hw e he hne => ?_, fun a ha => ?_⟩
  · by_cases hw' : w = resolve cwd p
    · exact ⟨"", hw' ▸ hself⟩
    · rw [hother w hw']
      exact hh.file w ((List.mem_cons.mp hw).resolve_left hw')
  · have hdirectory : h.tree.node e = some .directory := by
      rcases List.mem_cons.mp hw with rfl | hw
      · exact hway e he hne
      · exact hh.directory w hw e he hne
    -- the new file is in no place where a directory is
    rw [hother e fun heq => hnot (heq ▸ hdirectory)]
    exact hdirectory
  · rcases List.mem_append.mp ha with ha | ha
    · exact hh.confined a ha
    · obtain rfl := List.mem_singleton.mp ha
      rw [hh.locate]
      exact hinside

/-- Writing a file that was made. -/
theorem Reached.copy (hh : Reached cwd d written h) (hmem : resolve cwd p ∈ written)
    (hinside : d <+: resolve cwd p) : Reached cwd d written (h.copy p content) := by
  obtain ⟨before, hfile⟩ := hh.file _ hmem
  have hself : (h.copy p content).tree.node (resolve cwd p) = some (.file content) := by
    show (h.tree.withFile (h.locate p) content).node _ = _
    rw [hh.locate]
    exact FileTree.node_withFile_self (by rw [hfile]; simp)
  have hother : ∀ e, e ≠ resolve cwd p → (h.copy p content).tree.node e = h.tree.node e := by
    intro e he
    show (h.tree.withFile (h.locate p) content).node _ = _
    rw [hh.locate]
    exact FileTree.node_withFile_of_ne he
  refine ⟨hh.workingDirectory, fun w hw => ?_, fun w hw e he hne => ?_, fun a ha => ?_⟩
  · by_cases hw' : w = resolve cwd p
    · exact ⟨content, hw' ▸ hself⟩
    · rw [hother w hw']
      exact hh.file w hw
  · have hdirectory := hh.directory w hw e he hne
    have hne' : e ≠ resolve cwd p := by
      rintro rfl
      rw [hfile] at hdirectory
      cases hdirectory
    rw [hother e hne']
    exact hdirectory
  · rcases List.mem_append.mp ha with ha | ha
    · exact hh.confined a ha
    · obtain rfl := List.mem_singleton.mp ha
      rw [hh.locate]
      exact hinside

/-- **Where there is a clash no file can be made.** -/
theorem Reached.not_canCreate (hh : Reached cwd d written h) (hclash : Clash cwd written (resolve cwd p)) :
    h.tree.canCreate (h.locate p) = false := by
  rw [hh.locate, Bool.eq_false_iff]
  intro hcan
  obtain ⟨hway, hnot⟩ := FileTree.canCreate_iff.mp hcan
  rcases hclash with hcwd | ⟨w, hw, hne, hwl | hlw⟩
  · exact hnot (hh.node_of_prefix hcwd)
  · obtain ⟨content, hfile⟩ := hh.file w hw
    rw [hway w hwl hne] at hfile
    cases hfile
  · exact hnot (hh.directory w hw _ hlw hne.symm)

/-- The directory of a clash is there, or it cannot be made. -/
theorem Reached.missing_of_clash (hh : Reached cwd d written h)
    (hclash : Clash cwd written (resolve cwd p))
    (hdir : resolve cwd (dir p) <+: cwd ∨ ∃ s, resolve cwd p = resolve cwd (dir p) ++ [s])
    (hcan : h.tree.canMkdirAll (resolve cwd (dir p)) = true) :
    h.tree.missing (resolve cwd (dir p)) = [] := by
  refine FileTree.missing_eq_nil fun e he => ?_
  rcases hdir with hdir | ⟨s, hs⟩
  · rw [hh.node_of_prefix (he.trans hdir)]
    simp
  have hup : resolve cwd (dir p) <+: resolve cwd p := by
    rw [hs]
    exact List.prefix_append _ _
  rcases hclash with hcwd | ⟨w, hw, hne, hwl | hlw⟩
  · rw [hh.node_of_prefix ((he.trans hup).trans hcwd)]
    simp
  · -- a file is in the way
    obtain ⟨content, hfile⟩ := hh.file w hw
    have hwdir : w <+: resolve cwd (dir p) := by
      rw [hs] at hwl hne
      exact (List.prefix_concat_iff.mp hwl).resolve_left hne
    rcases FileTree.canMkdirAll_iff.mp hcan w hwdir with h | h <;> rw [hfile] at h <;> cases h
  · have hstrict : e ≠ w := by
      rintro rfl
      have hlen := (he.trans hup).length_le
      exact hne ((hlw.eq_of_length_le hlen).symm)
    rw [hh.directory w hw e ((he.trans hup).trans hlw) hstrict]
    simp

/-- What is missing above a file inside the directory is on the way to it. -/
theorem comparable_of_missing (hinside : d <+: resolve cwd p) (hh : Reached cwd d written h)
    (hdir : resolve cwd (dir p) <+: cwd ∨ ∃ s, resolve cwd p = resolve cwd (dir p) ++ [s]) :
    ∀ e ∈ h.tree.missing (resolve cwd (dir p)), Comparable d e := by
  intro e he
  obtain ⟨hway, hnone⟩ := FileTree.mem_missing.mp he
  rcases hdir with hdir | ⟨s, hs⟩
  · rw [hh.node_of_prefix (hway.trans hdir)] at hnone
    cases hnone
  · rw [hs] at hinside
    exact Comparable.of_prefix hinside (hway.trans (List.prefix_append _ _))

end Reached

end Archive

end Portainer
