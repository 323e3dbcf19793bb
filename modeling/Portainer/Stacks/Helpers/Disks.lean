import Portainer.Common.Decimal
import Portainer.Stacks.Helpers.Creation
/-!
# Disks — where the files of a stack lie, and what moving them does

The project directory of a stack and its backup lie side by side, so moving
the one to the other and back restores it (`sameBelow_rename_rename`).
-/

namespace Portainer

open Path (locate join Inside Below Apart Location inside_iff inside_under)

namespace Stacks

variable {services : Services} {stackID : StackID}

/-! ## Places -/

/-- Where the files of a stack are kept during an update from Git. -/
def backupDirectory (services : Services) (stackID : StackID) : Location :=
  locate (services.getStackProjectPath (itoa stackID) ++ "-old".toList)

/-- The record says that the files of the stack lie in its directory. -/
def Own (services : Services) (stack : Stack) : Prop :=
  stack.projectPath = services.getStackProjectPath (itoa stack.id)

/-- **The two directories have one parent.** -/
theorem exists_directories (services : Services) (stackID : StackID) :
    ∃ d : Location, projectDirectory services stackID = d.under [itoa stackID] ∧
      backupDirectory services stackID = d.under [itoa stackID ++ "-old".toList] := by
  have hitoa : Path.Segment (itoa stackID) := Path.segment_itoa stackID
  have hcompose : Path.Segment "compose".toList := ⟨by decide, by decide, by decide, by decide⟩
  obtain ⟨front, hfront⟩ := Path.exists_join_eq services.fileStorePath_ne hcompose
    hitoa
  have hpath : services.getStackProjectPath (itoa stackID) = front ++ '/' :: itoa stackID := hfront
  have hsegment : Path.Segment (itoa stackID ++ "-old".toList) := by
    refine ⟨by simp, ?_, fun h => ?_, fun h => ?_⟩
    · rw [List.mem_append, not_or]
      exact ⟨hitoa.slash, by decide⟩
    · have hlength := congrArg List.length h
      rw [List.length_append] at hlength
      have hold : "-old".toList.length = 4 := rfl
      have hdot : ['.'].length = 1 := rfl
      omega
    · have hlength := congrArg List.length h
      rw [List.length_append] at hlength
      have hold : "-old".toList.length = 4 := rfl
      have hdots : ['.', '.'].length = 2 := rfl
      omega
  refine ⟨⟨(front ++ ['/']).rooted, (Path.walk (front ++ ['/']).rooted [] front).reverse⟩, ?_, ?_⟩
  · unfold projectDirectory
    rw [hpath, Path.locate_slash hitoa]
    rfl
  · unfold backupDirectory
    rw [hpath, List.append_assoc, List.cons_append, Path.locate_slash hsegment]
    rfl

theorem apart_backup :
    Apart (projectDirectory services stackID) (backupDirectory services stackID) := by
  obtain ⟨d, hd, hb⟩ := exists_directories services stackID
  rw [hd, hb]
  refine Path.apart_of_ne fun h => ?_
  have hlength := congrArg List.length h
  rw [List.length_append] at hlength
  have hold : "-old".toList.length = 4 := rfl
  omega

theorem Own.locate_projectPath {stack : Stack} (h : Own services stack) :
    locate stack.projectPath = projectDirectory services stack.id := by
  rw [h]
  rfl

theorem Own.locate_backup {stack : Stack} (h : Own services stack) :
    locate (backupProjectPath stack) = backupDirectory services stack.id := by
  unfold backupProjectPath
  rw [h]
  rfl

theorem Own.placed {stack : Stack} (h : Own services stack) : Placed services stack :=
  ⟨h ▸ Path.join_ne services.fileStorePath_ne, h.locate_projectPath⟩

/-- A file in the directory lies strictly below it. -/
theorem Own.below_join {stack : Stack} (h : Own services stack) {s : Path} (hs : Path.Segment s) :
    Below (projectDirectory services stack.id) (locate (join [stack.projectPath, s])) := by
  have hfile : locate (join [stack.projectPath, s]) =
      (projectDirectory services stack.id).under [s] := by
    rw [Path.locate_join h.placed.nonempty, ← h.locate_projectPath]
    unfold locate Location.under
    rw [List.foldl_cons, List.foldl_cons, List.foldl_nil, Path.walk_segment hs, List.reverse_cons]
  rw [hfile]
  refine ⟨inside_under, fun heq => ?_⟩
  have hlength := congrArg (fun l => l.elements.length) heq
  simp only [Location.under, List.length_append, List.length_singleton] at hlength
  omega

/-! ## Content -/

/-- **What is below a directory is the same** on two disks. -/
def SameBelow (d : Location) (fs fs' : FileSystem) : Prop :=
  ∀ k, Below d k → fs'.files k = fs.files k ∧ fs'.directories k = fs.directories k

namespace FileSystem

variable {fs : FileSystem} {old new k : Location} {l : List Path}

theorem files_rename_under : (fs.rename old new).files (new.under l) = fs.files (old.under l) := by
  have hdrop : (new.under l).elements.drop new.elements.length = l := List.drop_left
  unfold rename
  dsimp only
  rw [if_pos inside_under, hdrop]
  rfl

theorem directories_rename_under :
    (fs.rename old new).directories (new.under l) = fs.directories (old.under l) := by
  have hdrop : (new.under l).elements.drop new.elements.length = l := List.drop_left
  unfold rename
  dsimp only
  rw [if_pos inside_under, hdrop]
  rfl

/-- Nothing is left at the old place. -/
theorem files_rename_old (h : Apart old new) (hk : Inside old k) :
    (fs.rename old new).files k = none := by
  unfold rename
  dsimp only
  rw [if_neg (h k hk), if_pos hk]

theorem directories_rename_old (h : Apart old new) (hk : Inside old k) :
    (fs.rename old new).directories k = false := by
  unfold rename
  dsimp only
  rw [if_neg (h k hk)]
  simp [hk]

theorem exists_rename_new : (fs.rename old new).exists? new = fs.exists? old := by
  have hself : ∀ d : Location, d.under [] = d := fun d => by rw [Location.under, List.append_nil]
  have hfiles : (fs.rename old new).files (new.under []) = fs.files (old.under []) :=
    files_rename_under
  have hdirectories : (fs.rename old new).directories (new.under []) =
      fs.directories (old.under []) := directories_rename_under
  rw [hself, hself] at hfiles hdirectories
  unfold exists?
  rw [hfiles, hdirectories]

theorem exists_rename_old (h : Apart old new) : (fs.rename old new).exists? old = false := by
  unfold exists?
  rw [files_rename_old h (Path.inside_refl old), directories_rename_old h (Path.inside_refl old)]
  rfl

end FileSystem

/-- **Moved away and moved back**, the content of a directory is as it
was. -/
theorem sameBelow_rename_rename {fs : FileSystem} {d d' : Location} :
    SameBelow d fs ((fs.rename d d').rename d' d) := by
  intro k hk
  obtain ⟨l, rfl⟩ := inside_iff.mp hk.1
  rw [FileSystem.files_rename_under, FileSystem.files_rename_under,
    FileSystem.directories_rename_under, FileSystem.directories_rename_under]
  exact ⟨rfl, rfl⟩

/-- Making a directory changes nothing below it. -/
theorem sameBelow_mkdirAll {fs : FileSystem} {d : Location} : SameBelow d fs (fs.mkdirAll d) := by
  intro k hk
  refine ⟨rfl, ?_⟩
  have hnot : ¬ Inside k d := by
    rintro ⟨hrooted, hprefix⟩
    refine hk.2 ?_
    have heq : k.elements = d.elements :=
      List.IsPrefix.eq_of_length_le hprefix hk.1.2.length_le
    obtain ⟨r, e⟩ := k
    obtain ⟨r', e'⟩ := d
    simp only at hrooted heq
    rw [hrooted, heq]
  unfold FileSystem.mkdirAll
  simp [hnot]

/-- Nor does writing a file that is not below it. -/
theorem sameBelow_write {fs : FileSystem} {d k : Location} {content : String} (h : ¬ Below d k) :
    SameBelow d fs (fs.write k content) := by
  intro k' hk'
  have hne : k' ≠ k := fun heq => h (heq ▸ hk')
  exact ⟨by simp [FileSystem.write, hne], rfl⟩

theorem SameBelow.refl {fs : FileSystem} {d : Location} : SameBelow d fs fs :=
  fun _ _ => ⟨rfl, rfl⟩

theorem SameBelow.trans {fs fs' fs'' : FileSystem} {d : Location} (h : SameBelow d fs fs')
    (h' : SameBelow d fs' fs'') : SameBelow d fs fs'' := by
  intro k hk
  obtain ⟨hf, hd⟩ := h k hk
  obtain ⟨hf', hd'⟩ := h' k hk
  exact ⟨hf'.trans hf, hd'.trans hd⟩

end Stacks

end Portainer
