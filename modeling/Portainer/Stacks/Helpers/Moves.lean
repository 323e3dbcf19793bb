import Portainer.Stacks.Helpers.Sparing
/-!
# Moves — a project that is moved away, and when it is moved back

A directory is moved by three calls: two that look, and one that renames.
A project is replaced by its repository, and where that fails it is moved
back — by three calls more, and not at all once the clone has made the
directory again.
-/

namespace Portainer

open Action (Leaves)
open HandlerError (internalServerError)
open Path (locate join Location)

namespace Stacks

variable {outside : Outside} {w : Sys Callee Host} {old new : Path} {stack : Stack}

/-! ## One move -/

/-- The directory can be moved: it is there, and nothing is in its way. -/
def Movable (fs : FileSystem) (old new : Location) : Prop :=
  fs.exists? old = true ∧ fs.exists? new = false

/-- The outcomes once a directory was moved. -/
def afterMove (w : Sys Callee Host) : Callee → List (Option String) :=
  (((w.spend .fileService).spend .fileService).spend .fileService).faults

/-- **A move succeeds** if none of its calls fails and the directory can be
moved. -/
theorem moveDirectory_run_ok {u : Unit} {w' : Sys Callee Host} :
    (moveDirectory old new).run w = (.ok u, w') ↔ w.Clear .fileService 3 ∧
      Movable w.store.fileSystem (locate old) (locate new) ∧
      ⟨w.store.perform (.rename old new), afterMove w⟩ = w' := by
  have hclear : w.Clear .fileService 3 ↔ w.fault .fileService = none ∧
      (w.spend .fileService).fault .fileService = none ∧
      ((w.spend .fileService).spend .fileService).fault .fileService = none := by
    rw [Sys.clear_succ, Sys.clear_succ, Sys.clear_succ]
    exact ⟨fun h => ⟨h.1, h.2.1, h.2.2.1⟩, fun h => ⟨h.1, h.2.1, h.2.2, Sys.clear_zero⟩⟩
  rw [hclear]
  constructor
  · intro hrun
    obtain ⟨found, w₁, hstat, hrun⟩ := Action.bind_run_ok.mp hrun
    obtain ⟨hfirst, rfl, rfl⟩ := Action.query_run_ok_iff.mp hstat
    obtain ⟨hold, hrun⟩ := Action.require_bind_run_ok.mp hrun
    obtain ⟨found, w₂, hstat, hrun⟩ := Action.bind_run_ok.mp hrun
    obtain ⟨hsecond, rfl, rfl⟩ := Action.query_run_ok_iff.mp hstat
    obtain ⟨hnew, hrun⟩ := Action.require_bind_run_ok.mp hrun
    obtain ⟨hthird, rfl⟩ := Action.call_run_ok_iff.mp hrun
    exact ⟨⟨hfirst, hsecond, hthird⟩, ⟨hold, hnew⟩, rfl⟩
  · rintro ⟨⟨hfirst, hsecond, hthird⟩, ⟨hold, hnew⟩, rfl⟩
    refine Action.bind_run_ok.mpr ⟨_, _, Action.query_run_ok_iff.mpr ⟨hfirst, rfl, rfl⟩, ?_⟩
    refine Action.require_bind_run_ok.mpr ⟨hold, ?_⟩
    refine Action.bind_run_ok.mpr ⟨_, _, Action.query_run_ok_iff.mpr ⟨hsecond, rfl, rfl⟩, ?_⟩
    exact Action.require_bind_run_ok.mpr ⟨hnew, Action.call_run_ok_iff.mpr ⟨hthird, rfl⟩⟩

/-- **A move that fails leaves the disk as it was.** -/
theorem moveDirectory_fails
    (hno : ¬ (w.Clear .fileService 3 ∧ Movable w.store.fileSystem (locate old) (locate new))) :
    ∃ text w', (moveDirectory old new).run w = (.error text, w') ∧ w'.store = w.store := by
  rcases hrun : (moveDirectory old new).run w with ⟨text | u, w'⟩
  · refine ⟨text, w', rfl, ?_⟩
    have hleaves : Leaves (fun _ => False) (moveDirectory old new) w.store (fun _ _ => True)
        (· = w.store) := by
      refine .read_bind (P := fun _ => True) (.query ⟨rfl, trivial⟩ rfl) fun _ _ => ?_
      refine .require_bind rfl fun _ => ?_
      refine .read_bind (P := fun _ => True) (.query ⟨rfl, trivial⟩ rfl) fun _ _ => ?_
      exact .require_bind rfl fun _ => .call trivial rfl
    have hend := (hleaves w (fun _ hk => hk.elim) rfl).1
    rw [hrun] at hend
    exact hend
  · obtain ⟨hclear, hmovable, -⟩ := moveDirectory_run_ok.mp hrun
    exact absurd ⟨hclear, hmovable⟩ hno

/-! ## Moving back -/

/-- **The files of a stack are moved back.** The repository is refused, or
its directory cannot be made, and the three calls that move the files do not
fail; `m` calls of the file service come before. -/
def MovesBack (w : Sys Callee Host) (m : ℕ) : Prop :=
  if w.fault .gitService = none then ¬ w.ClearFrom .fileService m 1 ∧ w.ClearFrom .fileService (m + 1) 3
  else w.ClearFrom .fileService m 3

theorem movesBack_congr {w' : Sys Callee Host} {m n : ℕ} (hgit : w'.fault .gitService = w.fault .gitService)
    (hfiles : (w'.faults .fileService).drop m = (w.faults .fileService).drop n) :
    MovesBack w' m ↔ MovesBack w n := by
  have hclear : ∀ k, w'.ClearFrom .fileService m k ↔ w.ClearFrom .fileService n k := by
    intro k
    unfold Sys.ClearFrom
    rw [hfiles]
  have hnext : w'.ClearFrom .fileService (m + 1) 3 ↔ w.ClearFrom .fileService (n + 1) 3 := by
    unfold Sys.ClearFrom
    rw [← List.drop_drop, ← List.drop_drop, hfiles]
  unfold MovesBack
  rw [hgit, hclear, hclear, hnext]

/-- The move itself takes three calls. -/
theorem movesBack_afterMove {s : Host} : MovesBack ⟨s, afterMove w⟩ 0 ↔ MovesBack w 3 := by
  refine movesBack_congr rfl ?_
  have htail : afterMove w .fileService = (w.faults .fileService).tail.tail.tail := by
    simp [afterMove, Sys.spend]
  have hdrop : (w.faults .fileService).tail.tail.tail = (w.faults .fileService).drop 3 := by
    rcases w.faults .fileService with _ | ⟨_, _ | ⟨_, _ | ⟨_, l⟩⟩⟩ <;> rfl
  exact htail.trans hdrop

/-- An attempt to move the files back. -/
theorem run_restore {r : Except String Unit} {w' : Sys Callee Host}
    (hrun : (moveDirectory (backupProjectPath stack) stack.projectPath).run w = (r, w')) :
    (do let _ ← (moveDirectory (backupProjectPath stack) stack.projectPath).attempt :
      Handler Host Unit).run w = (.ok (), w') := by
  refine (Action.bind_run_of_ok (a := r) ?_).trans rfl
  rw [Action.attempt_run, hrun]

/-- **The files are back.** -/
theorem replaceProject_restores (hback : MovesBack w 0)
    (hmovable : Movable w.store.fileSystem (locate (backupProjectPath stack)) (locate stack.projectPath)) :
    ∃ e w', (replaceProject outside stack).run w = (.error e, w') ∧
      w'.store = w.store.perform (.rename (backupProjectPath stack) stack.projectPath) := by
  -- what is left of the clone is the outcomes of its calls
  have hundo : ∀ w₁ : Sys Callee Host, w₁.store = w.store → w₁.Clear .fileService 3 →
      (moveDirectory (backupProjectPath stack) stack.projectPath).run w₁ = (.ok (),
        ⟨w.store.perform (.rename (backupProjectPath stack) stack.projectPath), afterMove w₁⟩) := by
    intro w₁ hstore hclear
    exact moveDirectory_run_ok.mpr ⟨hclear, hstore ▸ hmovable, by rw [hstore]⟩
  unfold MovesBack at hback
  rcases hgit : w.fault .gitService with _ | text
  · rw [if_pos hgit] at hback
    obtain ⟨hmkdir, hclear⟩ := hback
    have hspent : (w.spend .gitService).faults .fileService = w.faults .fileService :=
      Sys.faults_spend_of_ne (by decide)
    rcases hfault : w.fault .fileService with _ | text
    · refine absurd ?_ hmkdir
      exact Sys.clear_succ.mpr ⟨hfault, Sys.clear_zero⟩
    · have hclone : (cloneRepository stack.id stack.projectPath outside.repository).run w =
          (.error text, (w.spend .gitService).spend .fileService) := by
        refine (Action.bind_run_of_ok (Action.query_run_of_none hgit)).trans ?_
        refine Action.bind_run_of_error (Action.call_run_of_some ?_)
        rw [Sys.fault, hspent]
        exact hfault
      have hclear₁ : ((w.spend .gitService).spend .fileService).Clear .fileService 3 := by
        have hnext := Sys.clearFrom_succ.mp hclear
        unfold Sys.ClearFrom at hnext
        unfold Sys.Clear
        simpa [Sys.spend] using hnext
      exact ⟨_, _, Action.onError_run_of_error (Action.mapError_run_of_error hclone)
        (run_restore (hundo _ rfl hclear₁)), rfl⟩
  · have hne : ¬ w.fault .gitService = none := by rw [hgit]; exact Option.some_ne_none _
    rw [if_neg hne] at hback
    have hclone : (cloneRepository stack.id stack.projectPath outside.repository).run w =
        (.error text, w.spend .gitService) :=
      Action.bind_run_of_error (Action.query_run_of_some hgit)
    have hclear₁ : (w.spend .gitService).Clear .fileService 3 :=
      (Sys.clear_spend_of_ne (by decide)).mpr hback
    exact ⟨_, _, Action.onError_run_of_error (Action.mapError_run_of_error hclone)
      (run_restore (hundo _ rfl hclear₁)), rfl⟩

/-- A file that was not there is not made by a clone without it, and the
directory that the clone has made stays. -/
def Cloning (d m : Location) (h : Host) : Prop :=
  h.fileSystem.directories d = true ∧ h.fileSystem.files m = none

theorem keeps_createFile_cloning {d m : Location} {stackID : StackID} {path : Path} {content : String}
    (hne : m ≠ locate path) : (createFile stackID path content).Keeps (Cloning d m) := by
  have hT : Tolerates (Cloning d m) (fun a => ∀ fs, ∃ content, a.onDisk fs = fs.write (locate path) content) := by
    rintro h a ha ⟨hd, hm⟩
    obtain ⟨content, hdisk⟩ := ha h.fileSystem
    unfold Cloning Host.perform
    dsimp only
    rw [hdisk]
    exact ⟨hd, by simp [FileSystem.write, hne, hm]⟩
  exact keeps_createFile hT (fun _ => ⟨_, rfl⟩) fun _ => ⟨_, rfl⟩

/-- **Where the files are not moved back, they are gone.** -/
theorem files_replaceProject {m : Location} (hno : ¬ MovesBack w 0)
    (hgone : w.store.fileSystem.files m = none)
    (hfresh : ∀ file ∈ outside.repository, m ≠ locate (join (stack.projectPath :: file.path))) :
    ((replaceProject outside stack).run w).2.store.fileSystem.files m = none := by
  have hstay : ∀ e w₁, (cloneRepository stack.id stack.projectPath outside.repository).run w =
      (.error e, w₁) → w₁.store.fileSystem.files m = none →
      ¬ (w₁.Clear .fileService 3 ∧ Movable w₁.store.fileSystem (locate (backupProjectPath stack))
        (locate stack.projectPath)) →
      ((replaceProject outside stack).run w).2.store.fileSystem.files m = none := by
    intro e w₁ hclone hm hfails
    obtain ⟨text, w₂, hmove, hstore⟩ := moveDirectory_fails hfails
    unfold replaceProject
    rw [Action.onError_run_of_error (Action.mapError_run_of_error hclone) (run_restore hmove), hstore]
    exact hm
  unfold MovesBack at hno
  rcases hgit : w.fault .gitService with _ | text
  · rw [if_pos hgit] at hno
    have hspent : (w.spend .gitService).faults .fileService = w.faults .fileService :=
      Sys.faults_spend_of_ne (by decide)
    have hspentFault : (w.spend .gitService).fault .fileService = w.fault .fileService := by
      rw [Sys.fault, hspent]
      rfl
    rcases hfault : w.fault .fileService with _ | text
    · -- the directory is made again, and is in the way of the old one
      let w₁ : Sys Callee Host := { (w.spend .gitService).spend .fileService with
        store := w.store.perform (.mkdirAll stack.projectPath) }
      have hfirst : (cloneRepository stack.id stack.projectPath outside.repository).run w =
          (outside.repository.forM fun file =>
            createFile stack.id (join (stack.projectPath :: file.path)) file.content).run w₁ := by
        refine (Action.bind_run_of_ok (Action.query_run_of_none hgit)).trans ?_
        exact Action.bind_run_of_ok (Action.call_run_of_none (hspentFault.trans hfault))
      have hcloning : Cloning (locate stack.projectPath) m w₁.store := by
        refine ⟨?_, hgone⟩
        simp [w₁, Host.perform, Act.onDisk, FileSystem.mkdirAll, Path.inside_refl]
      have hkeeps : (outside.repository.forM fun file => createFile stack.id
          (join (stack.projectPath :: file.path)) file.content).Keeps
          (Cloning (locate stack.projectPath) m) :=
        .forM fun file hfile => keeps_createFile_cloning (hfresh file hfile)
      obtain ⟨hthere, hm⟩ := hkeeps.store hcloning
      rcases hrun : (outside.repository.forM fun file => createFile stack.id
          (join (stack.projectPath :: file.path)) file.content).run w₁ with ⟨e | u, w₂⟩
      · rw [hrun] at hthere hm
        refine hstay e w₂ (hfirst.trans hrun) hm fun hmove => ?_
        have hdirectory : w₂.store.fileSystem.directories (locate stack.projectPath) = true := hthere
        have hfree := hmove.2.2
        simp [FileSystem.exists?, hdirectory] at hfree
      · have hok : ((cloneRepository stack.id stack.projectPath outside.repository).mapError
            (internalServerError "Unable to clone git repository")).run w = (.ok u, w₂) :=
          Action.mapError_run_ok.mpr (hfirst.trans hrun)
        rw [hrun] at hm
        unfold replaceProject
        rw [Action.onError_run_of_ok hok]
        exact hm
    · have hclone : (cloneRepository stack.id stack.projectPath outside.repository).run w =
          (.error text, (w.spend .gitService).spend .fileService) := by
        refine (Action.bind_run_of_ok (Action.query_run_of_none hgit)).trans ?_
        exact Action.bind_run_of_error (Action.call_run_of_some (hspentFault.trans hfault))
      refine hstay text _ hclone hgone fun hmove => hno ⟨fun hclear => ?_, ?_⟩
      · have hnone := (Sys.clear_succ.mp (Sys.clearFrom_zero.mp hclear)).1
        rw [hfault] at hnone
        cases hnone
      · refine Sys.clearFrom_succ.mpr (Sys.clearFrom_zero.mpr ?_)
        have hclear := hmove.1
        unfold Sys.Clear at hclear ⊢
        simpa [Sys.spend] using hclear
  · have hne : ¬ w.fault .gitService = none := by rw [hgit]; exact Option.some_ne_none _
    rw [if_neg hne] at hno
    have hclone : (cloneRepository stack.id stack.projectPath outside.repository).run w =
        (.error text, w.spend .gitService) :=
      Action.bind_run_of_error (Action.query_run_of_some hgit)
    refine hstay text _ hclone hgone fun hmove => hno (Sys.clearFrom_zero.mpr ?_)
    exact (Sys.clear_spend_of_ne (by decide)).mp hmove.1

end Stacks

end Portainer
