import Portainer.Archive.Helpers.Turns
/-!
# What an entry is allowed

An entry may be extracted if it is skipped or refused, if its directory is
comparable with the destination, or if its file clashes or lies inside the
destination. An extraction then stays in the destination (`Turn.stays`).
For the converse the disk is prepared: the files that the extraction is
about to write are there already, so that nothing is in its way, and it
gets to the entry that leaves (`Turn.passes`, `Turn.leaves`).
-/

namespace Portainer

open Path (clean dir)
open Action (Keeps Meets)

namespace Archive

variable {cwd d l : List Path} {written F : List (List Path)} {p : Path} {content : String}

/-- Nothing was made outside. -/
def AllConfined (d : List Path) (h : Disk) : Prop := ∀ a ∈ h.acts, a.Confined d

/-- Something was made outside. -/
def Out (d : List Path) (h : Disk) : Prop := ∃ a ∈ h.acts, ¬ a.Confined d

namespace Target

/-- **The target is allowed**, after the files that were written. -/
def Allows (cwd d : List Path) (written : List (List Path)) : Target → Prop
  | skipped => True
  | refused => True
  | directory p => Comparable d (resolve cwd p) ∨ resolve cwd p <+: cwd
  | file p => Clash cwd written (resolve cwd p) ∨ d <+: resolve cwd p

/-- The extraction ends here, with an error. -/
def Ends (cwd : List Path) (written : List (List Path)) : Target → Prop
  | skipped => False
  | refused => True
  | directory _ => False
  | file p => Clash cwd written (resolve cwd p)

/-- What has been written after it. -/
def adds (cwd : List Path) (written : List (List Path)) : Target → List (List Path)
  | file p => resolve cwd p :: written
  | _ => written

/-- The target does no harm, and is not in the way, where the files `F`
are there. -/
def Passes (cwd d : List Path) (F : List (List Path)) : Target → Prop
  | skipped => True
  | refused => False
  | directory p => Comparable d (resolve cwd p) ∨ resolve cwd p <+: cwd
  | file p => resolve cwd p ∈ F

/-- The target leaves, where the files `F` are there. -/
def Leaves (cwd d : List Path) (F : List (List Path)) : Target → Prop
  | skipped => False
  | refused => False
  | directory p => ¬ (Comparable d (resolve cwd p) ∨ resolve cwd p <+: cwd) ∧ ∀ f ∈ F, d <+: f
  | file p => resolve cwd p ∈ F ∧ ¬ d <+: resolve cwd p

end Target

/-- The directory of a cleaned path, over the working directory. -/
theorem resolve_dir_of_cleaned (hcwd : ∀ e ∈ cwd, e ≠ ['.', '.']) (hp : (∃ q, p = clean q) ∨ p = []) :
    resolve cwd (dir p) <+: cwd ∨ ∃ s, resolve cwd p = resolve cwd (dir p) ++ [s] := by
  rcases hp with ⟨q, hp⟩ | hp
  · exact resolve_dir hcwd (.inl hp)
  · exact resolve_dir (q := []) hcwd (.inr hp)

/-! ## The operations, where they stay -/

section Stays

variable {R : Callee → Prop}

/-- What is missing on the way to a directory that is allowed. -/
theorem Reached.comparable_of_missing_directory {h : Disk} (hh : Reached cwd d written h)
    (hallows : Comparable d (resolve cwd p) ∨ resolve cwd p <+: cwd) :
    ∀ e ∈ h.tree.missing (resolve cwd p), Comparable d e := by
  intro e he
  obtain ⟨hway, hnone⟩ := FileTree.mem_missing.mp he
  rcases hallows with (hinside | habove) | hcwd
  · exact Comparable.of_prefix hinside hway
  · exact .inr (hway.trans habove)
  · rw [hh.node_of_prefix (hway.trans hcwd)] at hnone
    cases hnone

/-- Making a directory that is allowed. -/
theorem stays_mkdirAll (hallows : Comparable d (resolve cwd p) ∨ resolve cwd p <+: cwd) :
    Meets R (Reached cwd d written) (mkdirAll p) (fun _ => Reached cwd d written)
      fun _ => Reached cwd d written :=
  meets_mkdirAll (fun _ hh _ => hh.mkdirAll (hh.comparable_of_missing_directory hallows))
    (fun _ _ hh _ => hh) fun _ _ _ hh => hh

/-- Making the directory of a file that is allowed. -/
theorem stays_mkdirAll_dir (hcwd : ∀ e ∈ cwd, e ≠ ['.', '.']) (hp : (∃ q, p = clean q) ∨ p = [])
    (hallows : (Target.file p).Allows cwd d written) :
    Meets R (Reached cwd d written) (mkdirAll (dir p)) (fun _ => Reached cwd d written)
      fun _ => AllConfined d := by
  have hdir := resolve_dir_of_cleaned hcwd hp
  refine meets_mkdirAll (fun h hh hcan => hh.mkdirAll ?_) (fun _ _ hh _ => hh.confined)
    fun _ _ _ hh => hh.confined
  rcases hallows with hclash | hinside
  · rw [hh.locate] at hcan
    rw [hh.missing_of_clash hclash hdir hcan]
    simp
  · exact comparable_of_missing hinside hh hdir

/-- Making a file that is allowed. -/
theorem stays_create (hallows : (Target.file p).Allows cwd d written) :
    Meets R (Reached cwd d written) (create p)
      (fun _ h => (¬ Clash cwd written (resolve cwd p) ∧ d <+: resolve cwd p) ∧
        Reached cwd d (resolve cwd p :: written) h) fun _ => AllConfined d := by
  refine meets_create (fun h hh hcan _ => ?_) (fun _ _ hh _ => hh.confined) fun _ _ _ hh => hh.confined
  have hnot : ¬ Clash cwd written (resolve cwd p) := by
    intro hclash
    rw [hh.not_canCreate hclash] at hcan
    cases hcan
  have hinside : d <+: resolve cwd p := hallows.resolve_left hnot
  exact ⟨⟨hnot, hinside⟩, hh.create hinside hcan⟩

/-- Writing the file that was made. -/
theorem stays_copy :
    Meets R (fun h => (¬ Clash cwd written (resolve cwd p) ∧ d <+: resolve cwd p) ∧
        Reached cwd d (resolve cwd p :: written) h) (copy p content)
      (fun _ h => ¬ (Target.file p).Ends cwd written ∧ Reached cwd d ((Target.file p).adds cwd written) h)
      fun _ => AllConfined d :=
  meets_copy (fun _ hh => ⟨hh.1.1, hh.2.copy List.mem_cons_self hh.1.2⟩)
    fun _ _ _ hh => hh.2.confined

end Stays

/-! ## The operations on a prepared disk -/

/-- **A prepared disk**: the files of `F` are there and no others, and no
directories but those on the way to them, to the working directory, and
comparable with `d`. -/
structure Ready (cwd d : List Path) (F : List (List Path)) (h : Disk) : Prop where
  workingDirectory : h.tree.workingDirectory = cwd
  file : ∀ f ∈ F, ∃ content, h.tree.node f = some (.file content)
  directory : ∀ f ∈ F, ∀ e, e <+: f → e ≠ f → h.tree.node e = some .directory
  mem_of_file : ∀ e content, h.tree.node e = some (.file content) → e ∈ F
  known : ∀ e, h.tree.node e ≠ none → e <+: cwd ∨ Comparable d e ∨ ∃ f ∈ F, e <+: f

namespace Ready

variable {h : Disk}

theorem locate (hh : Ready cwd d F h) : h.locate p = resolve cwd p := by
  rw [Disk.locate, hh.workingDirectory]

theorem node_of_prefix (hh : Ready cwd d F h) {e : List Path} (he : e <+: cwd) :
    h.tree.node e = some .directory :=
  h.tree.node_of_prefix e (by rw [hh.workingDirectory]; exact he)

theorem not_prefix (hh : Ready cwd d F h) {f : List Path} (hf : f ∈ F) : ¬ f <+: cwd := by
  intro hprefix
  obtain ⟨content, hfile⟩ := hh.file f hf
  rw [hh.node_of_prefix hprefix] at hfile
  cases hfile

theorem mkdirAll (hh : Ready cwd d F h)
    (hknown : ∀ e, e <+: resolve cwd p → e <+: cwd ∨ Comparable d e ∨ ∃ f ∈ F, e <+: f) :
    Ready cwd d F (h.mkdirAll p) := by
  have hnode : ∀ e, (h.mkdirAll p).tree.node e =
      if e <+: resolve cwd p ∧ h.tree.node e = none then some .directory else h.tree.node e := by
    intro e
    rw [← hh.locate]
    rfl
  refine ⟨hh.workingDirectory, fun f hf => ?_, fun f hf e he hne => ?_, fun e content he => ?_,
    fun e he => ?_⟩
  · obtain ⟨content, hfile⟩ := hh.file f hf
    exact ⟨content, FileTree.node_mkdirAll_of_some hfile⟩
  · exact FileTree.node_mkdirAll_of_some (hh.directory f hf e he hne)
  · rw [hnode] at he
    split at he
    · cases he
    · exact hh.mem_of_file e content he
  · rw [hnode] at he
    split at he
    · rename_i hnew
      exact hknown e hnew.1
    · exact hh.known e he

/-- The directory of a file of `F` is there. -/
theorem node_of_dir (hh : Ready cwd d F h) (hf : resolve cwd p ∈ F)
    (hdir : resolve cwd (dir p) <+: cwd ∨ ∃ s, resolve cwd p = resolve cwd (dir p) ++ [s])
    {e : List Path} (he : e <+: resolve cwd (dir p)) : h.tree.node e = some .directory := by
  rcases hdir with hdir | ⟨s, hs⟩
  · exact hh.node_of_prefix (he.trans hdir)
  · have hup : e <+: resolve cwd p := by
      rw [hs]
      exact he.trans (List.prefix_append _ _)
    refine hh.directory _ hf e hup fun heq => ?_
    have hlen := he.length_le
    rw [heq, hs, List.length_append, List.length_singleton] at hlen
    omega

/-- A file of `F` can be created, and stays what it is. -/
theorem canCreate (hh : Ready cwd d F h) (hf : resolve cwd p ∈ F) :
    h.tree.canCreate (h.locate p) = true := by
  rw [hh.locate]
  refine FileTree.canCreate_iff.mpr ⟨hh.directory _ hf, ?_⟩
  obtain ⟨content, hfile⟩ := hh.file _ hf
  rw [hfile]
  simp

theorem withFile (hh : Ready cwd d F h) (hf : resolve cwd p ∈ F) {acts : List Act} :
    Ready cwd d F { tree := h.tree.withFile (h.locate p) content, acts := acts } := by
  have hnot : h.tree.node (resolve cwd p) ≠ some .directory := by
    obtain ⟨before, hfile⟩ := hh.file _ hf
    rw [hfile]
    simp
  rw [hh.locate]
  have hself : (h.tree.withFile (resolve cwd p) content).node (resolve cwd p) = some (.file content) :=
    FileTree.node_withFile_self hnot
  have hother : ∀ e, e ≠ resolve cwd p →
      (h.tree.withFile (resolve cwd p) content).node e = h.tree.node e :=
    fun e he => FileTree.node_withFile_of_ne he
  refine ⟨hh.workingDirectory, fun f hf' => ?_, fun f hf' e he hne => ?_, fun e c he => ?_,
    fun e he => ?_⟩
  · by_cases heq : f = resolve cwd p
    · exact ⟨content, heq ▸ hself⟩
    · obtain ⟨c, hfile⟩ := hh.file f hf'
      exact ⟨c, (hother f heq).trans hfile⟩
  · have hdirectory := hh.directory f hf' e he hne
    exact (hother e fun heq => hnot (heq ▸ hdirectory)).trans hdirectory
  · by_cases heq : e = resolve cwd p
    · exact heq ▸ hf
    · exact hh.mem_of_file e c ((hother e heq).symm.trans he)
  · by_cases heq : e = resolve cwd p
    · exact .inr (.inr ⟨_, hf, heq ▸ List.prefix_rfl⟩)
    · exact hh.known e fun hnone => he ((hother e heq).trans hnone)

end Ready

/-! ## Runs on a prepared disk -/

section Faultless

/-- No callee fails. -/
def Faultless : Callee → Prop := fun _ => True

theorem passes_mkdirAll (hpasses : Comparable d (resolve cwd p) ∨ resolve cwd p <+: cwd) :
    Meets Faultless (Ready cwd d F) (mkdirAll p) (fun _ => Ready cwd d F) fun _ => Ready cwd d F := by
  refine meets_mkdirAll (fun h hh _ => hh.mkdirAll fun e he => ?_) (fun _ _ hh _ => hh)
    fun hR => absurd trivial hR
  rcases hpasses with (hinside | habove) | hcwd
  · exact .inr (.inl (Comparable.of_prefix hinside he))
  · exact .inr (.inl (.inr (he.trans habove)))
  · exact .inl (he.trans hcwd)

theorem passes_mkdirAll_dir (hcwd : ∀ e ∈ cwd, e ≠ ['.', '.']) (hp : (∃ q, p = clean q) ∨ p = [])
    (hf : resolve cwd p ∈ F) {E : String → Disk → Prop} :
    Meets Faultless (Ready cwd d F) (mkdirAll (dir p)) (fun _ => Ready cwd d F) E := by
  have hdir := resolve_dir_of_cleaned hcwd hp
  refine meets_mkdirAll (fun h hh _ => hh.mkdirAll fun e he => ?_) (fun h _ hh hcan => ?_)
    fun hR => absurd trivial hR
  · exact hh.known e (by rw [hh.node_of_dir hf hdir he]; simp)
  · rw [hh.locate, Bool.eq_false_iff] at hcan
    exact absurd (FileTree.canMkdirAll_iff.mpr fun e he => .inr (hh.node_of_dir hf hdir he)) hcan

/-- A file of `F` is made again. -/
theorem passes_create (hf : resolve cwd p ∈ F) {E : String → Disk → Prop} :
    Meets Faultless (Ready cwd d F) (create p)
      (fun _ h => Ready cwd d F h ∧ .create (resolve cwd p) ∈ h.acts) E := by
  refine meets_create (fun h hh _ _ => ⟨hh.withFile hf, ?_⟩) (fun h _ hh hnot => ?_)
    fun hR => absurd trivial hR
  · have hlocate : h.locate p = resolve cwd p := hh.locate
    exact List.mem_append_right _ (by simp [hlocate])
  · rcases hnot with hcan | rfl
    · rw [hh.canCreate hf] at hcan
      cases hcan
    · exact absurd (show resolve cwd [] <+: cwd by simp [resolve, Path.rooted, Path.walk_nil])
        (hh.not_prefix hf)

theorem passes_copy (hf : resolve cwd p ∈ F) {E : String → Disk → Prop} :
    Meets Faultless (Ready cwd d F) (copy p content) (fun _ => Ready cwd d F) E :=
  meets_copy (fun _ hh => hh.withFile hf) fun hR => absurd trivial hR

/-- The location of a target that leaves is missing on a prepared disk, and
no file is in the way. -/
theorem leaves_mkdirAll (hleaves : ¬ (Comparable d (resolve cwd p) ∨ resolve cwd p <+: cwd))
    (hinside : ∀ f ∈ F, d <+: f) :
    Meets Faultless (Ready cwd d F) (mkdirAll p) (fun _ => Out d) fun _ => Out d := by
  refine meets_mkdirAll (fun h hh _ => ?_) (fun h _ hh hcan => ?_) fun hR => absurd trivial hR
  · refine ⟨.mkdir (resolve cwd p), List.mem_append_right _ (List.mem_map.mpr ⟨_, ?_, rfl⟩), ?_⟩
    · rw [hh.locate]
      refine FileTree.mem_missing.mpr ⟨List.prefix_rfl, ?_⟩
      by_contra hsome
      rcases hh.known _ hsome with hcwd | hcomparable | ⟨f, hf, hprefix⟩
      · exact hleaves (.inr hcwd)
      · exact hleaves (.inl hcomparable)
      · exact hleaves (.inl (Comparable.of_prefix (hinside f hf) hprefix))
    · exact fun hconfined => hleaves (.inl hconfined)
  · -- a file in the way would be inside, and the location with it
    rw [hh.locate, Bool.eq_false_iff] at hcan
    refine absurd (FileTree.canMkdirAll_iff.mpr fun e he => ?_) hcan
    cases hnode : h.tree.node e with
    | none => exact .inl rfl
    | some n =>
      cases n with
      | directory => exact .inr rfl
      | file content =>
        have hf := hh.mem_of_file e content hnode
        exact absurd (.inl (.inl ((hinside e hf).trans he))) hleaves

end Faultless

/-! ## What is outside stays outside -/

theorem keeps_out_mkdirAll : Keeps (mkdirAll p) (Out d) := by
  intro R
  have hgrow : ∀ h : Disk, Out d h → Out d (h.mkdirAll p) := fun h ⟨a, ha, hout⟩ =>
    ⟨a, List.mem_append_left _ ha, hout⟩
  exact meets_mkdirAll (fun h hh _ => hgrow h hh) (fun _ _ hh _ => hh) fun _ _ _ hh => hh

theorem keeps_out_create : Keeps (create p) (Out d) := by
  intro R
  have hgrow : ∀ h : Disk, Out d h → Out d (h.create p) := fun h ⟨a, ha, hout⟩ =>
    ⟨a, List.mem_append_left _ ha, hout⟩
  exact meets_create (fun h hh _ _ => hgrow h hh) (fun _ _ hh _ => hh) fun _ _ _ hh => hh

theorem keeps_out_copy : Keeps (copy p content) (Out d) := by
  intro R
  have hgrow : ∀ h : Disk, Out d h → Out d (h.copy p content) := fun h ⟨a, ha, hout⟩ =>
    ⟨a, List.mem_append_left _ ha, hout⟩
  exact meets_copy (fun h hh => hgrow h hh) fun _ _ _ hh => hh

/-! ## Turns -/

/-- **What a turn of an extraction does**, by its target. -/
structure Turn (cwd d : List Path) (x : Fallible Disk Unit) (t : Target) : Prop where
  stays : ∀ (R : Callee → Prop) (written : List (List Path)), t.Allows cwd d written →
    Meets R (Reached cwd d written) x
      (fun _ h => ¬ t.Ends cwd written ∧ Reached cwd d (t.adds cwd written) h) fun _ => AllConfined d
  passes : ∀ F, t.Passes cwd d F →
    Meets Faultless (Ready cwd d F) x (fun _ => Ready cwd d F) fun _ _ => False
  leaves : ∀ F, t.Leaves cwd d F → Meets Faultless (Ready cwd d F) x (fun _ => Out d) fun _ => Out d
  grows : Keeps x (Out d)

namespace Turn

/-- The turn of a skipped entry. -/
theorem skipped : Turn cwd d (pure ()) .skipped where
  stays _ _ _ := Meets.pure fun _ hh => ⟨id, hh⟩
  passes _ _ := Meets.pure fun _ hh => hh
  leaves _ h := h.elim
  grows := Keeps.pure

/-- The turn of a refused entry. -/
theorem refused {text : String} : Turn cwd d (Action.fail text) .refused where
  stays _ _ _ := Meets.fail fun _ hh => hh.confined
  passes _ h := h.elim
  leaves _ h := h.elim
  grows := Keeps.fail

/-- The turn of a directory that is passed over where it cannot be made. -/
theorem directory : Turn cwd d (do let _ ← (mkdirAll p).attempt; return ()) (.directory p) where
  stays R written hallows := by
    refine Meets.bind (M := fun _ => Reached cwd d written) (Meets.attempt (stays_mkdirAll hallows))
      fun _ => Meets.pure fun _ hh => ⟨id, hh⟩
  passes F hpasses :=
    Meets.bind (M := fun _ => Ready cwd d F) (Meets.attempt (passes_mkdirAll hpasses))
      fun _ => Meets.pure fun _ hh => hh
  leaves F hleaves :=
    Meets.bind (M := fun _ => Out d) (Meets.attempt (leaves_mkdirAll hleaves.1 hleaves.2))
      fun _ => Meets.pure fun _ hh => hh
  grows := keeps_out_mkdirAll.attempt.bind fun _ => Keeps.pure

end Turn

end Archive

end Portainer
