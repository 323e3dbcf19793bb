import Portainer.Archive.Helpers.Allowed
/-!
# Extractions — what stays inside the destination

An extraction is confined if it makes and writes nothing outside its
destination, on any disk and whatever fails. `extraction_confined_iff` says of which
archives this is so: of those whose entries are all allowed, up to the one
that ends the extraction. An entry is allowed if it lies inside, and not
because its extractor refuses the others.

`ExtractTarGz` and `UnzipArchive` refuse no name. `extraction_not_confined` is an
archive with the entry `../x`. `UnzipFile` compares the joined path with
the destination, as texts: where the destination is rooted it lets nothing
out (`unzipFile_confined`), but not where it climbs itself.
-/

namespace Portainer

open Path (join clean dir)
open Action (Keeps Meets)

namespace Archive

variable {cwd d l : List Path} {written F : List (List Path)} {p : Path} {content : String}

/-! ## The turns of the three extractors -/

/-- What comes before a file is made: it may make the directory. -/
structure Opens (cwd d : List Path) (p : Path) (x : Fallible Disk Unit) : Prop where
  stays : ∀ (R : Callee → Prop) (written : List (List Path)), (Target.file p).Allows cwd d written →
    Meets R (Reached cwd d written) x (fun _ => Reached cwd d written) fun _ => AllConfined d
  passes : ∀ F, resolve cwd p ∈ F →
    Meets Faultless (Ready cwd d F) x (fun _ => Ready cwd d F) fun _ _ => False
  grows : Keeps x (Out d)

/-- What reads the archive only: it fails where the read fails. -/
structure Quiet (x : Fallible Disk Unit) : Prop where
  keeps : ∀ P : Disk → Prop, Keeps x P
  succeeds : ∀ P : Disk → Prop, Meets Faultless P x (fun _ => P) fun _ _ => False

theorem quiet_query {k : Callee} : Quiet (Action.query k fun _ => ()) where
  keeps _ := Keeps.query
  succeeds _ := Meets.query (fun _ hh => hh) fun hR => absurd trivial hR

theorem Quiet.mapError {x : Fallible Disk Unit} {f : String → String} (h : Quiet x) :
    Quiet (x.mapError f) where
  keeps P := (h.keeps P).mapError
  succeeds P := Meets.mapError (h.succeeds P)

theorem Quiet.opens {x : Fallible Disk Unit} (h : Quiet x) : Opens cwd d p x where
  stays R _ _ := (h.keeps _ R).conseq (fun _ hh => hh) (fun _ _ hh => hh) fun _ _ hh => hh.confined
  passes _ _ := h.succeeds _
  grows := h.keeps _

theorem opens_mkdirAll {f : String → String} (hcwd : ∀ e ∈ cwd, e ≠ ['.', '.'])
    (hp : (∃ q, p = clean q) ∨ p = []) : Opens cwd d p ((mkdirAll (dir p)).mapError f) where
  stays _ _ hallows := Meets.mapError (stays_mkdirAll_dir hcwd hp hallows)
  passes _ hf := Meets.mapError (passes_mkdirAll_dir hcwd hp hf)
  grows := keeps_out_mkdirAll.mapError

/-- **The turn of a file.** -/
theorem Turn.file {before between : Fallible Disk Unit} {f g : String → String}
    (hbefore : Opens cwd d p before) (hbetween : Quiet between) :
    Turn cwd d (do before; (create p).mapError f; between; (copy p content).mapError g) (.file p) where
  stays R written hallows := by
    refine Meets.bind (hbefore.stays R written hallows) fun _ => ?_
    refine Meets.bind (Meets.mapError (stays_create hallows)) fun _ => ?_
    refine Meets.bind ((hbetween.keeps _ R).conseq (fun _ hh => hh) (fun _ _ hh => hh)
      fun _ _ hh => hh.2.confined) fun _ => ?_
    exact Meets.mapError stays_copy
  passes F hf := by
    refine Meets.bind (hbefore.passes F hf) fun _ => ?_
    refine Meets.bind (Meets.mapError (passes_create hf)) fun _ => ?_
    refine Meets.bind (hbetween.succeeds _) fun _ => ?_
    exact Meets.mapError ((passes_copy hf).conseq (fun _ hh => hh.1) (fun _ _ hh => hh) fun _ _ hh => hh)
  leaves F h := by
    obtain ⟨hf, hout⟩ := h
    refine Meets.bind ((hbefore.passes F hf).conseq (fun _ hh => hh) (fun _ _ hh => hh)
      fun _ _ hh => hh.elim) fun _ => ?_
    -- the file is made, and it is outside
    refine Meets.bind (M := fun _ => Out d) (Meets.mapError ((passes_create hf).conseq (fun _ hh => hh)
      (fun _ h hh => ⟨_, hh.2, hout⟩) fun _ _ hh => hh)) fun _ => ?_
    exact Meets.bind (hbetween.keeps _ _) fun _ => Meets.mapError (keeps_out_copy _)
  grows := hbefore.grows.bind fun _ => keeps_out_create.mapError.bind fun _ =>
    (hbetween.keeps _).bind fun _ => keeps_out_copy.mapError

theorem Turn.quiet_bind {x y : Fallible Disk Unit} {t : Target} (hx : Quiet x) (hy : Turn cwd d y t) :
    Turn cwd d (x >>= fun _ => y) t where
  stays R written hallows :=
    Meets.bind ((hx.keeps _ R).conseq (fun _ hh => hh) (fun _ _ hh => hh) fun _ _ hh => hh.confined)
      fun _ => hy.stays R written hallows
  passes F h := Meets.bind (hx.succeeds _) fun _ => hy.passes F h
  leaves F h :=
    Meets.bind ((hx.succeeds _).conseq (fun _ hh => hh) (fun _ _ hh => hh) fun _ _ hh => hh.elim)
      fun _ => hy.leaves F h
  grows := (hx.keeps _).bind fun _ => hy.grows

theorem cleaned_join {parts : List Path} : (∃ q, join parts = clean q) ∨ join parts = [] := by
  unfold join
  simp only
  split
  · exact .inr rfl
  · exact .inl ⟨_, rfl⟩

theorem mapError_id (x : Fallible Disk Unit) : x.mapError id = x := by
  unfold Action.mapError
  congr 1
  funext w
  rcases x.run w with ⟨_ | _, _⟩ <;> rfl

theorem turn_nextTarEntry {dest : Path} (hcwd : ∀ e ∈ cwd, e ≠ ['.', '.']) (header : TarEntry) :
    Turn cwd d (nextTarEntry dest header) (tarTarget dest header) := by
  refine Turn.quiet_bind quiet_query ?_
  unfold extractTarEntry tarTarget
  by_cases hdirectory : header.typeflag = typeDir
  · rw [if_pos hdirectory, if_pos hdirectory]
    exact Turn.skipped
  rw [if_neg hdirectory, if_neg hdirectory]
  by_cases hfile : header.typeflag = typeReg
  · rw [if_pos hfile, if_pos hfile]
    have hp : (∃ q, extractedPath dest header = clean q) ∨ extractedPath dest header = [] :=
      .inl ⟨_, rfl⟩
    have hquiet : Quiet (pure ()) := ⟨fun _ => Keeps.pure, fun _ => Meets.pure fun _ hh => hh⟩
    exact Turn.file (opens_mkdirAll hcwd hp) hquiet
  · rw [if_neg hfile, if_neg hfile]
    exact Turn.refused

theorem turn_extractFileFromArchive {dest : Path} (file : ZipEntry) :
    Turn cwd d (extractFileFromArchive dest file) (archiveTarget dest file) := by
  have hquiet : Quiet (pure ()) := ⟨fun _ => Keeps.pure, fun _ => Meets.pure fun _ hh => hh⟩
  have hbefore : Opens cwd d (join [dest, file.name]) (Action.query .requestBody fun _ => ()) :=
    quiet_query.opens
  have hturn : Turn cwd d (do
      Action.query .requestBody fun _ => ()
      (create (join [dest, file.name])).mapError id
      pure ()
      (copy (join [dest, file.name]) file.content).mapError id) (.file (join [dest, file.name])) :=
    Turn.file hbefore hquiet
  rw [mapError_id, mapError_id] at hturn
  exact hturn

theorem turn_unzipTurn {dest : Path} (hcwd : ∀ e ∈ cwd, e ≠ ['.', '.']) (f : ZipEntry) :
    Turn cwd d (unzipTurn dest f) (unzipTarget dest f) := by
  unfold unzipTurn unzipTarget
  by_cases hlegal : legalFilePath dest (join [dest, f.name]) = true
  · rw [if_pos hlegal]
    simp only [Action.require, hlegal, if_true, Action.pure_bind]
    split
    · exact Turn.directory
    · exact Turn.file (opens_mkdirAll hcwd cleaned_join) quiet_query.mapError
  · rw [if_neg hlegal]
    simp only [Action.require, if_neg hlegal]
    exact Turn.refused

/-! ## Whole extractions -/

/-- Every entry up to the one that ends the extraction is allowed. -/
def Stays (cwd d : List Path) : List (List Path) → List Target → Prop
  | _, [] => True
  | written, t :: ts =>
    t.Allows cwd d written ∧ (t.Ends cwd written ∨ Stays cwd d (t.adds cwd written) ts)

/-- Where the files `F` are there, the extraction gets to a target that
leaves. -/
def Leads (cwd d : List Path) (F : List (List Path)) : List Target → Prop
  | [] => False
  | t :: ts => t.Leaves cwd d F ∨ t.Passes cwd d F ∧ Leads cwd d F ts

section Loop

variable {α : Type} {turn : α → Fallible Disk Unit} {target : α → Target} {archive : List α}

/-- **An extraction stays inside** while its entries are allowed. -/
theorem forM_stays (hturn : ∀ a ∈ archive, Turn cwd d (turn a) (target a)) {R : Callee → Prop}
    (hstays : Stays cwd d written (archive.map target)) :
    Meets R (Reached cwd d written) (archive.forM turn) (fun _ => AllConfined d)
      fun _ => AllConfined d := by
  induction archive generalizing written with
  | nil => exact Meets.pure fun _ hh => hh.confined
  | cons a archive ih =>
    obtain ⟨hallows, hrest⟩ := hstays
    refine Meets.bind ((hturn a List.mem_cons_self).stays R written hallows) fun _ => ?_
    rcases hrest with hends | hrest
    · intro w _ hw
      exact absurd hends hw.1
    · have hih := ih (fun b hb => hturn b (List.mem_cons_of_mem a hb)) hrest
      exact hih.conseq (fun _ hh => hh.2) (fun _ _ hh => hh) fun _ _ hh => hh

/-- **An extraction gets out** of a prepared disk. -/
theorem forM_leads (hturn : ∀ a ∈ archive, Turn cwd d (turn a) (target a))
    (hleads : Leads cwd d F (archive.map target)) :
    Meets Faultless (Ready cwd d F) (archive.forM turn) (fun _ => Out d) fun _ => Out d := by
  induction archive with
  | nil => exact hleads.elim
  | cons a archive ih =>
    have hturns : ∀ b ∈ archive, Turn cwd d (turn b) (target b) :=
      fun b hb => hturn b (List.mem_cons_of_mem a hb)
    rcases hleads with hleaves | ⟨hpasses, hrest⟩
    · refine Meets.bind ((hturn a List.mem_cons_self).leaves F hleaves) fun _ => ?_
      exact Keeps.forM (fun b hb => (hturns b hb).grows) _
    · refine Meets.bind (((hturn a List.mem_cons_self).passes F hpasses).conseq (fun _ hh => hh)
        (fun _ _ hh => hh) fun _ _ hh => hh.elim) fun _ => ?_
      exact ih hturns hrest

end Loop

/-- **Where an entry is not allowed, there are files** that lead the
extraction out. -/
theorem exists_leads {ts : List Target} (hapart : ∀ f ∈ written, ¬ Clash cwd written f)
    (hinside : ∀ f ∈ written, d <+: f) (hnot : ¬ Stays cwd d written ts) :
    ∃ F, (∀ f ∈ written, f ∈ F) ∧ (∀ f ∈ F, ¬ Clash cwd F f) ∧ Leads cwd d F ts := by
  induction ts generalizing written with
  | nil => exact absurd trivial hnot
  | cons t ts ih =>
    have hone : ∀ l, ¬ Clash cwd written l → ∀ f ∈ l :: written, ¬ Clash cwd (l :: written) f := by
      rintro l hl f hf (hcwd | ⟨w, hw, hne, hcomparable⟩)
      · rcases List.mem_cons.mp hf with rfl | hf'
        · exact hl (.inl hcwd)
        · exact hapart f hf' (.inl hcwd)
      · rcases List.mem_cons.mp hf with rfl | hf' <;> rcases List.mem_cons.mp hw with rfl | hw'
        · exact hne rfl
        · exact hl (.inr ⟨w, hw', hne, hcomparable⟩)
        · exact hl (.inr ⟨f, hf', hne.symm, hcomparable.symm⟩)
        · exact hapart f hf' (.inr ⟨w, hw', hne, hcomparable⟩)
    by_cases hallows : t.Allows cwd d written
    · have hgoes : ¬ t.Ends cwd written ∧ ¬ Stays cwd d (t.adds cwd written) ts := by
        by_contra h
        exact hnot ⟨hallows, by tauto⟩
      obtain ⟨hends, hrest⟩ := hgoes
      cases t with
      | skipped =>
        obtain ⟨F, hF, hapartF, hleads⟩ := ih hapart hinside hrest
        exact ⟨F, hF, hapartF, .inr ⟨trivial, hleads⟩⟩
      | refused => exact absurd trivial hends
      | directory p =>
        obtain ⟨F, hF, hapartF, hleads⟩ := ih hapart hinside hrest
        exact ⟨F, hF, hapartF, .inr ⟨hallows, hleads⟩⟩
      | file p =>
        have hin : d <+: resolve cwd p := hallows.resolve_left hends
        have hinside' : ∀ f ∈ resolve cwd p :: written, d <+: f := by
          intro f hf
          rcases List.mem_cons.mp hf with rfl | hf
          · exact hin
          · exact hinside f hf
        obtain ⟨F, hF, hapartF, hleads⟩ := ih (hone _ hends) hinside' hrest
        exact ⟨F, fun f hf => hF f (List.mem_cons_of_mem _ hf), hapartF,
          .inr ⟨hF _ List.mem_cons_self, hleads⟩⟩
    · cases t with
      | skipped => exact absurd trivial hallows
      | refused => exact absurd trivial hallows
      | directory p => exact ⟨written, fun _ hf => hf, hapart, .inl ⟨hallows, hinside⟩⟩
      | file p =>
        have hboth : ¬ Clash cwd written (resolve cwd p) ∧ ¬ d <+: resolve cwd p := not_or.mp hallows
        exact ⟨resolve cwd p :: written, fun f hf => List.mem_cons_of_mem _ hf, hone _ hboth.1,
          .inl ⟨List.mem_cons_self, hboth.2⟩⟩

/-- A disk with the files `F`, in the directories they need. -/
def prepared (cwd : List Path) (F : List (List Path)) (hcwd : ∀ e ∈ cwd, e ≠ ['.', '.'])
    (hapart : ∀ f ∈ F, ¬ Clash cwd F f) : FileTree where
  node e :=
    if e ∈ F then some (.file "")
    else if e <+: cwd ∨ ∃ f ∈ F, e <+: f then some .directory else none
  workingDirectory := cwd
  climbs_not := hcwd
  node_of_prefix e he := by
    rw [if_neg fun hf => hapart e hf (.inl he), if_pos (.inl he)]
  locations := cwd.inits ++ F.flatMap List.inits
  listed e he := by
    simp only [List.mem_append, List.mem_flatMap, List.mem_inits]
    split at he
    · rename_i hf
      exact .inr ⟨e, hf, List.prefix_rfl⟩
    · split at he
      · rename_i hway
        exact hway
      · exact absurd rfl he

theorem ready_prepared {hcwd : ∀ e ∈ cwd, e ≠ ['.', '.']} {hapart : ∀ f ∈ F, ¬ Clash cwd F f} :
    Ready cwd d F { tree := prepared cwd F hcwd hapart } where
  workingDirectory := rfl
  file f hf := ⟨"", if_pos hf⟩
  directory f hf e he hne := by
    have hnot : e ∉ F := fun heF => hapart f hf (.inr ⟨e, heF, hne, .inl he⟩)
    show (if e ∈ F then _ else _) = _
    rw [if_neg hnot, if_pos (.inr ⟨f, hf, he⟩)]
  mem_of_file e content he := by
    by_contra hnot
    have hnode : (prepared cwd F hcwd hapart).node e =
        if e <+: cwd ∨ ∃ f ∈ F, e <+: f then some .directory else none := if_neg hnot
    rw [hnode] at he
    split at he <;> cases he
  known e he := by
    by_cases hF : e ∈ F
    · exact .inr (.inr ⟨e, hF, List.prefix_rfl⟩)
    have hnode : (prepared cwd F hcwd hapart).node e =
        if e <+: cwd ∨ ∃ f ∈ F, e <+: f then some .directory else none := if_neg hF
    rw [hnode] at he
    by_cases hway : e <+: cwd ∨ ∃ f ∈ F, e <+: f
    · rcases hway with hway | hway
      · exact .inl hway
      · exact .inr (.inr hway)
    · rw [if_neg hway] at he
      exact absurd rfl he

/-- An archive, with the extractor and the destination. -/
inductive Extraction
  | extractTarGz (archive : List TarEntry) (outputDirPath : Path)
  | unzipArchive (archive : List ZipEntry) (dest : Path)
  | unzipFile (archive : List ZipEntry) (dest : Path)

namespace Extraction

/-- The run of the extractor. -/
def run : Extraction → Fallible Disk Unit
  | extractTarGz archive dest => Archive.extractTarGz archive dest
  | unzipArchive archive dest => Archive.unzipArchive archive dest
  | unzipFile archive dest => Archive.unzipFile archive dest

/-- The destination. -/
def dest : Extraction → Path
  | extractTarGz _ dest => dest
  | unzipArchive _ dest => dest
  | unzipFile _ dest => dest

/-- What the entries are to become. -/
def targets : Extraction → List Target
  | extractTarGz archive dest => archive.map (tarTarget dest)
  | unzipArchive archive dest => archive.map (archiveTarget dest)
  | unzipFile archive dest => archive.map (unzipTarget dest)

/-- **The extraction is confined**: on any disk and whatever fails, nothing
is made or written outside the destination, directories on the way to it
apart. -/
def Confined (cwd : List Path) (x : Extraction) : Prop :=
  ∀ w : Sys Callee Disk, w.store.tree.workingDirectory = cwd → w.store.acts = [] →
    ∀ a ∈ (x.run.run w).2.store.acts, a.Confined (resolve cwd x.dest)

/-- **Every entry lies inside the destination**, up to the one that ends
the extraction: one that its extractor refuses, or that is in the place of
a directory or below a file. -/
def StaysInside (cwd : List Path) (x : Extraction) : Prop :=
  Stays cwd (resolve cwd x.dest) [] x.targets

variable {x : Extraction}

/-- The two loops: where the extraction stays, and where it gets out. -/
theorem run_stays (hcwd : ∀ e ∈ cwd, e ≠ ['.', '.']) {R : Callee → Prop}
    (h : Stays cwd d [] x.targets) :
    Meets R (Reached cwd d []) x.run (fun _ => AllConfined d) fun _ => AllConfined d := by
  cases x with
  | extractTarGz archive dest =>
    refine Meets.bind (M := fun _ => Reached cwd d []) ((Keeps.query R).conseq (fun _ hh => hh)
      (fun _ _ hh => hh) fun _ _ hh => hh.confined) fun _ => ?_
    exact forM_stays (fun a _ => turn_nextTarEntry hcwd a) h
  | unzipArchive archive dest =>
    refine Meets.bind (M := fun _ => Reached cwd d []) ((Keeps.query R).conseq (fun _ hh => hh)
      (fun _ _ hh => hh) fun _ _ hh => hh.confined) fun _ => ?_
    exact forM_stays (fun a _ => turn_extractFileFromArchive a) h
  | unzipFile archive dest =>
    refine Meets.bind (M := fun _ => Reached cwd d []) ((Keeps.query R).conseq (fun _ hh => hh)
      (fun _ _ hh => hh) fun _ _ hh => hh.confined) fun _ => ?_
    exact forM_stays (fun a _ => turn_unzipTurn hcwd a) h

theorem run_leads (hcwd : ∀ e ∈ cwd, e ≠ ['.', '.']) (h : Leads cwd d F x.targets) :
    Meets Faultless (Ready cwd d F) x.run (fun _ => Out d) fun _ => Out d := by
  have hquery : ∀ k : Callee, Meets Faultless (Ready cwd d F) (Action.query k fun _ => ())
      (fun _ => Ready cwd d F) fun _ => Out d := fun k =>
    Meets.query (fun _ hh => hh) fun hR => absurd trivial hR
  cases x with
  | extractTarGz archive dest =>
    exact Meets.bind (hquery _) fun _ => forM_leads (fun a _ => turn_nextTarEntry hcwd a) h
  | unzipArchive archive dest =>
    exact Meets.bind (hquery _) fun _ => forM_leads (fun a _ => turn_extractFileFromArchive a) h
  | unzipFile archive dest =>
    exact Meets.bind (hquery _) fun _ => forM_leads (fun a _ => turn_unzipTurn hcwd a) h

theorem confined_of_stays (hcwd : ∀ e ∈ cwd, e ≠ ['.', '.']) (hstays : StaysInside cwd x) :
    Confined cwd x := by
  intro w hw hacts
  have hreached : Reached cwd (resolve cwd x.dest) [] w.store :=
    ⟨hw, by simp, by simp, by simp [hacts]⟩
  exact Meets.store (run_stays hcwd hstays) hreached

/-- **An extraction is confined exactly when its entries are allowed**, each
lying inside the destination, up to the one that ends it. -/
theorem extraction_confined_iff (hcwd : ∀ e ∈ cwd, e ≠ ['.', '.']) : Confined cwd x ↔ StaysInside cwd x := by
  constructor
  · intro hconfined
    by_contra hnot
    obtain ⟨F, -, hapart, hleads⟩ := exists_leads (by simp) (by simp) hnot
    have hend := (run_leads hcwd hleads).ends (w := .faultless { tree := prepared cwd F hcwd hapart })
      (fun _ _ _ ho => (List.not_mem_nil ho).elim) ready_prepared
    obtain ⟨a, ha, hout⟩ : Out (resolve cwd x.dest)
        (x.run.run (.faultless { tree := prepared cwd F hcwd hapart })).2.store := by
      rcases hrun : x.run.run (.faultless { tree := prepared cwd F hcwd hapart }) with ⟨e | u, w'⟩ <;>
        rw [hrun] at hend <;> exact hend
    exact hout (hconfined (.faultless { tree := prepared cwd F hcwd hapart }) rfl rfl a ha)
  · exact confined_of_stays hcwd

/-- An archive of a directory and two files, one by way of the directory. -/
def staying : Extraction :=
  .extractTarGz [⟨"a".toList, typeDir, ""⟩, ⟨"a/b".toList, typeReg, "text"⟩, ⟨"a/../x".toList, typeReg, "text"⟩]
    "data/new".toList

/-- It is extracted inside, from a working directory. -/
theorem extraction_confined_iff_inside : Confined ["srv".toList, "app".toList] staying := by
  -- the entry of the directory is passed over
  refine (extraction_confined_iff (by decide)).mpr ⟨trivial, .inr ⟨Or.inr ?_, .inr ⟨Or.inr ?_, .inr trivial⟩⟩⟩
  · decide
  · decide

/-- An archive with an entry that climbs. -/
def climbing : Extraction := .extractTarGz [⟨"../x".toList, typeReg, "text"⟩] "/d".toList

/-- An empty disk. -/
def emptyDisk : Disk where
  tree := prepared [] [] (by simp) (by simp)

/-- **`ExtractTarGz` refuses no name**: the entry `../x` is written beside
the destination. -/
theorem extraction_not_confined : ¬ Confined [] climbing := by
  intro h
  have hwritten : Act.create ["x".toList] ∈ (climbing.run.run (.faultless emptyDisk)).2.store.acts := by
    decide
  have hinside : resolve [] "/d".toList <+: ["x".toList] :=
    h (.faultless emptyDisk) rfl rfl _ hwritten
  exact absurd hinside (by decide)

/-! ## The check of `UnzipFile` -/

theorem stays_of_allows {ts : List Target} (h : ∀ t ∈ ts, ∀ written, t.Allows cwd d written) :
    Stays cwd d written ts := by
  induction ts generalizing written with
  | nil => trivial
  | cons t ts ih =>
    exact ⟨h t List.mem_cons_self written, .inr (ih fun t' ht' => h t' (List.mem_cons_of_mem t ht'))⟩

/-- Below a rooted directory, a path that begins with the text of the
directory lies inside. -/
theorem prefix_of_legal {dest : Path} (hdest : dest.rooted = true) (hp : ∃ q, p = clean q)
    (hlegal : legalFilePath dest p = true) : resolve cwd dest <+: resolve cwd p := by
  obtain ⟨q, rfl⟩ := hp
  obtain ⟨rest, hrest⟩ := of_decide_eq_true hlegal
  have hqrooted : q.rooted = true := by
    rw [← Path.rooted_clean, ← hrest, Path.clean_eq, hdest]
    rfl
  have hsplit := congrArg (List.splitOn '/') hrest
  rw [List.append_assoc, List.singleton_append, List.splitOn_append_cons_self, Path.splitOn_clean,
    Path.splitOn_clean, hdest, hqrooted, if_pos rfl, if_pos rfl, List.cons_append] at hsplit
  obtain ⟨-, helements⟩ := List.cons.inj hsplit
  rw [resolve_clean]
  unfold resolve
  rw [hdest, hqrooted, if_pos rfl]
  by_cases hroot : Path.walk true [] dest = []
  · rw [hroot]
    exact List.nil_prefix
  · rw [if_neg hroot] at helements
    split at helements
    · rename_i hnil
      -- the path is the root, which is not below the directory
      have hlen := congrArg List.length helements
      have hpos : 0 < (Path.walk true [] dest).length := List.length_pos_of_ne_nil hroot
      have hrestpos : 0 < (rest.splitOn '/').length := List.length_pos_of_ne_nil (List.splitOn_ne_nil _ _)
      simp only [List.length_append, List.length_reverse, List.length_singleton] at hlen
      omega
    · exact ⟨_, helements⟩

/-- **`UnzipFile` stays inside a rooted destination**, whatever the names of
the entries. -/
theorem unzipFile_confined {archive : List ZipEntry} {dest : Path} (hcwd : ∀ e ∈ cwd, e ≠ ['.', '.'])
    (hdest : dest.rooted = true) : Confined cwd (.unzipFile archive dest) := by
  refine confined_of_stays hcwd (stays_of_allows fun t ht written => ?_)
  obtain ⟨f, -, rfl⟩ := List.mem_map.mp ht
  unfold unzipTarget
  by_cases hlegal : legalFilePath dest (join [dest, f.name]) = true
  · have hjoin : ∃ q, join [dest, f.name] = clean q := by
      refine cleaned_join.resolve_right fun hnil => ?_
      rw [hnil] at hlegal
      exact absurd (of_decide_eq_true hlegal).length_le (by simp)
    have hinside : resolve cwd dest <+: resolve cwd (join [dest, f.name]) :=
      prefix_of_legal hdest hjoin hlegal
    rw [if_pos hlegal]
    split
    · exact .inl (.inl hinside)
    · exact .inr hinside
  · rw [if_neg hlegal]
    trivial

theorem unzipFile_confined_climbing : Confined [] (.unzipFile [⟨"../../x".toList, false, "text"⟩] "/d".toList) :=
  unzipFile_confined (by simp) (by decide)

end Extraction

end Archive

end Portainer
