import Portainer.Archive.Packing.Helpers.Laying
/-!
# What an archive holds of a directory

An archive *represents* some files, by their names below a directory, if
its regular entries are these files. `TarGzDir` makes an archive that
represents what is below the directory, its own file apart
(`leads_tarGzDir`), and `ExtractTarGz` lays the files that are represented
over the directory it is given (`leads_extractTarGz`).
-/

namespace Portainer

open Path (join clean base trimPrefix Segment Absolute Descends under)
open Action (Meets)
open FileTree (Fits Located put)

namespace Archive.Packing

variable {sure : Prop} {places : Set (List Path)} {t : FileTree} {F files : List Path → Option String} {p out : Path}
  {entries : List TarEntry} {rel l D O : List Path}

/-- **The archive represents the files**, each by its names below a
directory. -/
structure Represents (files : List Path → Option String) (entries : List TarEntry) : Prop where
  known : ∀ e ∈ entries, e.typeflag = typeDir ∨
    e.typeflag = typeReg ∧ ∃ rel, Descends e.name rel ∧ files rel = some e.content
  present : ∀ rel content, files rel = some content →
    ∃ e ∈ entries, e.typeflag = typeReg ∧ Descends e.name rel ∧ e.content = content

/-! ## Extractions -/

/-- What the archive holds, over what is there. -/
def unpacked (files : List Path → Option String) (location l : List Path) : Option String :=
  if location <+: l then files (l.drop location.length) else none

/-- Where an entry is extracted to. -/
def placed (t : FileTree) (out : Path) (e : TarEntry) : List Path :=
  resolve t.workingDirectory (extractedPath out e)

theorem located_extractedPath {e : TarEntry} (hout : Located t out O) (he : Descends e.name rel) :
    Located t (extractedPath out e) (O ++ rel) := by
  have hjoin := hout.descend he
  rwa [← hjoin.absolute.cleaned] at hjoin

/-- The entry is laid over the tree. -/
def lay (t : FileTree) (out : Path) (F : List Path → Option String) (e : TarEntry) : List Path → Option String :=
  if e.typeflag = typeDir then F else put (placed t out e) e.content F

/-- An entry that is a directory, or a file that has a place. -/
theorem leads_nextTarEntry {e : TarEntry} (hout : Located t out O) (he : e.typeflag = typeDir ∨
    e.typeflag = typeReg ∧ ∃ rel, Descends e.name rel ∧ files rel = some e.content)
    (hplaces : sure → ∀ rel, files rel ≠ none → O ++ rel ∈ places) :
    Leads sure (Over sure places t F) (nextTarEntry out e) (fun _ => Over sure places t (lay t out F e)) := by
  unfold nextTarEntry extractTarEntry lay
  refine .query_bind fun _ => ?_
  by_cases hdir : e.typeflag = typeDir
  · rw [if_pos hdir, if_pos hdir]
    exact .pure fun _ hh => hh
  · obtain ⟨hreg, rel, hrel, hfile⟩ := he.resolve_left hdir
    have hpath := located_extractedPath hout hrel
    have hplace : sure → O ++ rel ∈ places := fun hsure => hplaces hsure rel (hfile ▸ Option.some_ne_none _)
    rw [if_neg hdir, if_neg hdir, if_pos hreg, placed, hpath.leads]
    exact .bind (.mapError (leads_mkdirAll_dir hpath hplace)) fun _ =>
      .bind (.mapError (leads_create hpath hplace)) fun _ => .mapError (leads_copy hpath hplace)

theorem leads_forM_nextTarEntry (hout : Located t out O) (hentries : ∀ e ∈ entries, e.typeflag = typeDir ∨
    e.typeflag = typeReg ∧ ∃ rel, Descends e.name rel ∧ files rel = some e.content)
    (hplaces : sure → ∀ rel, files rel ≠ none → O ++ rel ∈ places) :
    Leads sure (Over sure places t F) (entries.forM (nextTarEntry out))
      (fun _ => Over sure places t (entries.foldl (lay t out) F)) := by
  induction entries generalizing F with
  | nil => exact .pure fun _ hh => hh
  | cons e entries ih =>
    rw [Action.forM_cons]
    exact .bind (leads_nextTarEntry hout (hentries e List.mem_cons_self) hplaces) fun _ =>
      ih fun e' he' => hentries e' (List.mem_cons_of_mem e he')

/-- The files that are extracted. -/
def extracted (t : FileTree) (out : Path) (entries : List TarEntry) : List (List Path × String) :=
  (entries.filter fun e => e.typeflag ≠ typeDir).map fun e => (placed t out e, e.content)

theorem foldl_lay_eq : entries.foldl (lay t out) F = (extracted t out entries).foldl (fun F f => put f.1 f.2 F) F := by
  induction entries generalizing F with
  | nil => rfl
  | cons e entries ih =>
    rw [List.foldl_cons, ih]
    unfold extracted lay
    by_cases he : e.typeflag = typeDir
    · rw [if_pos he, List.filter_cons_of_neg (by simpa using he)]
    · rw [if_neg he, List.filter_cons_of_pos (by simpa using he)]
      rfl

/-- An entry that is extracted is one of the files. -/
theorem mem_extracted {f : List Path × String} (hout : Located t out O) (hentries : Represents files entries)
    (hf : f ∈ extracted t out entries) : unpacked files O f.1 = some f.2 := by
  obtain ⟨e, he, rfl⟩ := List.mem_map.mp hf
  obtain ⟨hmem, hreg⟩ := List.mem_filter.mp he
  obtain ⟨-, rel, hrel, hfile⟩ := (hentries.known e hmem).resolve_left (by simpa using hreg)
  show unpacked files _ (placed t out e) = some e.content
  rw [placed, (located_extractedPath hout hrel).leads, unpacked, if_pos (List.prefix_append _ rel), List.drop_left,
    hfile]

/-- The entries together, one after the other. -/
theorem foldl_lay (hout : Located t out O) (hentries : Represents files entries) (l : List Path) :
    entries.foldl (lay t out) F l = (unpacked files O l).or (F l) := by
  have hcontent : ∀ f ∈ extracted t out entries,
      f.2 = (unpacked files O f.1).getD "" := fun f hf => by
    rw [mem_extracted hout hentries hf]
    rfl
  rw [foldl_lay_eq, FileTree.foldl_put
    (c := fun l => (unpacked files O l).getD "") hcontent]
  split
  · rename_i hl
    obtain ⟨f, hf, rfl⟩ := List.mem_map.mp hl
    rw [mem_extracted hout hentries hf]
    rfl
  · rename_i hl
    cases hfile : unpacked files O l with
    | none => rw [Option.none_or]
    | some content =>
      -- a file that is represented has been extracted
      unfold unpacked at hfile
      split at hfile
      · rename_i hfront
        obtain ⟨rel, rfl⟩ := hfront
        rw [List.drop_left] at hfile
        obtain ⟨e, he, hreg, hrel, rfl⟩ := hentries.present rel content hfile
        refine absurd (List.mem_map.mpr ⟨(placed t out e, e.content), List.mem_map.mpr ⟨e, List.mem_filter.mpr
          ⟨he, ?_⟩, rfl⟩, (located_extractedPath hout hrel).leads⟩) hl
        rw [hreg]
        decide
      · cases hfile

/-- **An extraction** lays the files over the directory. -/
theorem leads_extractTarGz (hout : Located t out O) (hentries : Represents files entries)
    (hplaces : sure → ∀ rel, files rel ≠ none → O ++ rel ∈ places) :
    Leads sure (Over sure places t F) (extractTarGz entries out) (fun _ => Over sure places t fun l =>
      (unpacked files O l).or (F l)) := by
  unfold extractTarGz
  refine .query_bind fun _ => ?_
  exact (leads_forM_nextTarEntry hout hentries.known hplaces).post fun _ _ hh =>
    hh.congr (foldl_lay hout hentries)

/-! ## Archives -/

/-- The name of the archive of a directory. -/
def archiveName (p : Path) : Path := base p ++ ".tar.gz".toList

/-- The files below a directory, the archive itself apart. -/
def archived (content? : List Path → Option String) (location : List Path) (name : Path) (rel : List Path) :
    Option String :=
  if rel = [name] then none else content? (location ++ rel)

/-- **A visit has been archived** as it should be. -/
def Recorded (files : List Path → Option String) (root : Path) (name : Path) (v : Visit) (o : Option TarEntry) : Prop :=
  ∀ rel, (∀ s ∈ rel, Segment s) → v.path = under root rel → (rel = [name] → o = none) ∧ (rel ≠ [name] →
    ∃ e, o = some e ∧ Descends e.name rel ∧ (v.node = .directory → e.typeflag = typeDir) ∧
      (v.node ≠ .directory → e.typeflag = typeReg ∧ files rel = some e.content))

/-- What a walk returns is what its visits return. -/
theorem leads_visitAll_mem {α : Type} {P : Disk → Prop} {Q : Visit → α → Prop} {visit : Visit → Fallible Disk α}
    {vs : List Visit} (hvisit : ∀ v ∈ vs, Leads sure P (visit v) (fun a h => Q v a ∧ P h)) :
    Leads sure P (visitAll visit vs) (fun as h => ((∀ a ∈ as, ∃ v ∈ vs, Q v a) ∧ ∀ v ∈ vs, ∃ a ∈ as, Q v a) ∧ P h) := by
  induction vs with
  | nil =>
    exact .pure fun h hh =>
      ⟨⟨fun a ha => absurd ha List.not_mem_nil, fun v hv => absurd hv List.not_mem_nil⟩, hh⟩
  | cons v vs ih =>
    refine .query_bind fun _ => ?_
    refine .bind (hvisit v List.mem_cons_self) fun a => ?_
    intro w hR hw
    obtain ⟨ha, hP⟩ := hw
    refine Meets.bind (ih fun v' hv' => hvisit v' (List.mem_cons_of_mem v hv')) (fun as => .pure fun h hh => ?_) w hR hP
    obtain ⟨⟨hfrom, hto⟩, hh⟩ := hh
    refine ⟨⟨fun b hb => ?_, fun v' hv' => ?_⟩, hh⟩
    · rcases List.mem_cons.mp hb with rfl | hb
      · exact ⟨v, List.mem_cons_self, ha⟩
      · obtain ⟨v', hv', hQ⟩ := hfrom b hb
        exact ⟨v', List.mem_cons_of_mem v hv', hQ⟩
    · rcases List.mem_cons.mp hv' with rfl | hv'
      · exact ⟨a, List.mem_cons_self, ha⟩
      · obtain ⟨b, hb, hQ⟩ := hto v' hv'
        exact ⟨b, List.mem_cons_of_mem a hb, hQ⟩

theorem targzPath_eq : targzPath p = join [p, archiveName p] := rfl

/-- The archive's own path is met once. -/
theorem path_eq_targzPath_iff (hp : Located t p D) (hname : Segment (archiveName p)) (hrel : ∀ s ∈ rel, Segment s) :
    under p rel = targzPath p ↔ rel = [archiveName p] := by
  constructor
  · intro heq
    have hself := (hp.join hname).leads
    rw [← targzPath_eq, ← heq, (hp.under hrel).leads] at hself
    exact List.append_cancel_left hself
  · rintro rfl
    rfl

theorem leads_archiveVisit {v : Visit} (hp : Located t p D) (hname : Segment (archiveName p))
    (hv : ∃ rel, (∀ s ∈ rel, Segment s) ∧ v.path = under p rel ∧ (v.node ≠ .directory →
      (F (D ++ rel)).or (t.content? (D ++ rel)) ≠ none)) :
    Leads sure (Over sure places t F) (archiveVisit p (targzPath p) v) (fun o h =>
      Recorded (archived (fun l => (F l).or (t.content? l)) D (archiveName p)) p (archiveName p) v o ∧
        Over sure places t F h) := by
  obtain ⟨rel, hrel, hpath, hcontent⟩ := hv
  have hunder := hp.under hrel
  -- the visit has one place only
  have hunique : ∀ rel', (∀ s ∈ rel', Segment s) → v.path = under p rel' → rel' = rel := by
    intro rel' hrel' hpath'
    have hleads := (hp.under hrel').leads
    rw [← hpath', hpath, hunder.leads] at hleads
    exact (List.append_cancel_left hleads).symm
  unfold archiveVisit
  by_cases hself : v.path = targzPath p
  · rw [if_pos hself]
    refine .pure fun h hh => ⟨fun rel' hrel' hpath' => ⟨fun _ => rfl, fun hne => ?_⟩, hh⟩
    exact absurd ((path_eq_targzPath_iff hp hname hrel').mp (hpath' ▸ hself)) hne
  rw [if_neg hself, if_neg Path.clean_ne]
  have hdescends : Descends (clean (trimPrefix p v.path)) rel := by
    rw [hpath, hp.absolute.under_eq hrel, Path.trimPrefix_append]
    exact Path.descends_clean_spell hrel
  have hne : rel ≠ [archiveName p] := by
    rintro rfl
    exact hself (hpath.trans targzPath_eq.symm)
  unfold addToArchive
  cases hnode : v.node with
  | directory =>
    refine .bind (M := fun e h => e = ⟨clean (trimPrefix p v.path), typeDir, ""⟩ ∧ Over sure places t F h)
      (.pure fun _ hh => ⟨rfl, hh⟩) fun e => .pure fun h hh => ⟨fun rel' hrel' hpath' => ?_, hh.2⟩
    rw [hunique rel' hrel' hpath']
    refine ⟨fun heq => absurd heq hne, fun _ => ⟨e, rfl, ?_, fun _ => ?_, fun hfile => absurd hnode hfile⟩⟩
    · rw [hh.1]
      exact hdescends
    · rw [hh.1]
  | file content =>
    have hread : sure → (F (D ++ rel)).or (t.content? (D ++ rel)) ≠ none := fun _ =>
      hcontent (by rw [hnode]; exact Node.noConfusion)
    rw [← hpath] at hunder
    refine .bind (M := fun e h => (e.name = clean (trimPrefix p v.path) ∧ e.typeflag = typeReg ∧
      (F (D ++ rel)).or (t.content? (D ++ rel)) = some e.content) ∧ Over sure places t F h)
      (.bind (leads_readFile hunder hread) fun content => .pure fun _ hh => ⟨⟨rfl, rfl, hh.1⟩, hh.2⟩)
      fun e => .pure fun h hh => ⟨fun rel' hrel' hpath' => ?_, hh.2⟩
    obtain ⟨⟨hename, hreg, hcontent⟩, -⟩ := hh
    rw [hunique rel' hrel' hpath']
    refine ⟨fun heq => absurd heq hne, fun _ => ⟨e, rfl, hename ▸ hdescends, fun hdir => ?_, fun _ => ⟨hreg, ?_⟩⟩⟩
    · rw [hnode] at hdir
      cases hdir
    · rw [archived, if_neg hne]
      exact hcontent

/-- The archive of a directory has a name. -/
theorem segment_archiveName (hp : Absolute p) : Segment (archiveName p) := by
  obtain ⟨q, s, hs, rfl⟩ := FileTree.exists_snoc_of_absolute hp
  have hlength : 7 < (archiveName (q ++ '/' :: s)).length := by
    have hpos : 0 < s.length := List.length_pos_of_ne_nil hs.nonempty
    rw [archiveName, Path.base_snoc hs.nonempty hs.slash, List.length_append]
    show 7 < s.length + 7
    omega
  have hslash : '/' ∉ archiveName (q ++ '/' :: s) := by
    rw [archiveName, Path.base_snoc hs.nonempty hs.slash, List.mem_append, not_or]
    exact ⟨hs.slash, by decide⟩
  refine ⟨?_, hslash, ?_, ?_⟩ <;> intro heq <;> rw [heq] at hlength <;> exact absurd hlength (by decide)

/-- A walk of which every visit is recorded makes an archive of the files. -/
theorem represents_of_recorded {content? : List Path → Option String} {location : List Path} {name : Path}
    {vs : List Visit} {os : List (Option TarEntry)} (hvs : Walked content? p location vs)
    (hfrom : ∀ o ∈ os, ∃ v ∈ vs, Recorded (archived content? location name) p name v o)
    (hto : ∀ v ∈ vs, ∃ o ∈ os, Recorded (archived content? location name) p name v o) :
    Represents (archived content? location name) (os.filterMap id) where
  known e he := by
    obtain ⟨v, hv, hrecorded⟩ := hfrom (some e) (by simpa using he)
    obtain ⟨rel, hrel, hpath, -⟩ := hvs.path v hv
    obtain ⟨hself, hother⟩ := hrecorded rel hrel hpath
    have hne : rel ≠ [name] := fun heq => Option.some_ne_none _ (hself heq)
    obtain ⟨e', heq, hdescends, hdir, hfile⟩ := hother hne
    obtain rfl := Option.some.inj heq
    by_cases hnode : v.node = .directory
    · exact .inl (hdir hnode)
    · exact .inr ⟨(hfile hnode).1, rel, hdescends, (hfile hnode).2⟩
  present rel content hcontent := by
    have hne : rel ≠ [name] := by
      rintro rfl
      rw [archived, if_pos rfl] at hcontent
      cases hcontent
    have hsome : content? (location ++ rel) ≠ none := by
      rw [archived, if_neg hne] at hcontent
      exact hcontent ▸ Option.some_ne_none _
    obtain ⟨v, hv, hrel, hpath, hnode⟩ := hvs.file rel hsome
    obtain ⟨o, ho, hrecorded⟩ := hto v hv
    obtain ⟨e, rfl, hdescends, -, hfile⟩ := (hrecorded rel hrel hpath).2 hne
    obtain ⟨hreg, heq⟩ := hfile hnode
    exact ⟨e, by simpa using ho, hreg, hdescends, Option.some.inj (heq.symm.trans hcontent)⟩

/-- **An archive of a directory** represents what is below the directory. -/
theorem leads_tarGzDir (hp : Located t p D) (hplace : sure → D ++ [archiveName p] ∈ places) :
    Leads sure (fun h => (sure → h.tree.canCreate (D ++ [archiveName p]) = true) ∧ Over sure places t F h)
      (tarGzDir p) (fun entries h =>
        Represents (archived (fun l => (F l).or (t.content? l)) D (archiveName p)) entries ∧
          Over sure places t (put (D ++ [archiveName p]) "" F) h) := by
  have hname : Segment (archiveName p) := segment_archiveName hp.absolute
  -- the archive's own file does not count
  have hsame : archived (fun l => (put (D ++ [archiveName p]) "" F l).or (t.content? l)) D (archiveName p) =
      archived (fun l => (F l).or (t.content? l)) D (archiveName p) := by
    funext rel
    unfold archived put
    split
    · rfl
    · rename_i hne
      beta_reduce
      rw [if_neg fun heq => hne (List.append_cancel_left heq)]
  have hthere : ∀ h, Over sure places t (put (D ++ [archiveName p]) "" F) h → h.tree.node (h.locate p) ≠ none := by
    intro h hh
    have hfile : h.tree.content? (D ++ [archiveName p]) = some "" := by
      rw [hh.content, put, if_pos rfl]
      rfl
    rw [hh.located hp, hh.laid.wellFormed.parent (D ++ [archiveName p])
      (FileTree.content?_eq_some.mp hfile ▸ Option.some_ne_none _) _ (List.prefix_append _ _) (by simp)]
    exact Option.some_ne_none _
  unfold tarGzDir
  refine .bind (leads_create (hp.join hname) hplace) fun _ => ?_
  generalize put (D ++ [archiveName p]) "" F = F' at hsame hthere ⊢
  rw [← hsame]
  refine .bind (M := fun os h => Represents (archived (fun l => (F' l).or (t.content? l)) D (archiveName p))
    (os.filterMap id) ∧ Over sure places t F' h) ?_ fun _ => .pure fun _ hh => hh
  refine leads_filepathWalk (fun _ h hh => hthere h hh) fun h hh => ?_
  have hvs : Walked (fun l => (F' l).or (t.content? l)) p D (visits p h) := by
    rw [← hh.located hp]
    exact walked hh.laid.wellFormed fun rel => hh.content _
  exact (leads_visitAll_mem fun v hv => leads_archiveVisit hp hname (hvs.path v hv)).post fun os h hh =>
    ⟨represents_of_recorded hvs hh.1.1 hh.1.2, hh.2⟩

/-! ## Runs -/

/-- **There is room for the files** below a location: no directory is in
their place, and no file on the way to them. -/
structure HasRoom (files : List Path → Option String) (location : List Path) (t : FileTree) : Prop where
  place : ∀ rel, files rel ≠ none → t.node (location ++ rel) ≠ some .directory
  way : ∀ rel, files rel ≠ none → ∀ d, d <+: location ++ rel → d ≠ location ++ rel → t.content? d = none

theorem node_of_content?_eq_none (h : t.content? l = none) : t.node l = none ∨ t.node l = some .directory := by
  unfold FileTree.content? at h
  cases hnode : t.node l with
  | none => exact .inl rfl
  | some node =>
    cases node with
    | directory => exact .inr rfl
    | file content =>
      rw [hnode] at h
      cases h

/-- A disk nothing is known of but that it is one. -/
theorem over_refl (ht : t.WellFormed) (hfits : sure → Fits places t) {h : Disk} (htree : h.tree = t) :
    Over sure places t (fun _ => none) h := by
  subst htree
  exact ⟨.refl ht, hfits⟩

/-- The same, where nothing is sure. -/
theorem over_none {h : Disk} (ht : h.tree.WellFormed) : Over False ∅ h.tree (fun _ => none) h :=
  over_refl ht False.elim rfl

section Runs

variable {α : Type} {P : Disk → Prop} {x : Fallible Disk α} {Q : α → Disk → Prop} {w w' : Sys Callee Disk} {a : α}

/-- What a program that returns has led to. -/
theorem Leads.of_run (hx : Leads False P x Q) (hw : P w.store) (hrun : x.run w = (.ok a, w')) : Q a w'.store := by
  have hends := hx.ends (w := w) (fun _ hfalse => hfalse.elim) hw
  rwa [hrun] at hends

/-- Where no callee fails, the program returns. -/
theorem Leads.exists_run (hx : Leads True P x Q) (hw : P w.store) (hR : ∀ k, w.Reliable k) :
    ∃ a w', x.run w = (.ok a, w') ∧ Q a w'.store := by
  have hends := hx.ends (w := w) (fun k _ => hR k) hw
  rcases hrun : x.run w with ⟨text | a, w'⟩
  · rw [hrun] at hends
    exact absurd trivial hends
  · rw [hrun] at hends
    exact ⟨a, w', rfl, hends⟩

end Runs

/-- None of the files lies below another. -/
def Scattered (files : List Path → Option String) : Prop :=
  ∀ rel rel', files rel ≠ none → files rel' ≠ none → rel <+: rel' → rel = rel'

/-- The places of some files below a location. -/
def placesOf (files : List Path → Option String) (location : List Path) : Set (List Path) :=
  {l | ∃ rel, files rel ≠ none ∧ l = location ++ rel}

theorem mem_placesOf {location : List Path} (hrel : files rel ≠ none) : location ++ rel ∈ placesOf files location :=
  ⟨rel, hrel, rfl⟩

theorem fits_of_room {location : List Path} (hroom : HasRoom files location t) (hfiles : Scattered files) :
    Fits (placesOf files location) t where
  apart l hl d hd hfront := by
    obtain ⟨rel, hrel, rfl⟩ := hl
    obtain ⟨rel', hrel', rfl⟩ := hd
    rw [hfiles rel' rel hrel' hrel ((List.prefix_append_right_inj location).mp hfront)]
  place l hl := by
    obtain ⟨rel, hrel, rfl⟩ := hl
    exact hroom.place rel hrel
  way l hl d hd hne := by
    obtain ⟨rel, hrel, rfl⟩ := hl
    exact node_of_content?_eq_none (hroom.way rel hrel d hd hne)

theorem scattered_archived (ht : t.WellFormed) {location : List Path} {name : Path} :
    Scattered (archived t.content? location name) := by
  have hcontent : ∀ rel, archived t.content? location name rel ≠ none → t.content? (location ++ rel) ≠ none := by
    intro rel hrel
    unfold archived at hrel
    split at hrel
    · exact absurd rfl hrel
    · exact hrel
  exact fun rel rel' hrel hrel' hfront => List.append_cancel_left (ht.eq_of_content? (hcontent rel hrel)
    (hcontent rel' hrel') ((List.prefix_append_right_inj location).mpr hfront))

/-- The place of one file that can be created. -/
theorem fits_singleton (hcan : t.canCreate l = true) : Fits {l} t := by
  obtain ⟨hway, hplace⟩ := FileTree.canCreate_iff.mp hcan
  refine ⟨fun l' hl d hd _ => ?_, fun l' hl => ?_, fun l' hl d hd hne => ?_⟩
  · rw [Set.mem_singleton_iff.mp hl, Set.mem_singleton_iff.mp hd]
  · rw [Set.mem_singleton_iff.mp hl]
    exact hplace
  · rw [Set.mem_singleton_iff.mp hl] at hd hne
    exact .inr (hway d hd hne)

/-- **A directory that is archived, and extracted elsewhere.** Every file of
the directory is there with what it held, and every other file stays as it
is; without faults, and where there is room, both programs return. -/
theorem extractTarGz_of_tarGzDir (hp : Absolute p) (hout : Absolute out) {w₁ w₂ : Sys Callee Disk}
    (ht₁ : w₁.store.tree.WellFormed) (ht₂ : w₂.store.tree.WellFormed) :
    (∀ entries w₁' w₂', (tarGzDir p).run w₁ = (.ok entries, w₁') → (extractTarGz entries out).run w₂ = (.ok (), w₂') →
      ∀ l, w₂'.store.tree.content? l = (unpacked (archived w₁.store.tree.content? (w₁.store.locate p) (archiveName p))
        (w₂.store.locate out) l).or (w₂.store.tree.content? l)) ∧
    ((∀ k, w₁.Reliable k) → (∀ k, w₂.Reliable k) →
      w₁.store.tree.canCreate (w₁.store.locate p ++ [archiveName p]) = true →
      HasRoom (archived w₁.store.tree.content? (w₁.store.locate p) (archiveName p)) (w₂.store.locate out)
        w₂.store.tree →
      ∃ entries w₁' w₂', (tarGzDir p).run w₁ = (.ok entries, w₁') ∧
        (extractTarGz entries out).run w₂ = (.ok (), w₂')) := by
  constructor
  · intro entries w₁' w₂' harchive hextract l
    obtain ⟨hentries, -⟩ := Leads.of_run (leads_tarGzDir ⟨hp, rfl⟩ False.elim) ⟨False.elim, over_none ht₁⟩ harchive
    have hover := Leads.of_run (leads_extractTarGz ⟨hout, rfl⟩ hentries False.elim) (over_none ht₂) hextract
    rw [hover.content, Option.or_none]
    rfl
  · intro hR₁ hR₂ hcan hroom
    have hcreate : (True → w₁.store.tree.canCreate (w₁.store.locate p ++ [archiveName p]) = true) ∧
        Over True {w₁.store.locate p ++ [archiveName p]} w₁.store.tree (fun _ => none) w₁.store :=
      ⟨fun _ => hcan, over_refl ht₁ (fun _ => fits_singleton hcan) rfl⟩
    obtain ⟨entries, w₁', harchive, hentries, -⟩ :=
      Leads.exists_run (leads_tarGzDir ⟨hp, rfl⟩ fun _ => Set.mem_singleton _) hcreate hR₁
    have hplaces : Over True (placesOf (archived w₁.store.tree.content? (w₁.store.locate p) (archiveName p))
        (w₂.store.locate out)) w₂.store.tree (fun _ => none) w₂.store :=
      over_refl ht₂ (fun _ => fits_of_room hroom (scattered_archived ht₁)) rfl
    obtain ⟨u, w₂', hextract, -⟩ := Leads.exists_run
      (leads_extractTarGz ⟨hout, rfl⟩ hentries fun _ rel hrel => mem_placesOf hrel) hplaces hR₂
    exact ⟨entries, w₁', w₂', harchive, hextract⟩

theorem reliable_faultless {h : Disk} (k : Callee) : (Sys.faultless h : Sys Callee Disk).Reliable k :=
  fun _ ho => absurd ho List.not_mem_nil

/-- A disk with nothing on it. -/
def bareDisk : Disk where
  tree := {
    node := fun d => if d = [] then some .directory else none
    workingDirectory := []
    climbs_not := fun _ he => absurd he List.not_mem_nil
    node_of_prefix := fun d hd => if_pos (List.prefix_nil.mp hd)
    locations := [[]]
    listed := fun l hl => by
      split at hl
      · rename_i hnil
        exact hnil ▸ List.mem_singleton_self []
      · exact absurd rfl hl }

theorem node_bareDisk (hl : l ≠ []) : bareDisk.tree.node l = none := if_neg hl

theorem content?_bareDisk : bareDisk.tree.content? l = none := by
  unfold FileTree.content?
  by_cases hl : l = []
  · rw [show bareDisk.tree.node l = some .directory from if_pos hl]
  · rw [node_bareDisk hl]

theorem wellFormed_bareDisk : bareDisk.tree.WellFormed where
  parent l hl d hd hne := by
    obtain rfl := not_imp_comm.mp node_bareDisk hl
    exact absurd (List.prefix_nil.mp hd) hne
  segment l hl := by
    obtain rfl := not_imp_comm.mp node_bareDisk hl
    exact fun s hs => absurd hs List.not_mem_nil

/-- A disk has room for all files below a directory that is not there. -/
theorem hasRoom_bareDisk {location : List Path} (hlocation : location ≠ []) : HasRoom files location bareDisk.tree where
  place rel _ := by
    rw [node_bareDisk (by simp [hlocation])]
    exact (Option.some_ne_none _).symm
  way _ _ _ _ _ := content?_bareDisk

/-- A disk with one file. -/
def diskOf (directory : List Path) (name : Path) (content : String) : Disk where
  tree := (bareDisk.tree.mkdirAll directory).withFile (directory ++ [name]) content

theorem wellFormed_diskOf {directory : List Path} {name : Path} {content : String}
    (hsegments : ∀ s ∈ directory ++ [name], Segment s) : (diskOf directory name content).tree.WellFormed := by
  have hfits : Fits {directory ++ [name]} bareDisk.tree := by
    refine ⟨fun l hl d hd _ => ?_, fun l hl => ?_, fun l _ d _ _ => node_of_content?_eq_none content?_bareDisk⟩
    · rw [Set.mem_singleton_iff.mp hl, Set.mem_singleton_iff.mp hd]
    · rw [Set.mem_singleton_iff.mp hl, node_bareDisk (by simp)]
      exact (Option.some_ne_none _).symm
  have hcan : bareDisk.tree.canMkdirAll directory = true :=
    hfits.canMkdirAll (Set.mem_singleton _) (List.prefix_append _ _) (by simp)
  exact (wellFormed_bareDisk.mkdirAll hcan fun s hs => hsegments s (List.mem_append_left _ hs)).withFile
    (hfits.canCreate_mkdirAll (Set.mem_singleton _)) hsegments

/-- The files of a stack, and where they are extracted. -/
theorem extractTarGz_of_tarGzDir_composeFile : ∃ entries w₁' w₂',
    (tarGzDir "/data/compose/1".toList).run
      (.faultless (diskOf ["data".toList, "compose".toList, "1".toList] "docker-compose.yml".toList "version: 2")) =
        (.ok entries, w₁') ∧
    (extractTarGz entries "/srv".toList).run (.faultless bareDisk) = (.ok (), w₂') ∧
    w₂'.store.tree.content? ["srv".toList, "docker-compose.yml".toList] = some "version: 2" := by
  have hp : Absolute "/data/compose/1".toList := ⟨by decide, by decide, by decide⟩
  have hout : Absolute "/srv".toList := ⟨by decide, by decide, by decide⟩
  have hstocked : (Sys.faultless (diskOf ["data".toList, "compose".toList, "1".toList] "docker-compose.yml".toList
      "version: 2") : Sys Callee Disk).store.tree.WellFormed := wellFormed_diskOf (by decide)
  have hbare : (Sys.faultless bareDisk : Sys Callee Disk).store.tree.WellFormed := wellFormed_bareDisk
  obtain ⟨hcontent, hreturns⟩ := extractTarGz_of_tarGzDir hp hout hstocked hbare
  obtain ⟨entries, w₁', w₂', harchive, hextract⟩ := hreturns reliable_faultless reliable_faultless (by decide)
    (hasRoom_bareDisk (by decide))
  refine ⟨entries, w₁', w₂', harchive, hextract, ?_⟩
  rw [hcontent entries w₁' w₂' harchive hextract]
  decide

end Archive.Packing

end Portainer
