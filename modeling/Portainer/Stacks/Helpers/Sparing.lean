import Portainer.Stacks.Helpers.Differences
/-!
# Sparing — errors that leave a stack as it was

What is said of a request here holds on every disk: the database, the
request and the outcomes of its calls are given, and the disk is not. A
request that has opened a file of the stack has lost what was in it
(`succeeds_of_atomic`): on two disks with different content in that file it
ends on one and the same disk, which cannot be as both were.
-/

namespace Portainer

open Action (Leaves Relates)
open Path (locate Below Location)

namespace Stacks

variable {services : Services} {stackID : StackID} {α β : Type}
variable {x : Handler Host α} {f : α → Handler Host β} {w : Sys Callee Host}

/-- The request is answered without an error. -/
def Succeeds (x : Handler Host α) (w : Sys Callee Host) : Prop := ∃ a w', x.run w = (.ok a, w')

/-- The request is answered with an error. -/
def Fails (x : Handler Host α) (w : Sys Callee Host) : Prop := ∃ e w', x.run w = (.error e, w')

/-- **An error spares the stack**: its record and the content of its project
directory are as they were before. -/
def Spares (services : Services) (stackID : StackID) (x : Handler Host α) (w : Sys Callee Host) : Prop :=
  ∀ e w', x.run w = (.error e, w') →
    w'.store.server.dataStore.stack.get? stackID = w.store.server.dataStore.stack.get? stackID ∧
      SameBelow (projectDirectory services stackID) w.store.fileSystem w'.store.fileSystem

/-- The same requests and outcomes, on another disk. -/
def withDisk (w : Sys Callee Host) (fs : FileSystem) : Sys Callee Host :=
  { w with store := { w.store with fileSystem := fs } }

/-- **An error spares the stack, whatever is on the disk.** -/
def Atomic (services : Services) (stackID : StackID) (x : Handler Host α) (w : Sys Callee Host) : Prop :=
  ∀ fs, Spares services stackID x (withDisk w fs)

theorem agreeOff_withDisk {fs : FileSystem} :
    AgreeOff (fun _ => True) (fun _ => True) w.store (withDisk w fs).store :=
  ⟨rfl, rfl, fun _ hk => absurd trivial hk, fun _ hk => absurd trivial hk⟩

theorem succeeds_or_fails : Succeeds x w ∨ Fails x w := by
  rcases hrun : x.run w with ⟨e | a, w'⟩
  · exact .inr ⟨e, w', hrun⟩
  · exact .inl ⟨a, w', hrun⟩

theorem Succeeds.not_fails (h : Succeeds x w) : ¬ Fails x w := by
  obtain ⟨a, w', hrun⟩ := h
  rintro ⟨e, w'', hrun'⟩
  rw [hrun] at hrun'
  cases hrun'

theorem succeeds_of_not_fails (h : ¬ Fails x w) : Succeeds x w := succeeds_or_fails.resolve_right h

/-- A request that succeeds makes no error. -/
theorem Succeeds.spares (h : Succeeds x w) : Spares services stackID x w :=
  fun e w' hrun => absurd ⟨e, w', hrun⟩ h.not_fails

theorem Fails.bind (h : Fails x w) : Fails (x >>= f) w := by
  obtain ⟨e, w', hrun⟩ := h
  exact ⟨e, w', Action.bind_run_of_error hrun⟩

/-- A program that fails before another one starts spares the stack if it
does so by itself. -/
theorem Fails.spares_bind (h : Fails x w) (hx : Spares services stackID x w) :
    Spares services stackID (x >>= f) w := by
  obtain ⟨e, w', hrun⟩ := h
  intro e' w'' hrun'
  rw [Action.bind_run_of_error hrun] at hrun'
  obtain ⟨rfl, rfl⟩ : e = e' ∧ w' = w'' := by simpa using hrun'
  exact hx e w' hrun

/-! ## Reads of the server first -/

/-- **The program only looks at the server.** -/
structure Glances (x : Handler Host α) : Prop where
  respects : x.Respects (AgreeOff (fun _ => True) fun _ => True)
  still : ∀ w, (x.run w).2.store = w.store

/-- It ends the same way on every disk. -/
theorem Glances.run (hx : Glances x) (w : Sys Callee Host) :
    ∃ r faults', ∀ fs, x.run (withDisk w fs) = (r, ⟨(withDisk w fs).store, faults'⟩) := by
  refine ⟨(x.run w).1, (x.run w).2.faults, fun fs => ?_⟩
  obtain ⟨r, t, t', faults', hrun, hrun', -⟩ :=
    hx.respects w.store (withDisk w fs).store w.faults agreeOff_withDisk
  have hstill := hx.still (withDisk w fs)
  have hw : x.run w = (r, ⟨t, faults'⟩) := hrun
  have hfs : x.run (withDisk w fs) = (r, ⟨t', faults'⟩) := hrun'
  rw [hfs] at hstill
  obtain rfl : t' = (withDisk w fs).store := hstill
  rw [hfs, hw]

theorem Glances.of_leaves {P : Host → α → Prop}
    (hx : x.Respects (AgreeOff (fun _ => True) fun _ => True))
    (h : ∀ h, Leaves (fun _ => False) x h (fun a h' => h' = h ∧ P h a) (· = h)) : Glances x := by
  refine ⟨hx, fun w => ?_⟩
  have hend : Leaves (fun _ => False) x w.store (fun _ h' => h' = w.store) (· = w.store) :=
    (h w.store).conseq (fun _ _ hh' => hh'.1) fun _ hh' => hh'
  exact hend.store rfl fun _ hk => hk.elim

theorem glances_findStack : Glances (findStack stackID) :=
  .of_leaves respects_findStack fun _ => leaves_findStack rfl

section Glances

variable {e : HandlerError} {a : α} {faults' : Callee → List (Option String)}

theorem atomic_of_error
    (hrun : ∀ fs, x.run (withDisk w fs) = (.error e, ⟨(withDisk w fs).store, faults'⟩)) :
    Atomic services stackID (x >>= f) w := by
  intro fs e' w' hrun'
  rw [Action.bind_run_of_error (hrun fs)] at hrun'
  obtain ⟨-, rfl⟩ := Prod.mk.inj hrun'
  exact ⟨rfl, .refl⟩

theorem atomic_bind_iff
    (hrun : ∀ fs, x.run (withDisk w fs) = (.ok a, ⟨(withDisk w fs).store, faults'⟩)) :
    Atomic services stackID (x >>= f) w ↔ Atomic services stackID (f a) ⟨w.store, faults'⟩ := by
  refine forall_congr' fun fs => ?_
  unfold Spares
  rw [Action.bind_run_of_ok (hrun fs)]
  rfl

theorem succeeds_bind_iff {w' : Sys Callee Host} (hrun : x.run w = (.ok a, w')) :
    Succeeds (x >>= f) w ↔ Succeeds (f a) w' := by
  unfold Succeeds
  rw [Action.bind_run_of_ok hrun]

theorem fails_bind_iff {w' : Sys Callee Host} (hrun : x.run w = (.ok a, w')) :
    Fails (x >>= f) w ↔ Fails (f a) w' := by
  unfold Fails
  rw [Action.bind_run_of_ok hrun]

end Glances

/-! ## What spares a stack -/

/-- An act that leaves what is below the directory as it is. -/
def Act.Harmless (d : Location) : Act → Prop
  | .openFile _ path => ¬ Below d (locate path)
  | .writeFile _ path _ => ¬ Below d (locate path)
  | .mkdirAll path => locate path = d
  | .removeAll _ => False
  | .rename _ _ => False
  | .readFile _ _ => True
  | .deploy _ _ _ _ => True
  | .takeDown _ _ => True

/-- **Nothing is lost yet**: the server, and what is below the directory. -/
def Intact (d : Location) (h h' : Host) : Prop :=
  h'.server = h.server ∧ SameBelow d h.fileSystem h'.fileSystem

theorem Intact.refl {d : Location} {h : Host} : Intact d h h := ⟨rfl, .refl⟩

theorem tolerates_intact {d : Location} {h : Host} :
    Tolerates (Intact d h) (Act.Harmless d) := by
  rintro h' a ha ⟨hserver, hsame⟩
  refine ⟨hserver, hsame.trans ?_⟩
  cases a with
  | openFile => exact sameBelow_write ha
  | writeFile => exact sameBelow_write ha
  | mkdirAll path =>
    have hplace : locate path = d := ha
    exact hplace ▸ sameBelow_mkdirAll
  | removeAll => exact ha.elim
  | rename => exact ha.elim
  | readFile => exact .refl
  | deploy => exact .refl
  | takeDown => exact .refl

/-- What an error leaves, by a specification of the program. -/
theorem spares_of_leaves {Q : α → Host → Prop}
    (h : Leaves (fun _ => False) x w.store Q (Intact (projectDirectory services stackID) w.store)) :
    Spares services stackID x w := by
  intro e w' hrun
  obtain ⟨hend, -⟩ := h w (fun _ hk => hk.elim) rfl
  rw [hrun] at hend
  obtain ⟨hserver, hsame⟩ := hend
  exact ⟨by rw [hserver], hsame⟩

/-! ## Two disks -/

/-- Whether a program fails does not depend on what it does not see. -/
theorem fails_iff_of_relates {R Q E : Host → Host → Prop} (hx : Relates R x Q E) {h h' : Host}
    {faults : Callee → List (Option String)} (hR : R h h') :
    Fails x ⟨h, faults⟩ ↔ Fails x ⟨h', faults⟩ := by
  obtain ⟨r, t, t', faults', hrun, hrun', -⟩ := hx h h' faults hR
  constructor
  · rintro ⟨e, w', he⟩
    rw [hrun] at he
    obtain ⟨rfl, -⟩ := Prod.mk.inj he
    exact ⟨e, _, hrun'⟩
  · rintro ⟨e, w', he⟩
    rw [hrun'] at he
    obtain ⟨rfl, -⟩ := Prod.mk.inj he
    exact ⟨e, _, hrun⟩

theorem agreeOff_write {fs : FileSystem} {t : Location} {content : String} :
    AgreeOff (· = t) (fun _ => False) (withDisk w fs).store (withDisk w (fs.write t content)).store := by
  refine ⟨rfl, rfl, fun k hk => ?_, fun _ _ => rfl⟩
  have hne : k ≠ t := hk
  simp [withDisk, FileSystem.write, hne]

/-- **A file of the stack that was opened is lost.** Where a part of a
request opens it on the way to its end, an error afterwards leaves one and
the same disk, whatever was in the file. -/
theorem succeeds_of_atomic {t : Location} (ht : Below (projectDirectory services stackID) t)
    (hx : x.Relates (AgreeOff (· = t) fun _ => False) Eq fun _ _ => True)
    (hok : ∀ fs, ¬ Fails x (withDisk w fs)) (ha : Atomic services stackID (x >>= f) w) (fs : FileSystem) :
    Succeeds (x >>= f) (withDisk w fs) := by
  refine succeeds_of_not_fails ?_
  rintro ⟨e, w', hrun⟩
  -- the end of the run holds every content that the file may have had
  have hend : ∀ content, w'.store.fileSystem.files t = some content := by
    intro content
    obtain ⟨r, s, s', faults', hrun₁, hrun₂, hs⟩ := hx (withDisk w fs).store
      (withDisk w (fs.write t content)).store w.faults agreeOff_write
    cases r with
    | error e => exact absurd ⟨e, _, hrun₁⟩ (hok fs)
    | ok a =>
      obtain rfl : s = s' := hs
      have hsame : (x >>= f).run (withDisk w (fs.write t content)) = (.error e, w') :=
        (Action.bind_run_of_ok hrun₂).trans ((Action.bind_run_of_ok hrun₁).symm.trans hrun)
      obtain ⟨-, hbelow⟩ := ha (fs.write t content) e w' hsame
      rw [(hbelow t ht).1]
      simp [withDisk, FileSystem.write]
  have hempty := hend ""
  rw [hend "-"] at hempty
  exact absurd (Option.some.inj hempty) (by decide)

end Stacks

end Portainer
