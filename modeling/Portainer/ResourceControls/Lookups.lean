import Portainer.Model.Authorization
/-!
# The two lookups of a resource control

The handlers ask the database for the control of a resource, the proxies
search the list of all controls. Both look at the controls in the order of
their identifiers and take one that is about the resource, or has it among
its sub-resources. The list is searched for the first of either kind. The
scan of the database stops at the first of the former kind only; as long as
there is none, each of the latter kind takes the place of the one before.

`lookupsAgree_iff` says in which stores the answers are the same;
`not_lookupsAgree` is a store with two controls where they are not.
-/

namespace Portainer

namespace DataStore

open resourceControlByResourceIDAndType (scan)

variable {db : DataStore} {resourceID : String} {resourceType : ResourceControlType}
  {found : Option ResourceControl} {rc : ResourceControl} {rcs : List ResourceControl}

/-- The control is about the resource itself. -/
def IsAbout (resourceID : String) (resourceType : ResourceControlType) (rc : ResourceControl) : Prop :=
  rc.resourceID = resourceID ∧ rc.type = resourceType

instance : Decidable (IsAbout resourceID resourceType rc) := inferInstanceAs (Decidable (_ ∧ _))

/-- The control matches: it is about the resource, or about one that the
resource is part of. -/
def Covers (resourceID : String) (resourceType : ResourceControlType) (rc : ResourceControl) : Prop :=
  IsAbout resourceID resourceType rc ∨ resourceID ∈ rc.subResourceIDs

instance : Decidable (Covers resourceID resourceType rc) := inferInstanceAs (Decidable (_ ∨ _))

/-- The controls that match, in the order of the keys. -/
def covering (db : DataStore) (resourceID : String) (resourceType : ResourceControlType) :
    List ResourceControl :=
  db.resourceControl.all.filter fun rc => Covers resourceID resourceType rc

/-- **The database and its list give one answer.** -/
def LookupsAgree (db : DataStore) (resourceID : String) (resourceType : ResourceControlType) : Prop :=
  db.resourceControlByResourceIDAndType resourceID resourceType =
    getResourceControlByResourceIDAndType resourceID resourceType db.resourceControl.all

/-! ## The search -/

/-- The list is searched for the first that matches. -/
theorem getResourceControl_eq_head? : getResourceControlByResourceIDAndType resourceID resourceType
    db.resourceControl.all = (db.covering resourceID resourceType).head? := by
  rw [covering, List.head?_filter]
  unfold getResourceControlByResourceIDAndType
  congr 1
  funext rc
  simp only [Covers, IsAbout, eq_comm]

/-! ## The scan -/

theorem scan_cons : scan resourceID resourceType found (rc :: rcs) =
    if IsAbout resourceID resourceType rc then some rc
    else if resourceID ∈ rc.subResourceIDs then scan resourceID resourceType (some rc) rcs
    else scan resourceID resourceType found rcs := rfl

theorem scan_cons_of_isAbout (h : IsAbout resourceID resourceType rc) :
    scan resourceID resourceType found (rc :: rcs) = some rc := by
  rw [scan_cons, if_pos h]

theorem scan_cons_of_mem (h : ¬ IsAbout resourceID resourceType rc) (hsub : resourceID ∈ rc.subResourceIDs) :
    scan resourceID resourceType found (rc :: rcs) = scan resourceID resourceType (some rc) rcs := by
  rw [scan_cons, if_neg h, if_pos hsub]

theorem scan_cons_of_not_covers (h : ¬ Covers resourceID resourceType rc) :
    scan resourceID resourceType found (rc :: rcs) = scan resourceID resourceType found rcs := by
  obtain ⟨habout, hsub⟩ := not_or.mp h
  rw [scan_cons, if_neg habout, if_neg hsub]

/-- What does not match plays no part in the scan. -/
theorem scan_filter : scan resourceID resourceType found
    (rcs.filter fun rc => Covers resourceID resourceType rc) = scan resourceID resourceType found rcs := by
  induction rcs generalizing found with
  | nil => rfl
  | cons rc rcs ih =>
    by_cases hcovers : Covers resourceID resourceType rc
    · rw [List.filter_cons_of_pos (by simpa using hcovers)]
      by_cases habout : IsAbout resourceID resourceType rc
      · rw [scan_cons_of_isAbout habout, scan_cons_of_isAbout habout]
      · have hsub : resourceID ∈ rc.subResourceIDs := hcovers.resolve_left habout
        rw [scan_cons_of_mem habout hsub, scan_cons_of_mem habout hsub, ih]
    · rw [List.filter_cons_of_neg (by simpa using hcovers), scan_cons_of_not_covers hcovers, ih]

/-- A control that is about the resource is found before all others. -/
theorem isAbout_of_scan {control : ResourceControl} (hmem : control ∈ rcs)
    (habout : IsAbout resourceID resourceType control) :
    ∃ rc, scan resourceID resourceType found rcs = some rc ∧ IsAbout resourceID resourceType rc := by
  induction rcs generalizing found with
  | nil => exact absurd hmem List.not_mem_nil
  | cons first rcs ih =>
    by_cases hfirst : IsAbout resourceID resourceType first
    · exact ⟨first, scan_cons_of_isAbout hfirst, hfirst⟩
    · have hrest : control ∈ rcs := (List.mem_cons.mp hmem).resolve_left fun heq => hfirst (heq ▸ habout)
      rw [scan_cons, if_neg hfirst]
      split
      · exact ih hrest
      · exact ih hrest

/-- A stored control that is about the resource is found, or another that is. -/
theorem exists_of_isAbout {i : ResourceControlID} {control : ResourceControl}
    (hget : db.resourceControl.get? i = some control) (habout : IsAbout resourceID resourceType control) :
    ∃ rc, db.resourceControlByResourceIDAndType resourceID resourceType = some rc ∧
      IsAbout resourceID resourceType rc :=
  isAbout_of_scan (Bucket.mem_all_of_get? hget) habout

/-- Among controls that match, one replaces whatever was found before. -/
theorem mem_of_scan_cons {first : ResourceControl}
    (hall : ∀ rc ∈ first :: rcs, Covers resourceID resourceType rc)
    (h : scan resourceID resourceType found (first :: rcs) = some rc) : rc ∈ first :: rcs := by
  by_cases habout : IsAbout resourceID resourceType first
  · rw [scan_cons_of_isAbout habout] at h
    exact Option.some.inj h ▸ List.mem_cons_self
  · have hsub : resourceID ∈ first.subResourceIDs := (hall first List.mem_cons_self).resolve_left habout
    rw [scan_cons_of_mem habout hsub] at h
    rcases mem_of_scan h with hfirst | hrest
    · exact Option.some.inj hfirst ▸ List.mem_cons_self
    · exact List.mem_cons_of_mem _ hrest

/-! ## Agreement -/

theorem resourceControl_eq_scan : db.resourceControlByResourceIDAndType resourceID resourceType =
    scan resourceID resourceType none (db.covering resourceID resourceType) :=
  scan_filter.symm

theorem nodup_covering : (db.covering resourceID resourceType).Nodup :=
  (db.resourceControl.nodup_keys_all.of_map _).filter _

/-- **The lookups agree exactly** where the first control that matches is
about the resource itself, or is the only one. -/
theorem lookupsAgree_iff : db.LookupsAgree resourceID resourceType ↔
    ∀ rc rcs, db.covering resourceID resourceType = rc :: rcs →
      IsAbout resourceID resourceType rc ∨ rcs = [] := by
  unfold LookupsAgree
  rw [getResourceControl_eq_head?, resourceControl_eq_scan]
  have hnodup : (db.covering resourceID resourceType).Nodup := nodup_covering
  have hall : ∀ rc ∈ db.covering resourceID resourceType, Covers resourceID resourceType rc :=
    fun rc hrc => of_decide_eq_true (List.mem_filter.mp hrc).2
  rcases hcovering : db.covering resourceID resourceType with _ | ⟨rc, rcs⟩
  · simp [scan]
  · rw [hcovering] at hnodup hall
    constructor
    · rintro heq rc' rcs' hcons
      obtain ⟨rfl, rfl⟩ := List.cons.inj hcons
      by_contra hnot
      obtain ⟨habout, hmore⟩ := not_or.mp hnot
      have hsub : resourceID ∈ rc.subResourceIDs := (hall rc List.mem_cons_self).resolve_left habout
      rw [scan_cons_of_mem habout hsub, List.head?_cons] at heq
      -- a later control that matches takes the place of the first
      rcases rcs with _ | ⟨next, rcs⟩
      · exact hmore rfl
      · have hmem : rc ∈ next :: rcs :=
          mem_of_scan_cons (fun rc hrc => hall rc (List.mem_cons_of_mem _ hrc)) heq
        exact (List.nodup_cons.mp hnodup).1 hmem
    · intro hfirst
      by_cases habout : IsAbout resourceID resourceType rc
      · rw [scan_cons_of_isAbout habout, List.head?_cons]
      · have hsub : resourceID ∈ rc.subResourceIDs := (hall rc List.mem_cons_self).resolve_left habout
        obtain rfl : rcs = [] := (hfirst rc rcs rfl).resolve_left habout
        rw [scan_cons_of_mem habout hsub]
        rfl

/-- The service `web` is part of the stack of control 1, and has control 2
of its own. -/
def twiceControlled : DataStore where
  resourceControl :=
    (({} : Bucket ResourceControl).put
      { id := 1, resourceID := "1_site", subResourceIDs := ["web"], type := .stack }).put
      { id := 2, resourceID := "web", type := .service }

/-- **The database answers with control 2, the list with control 1.** -/
theorem not_lookupsAgree : ¬ twiceControlled.LookupsAgree "web" .service := by
  unfold LookupsAgree
  decide

end DataStore

end Portainer
