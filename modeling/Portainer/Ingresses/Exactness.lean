import Mathlib.Data.List.Nodup
import Portainer.Common.Traverse
import Portainer.Ingresses.Model
/-!
# Ingresses — what an edit does to the paths

An entry marked for deletion is looked up by port, service and route, so
the host is not looked at, and where nothing is found the whole ingress
is emptied. The removals are brought into closed form: of the distinct
paths with a port and a route, the first go, as many as entries are
marked with these (`foldl_removeKey`); where more are marked, all paths
of the ingress go (`foldl_removeKey_of_lt`). `exact_iff` says when that is
what the edit asks for, and `not_exact` is an application that takes the
path of another with it.
-/

namespace Portainer

namespace Ingresses

variable {s : String} {paths : List Rule} {ports loaded : List PublishedPortFormValue}
variable {original : List Ingress} {i : Ingress} {r : Rule} {p : PublishedPortFormValue}

/-! ## The property -/

/-- The entries of an ingress that are marked for deletion. -/
def marks (ports : List PublishedPortFormValue) (ingressName : String) : List PublishedPortFormValue :=
  ports.filter fun p => p.needsDeletion ∧ p.ingressName = some ingressName

/-- The new entries of an ingress. -/
def additions (ports : List PublishedPortFormValue) (ingressName : String) : List PublishedPortFormValue :=
  ports.filter fun p => p.isNew ∧ p.ingressName = some ingressName

/-- **A path is marked for deletion** when an entry of the same ingress, host
and route is. -/
def Marked (ports : List PublishedPortFormValue) (ingressName : String) (r : Rule) : Prop :=
  ∃ p ∈ marks ports ingressName, p.ingressHost = r.host ∧ p.ingressRoute = r.path

instance {ingressName : String} : Decidable (Marked ports ingressName r) := List.decidableBEx _ _

/-- **An ingress is edited exactly**: only its paths change, those of other
services are kept, and those of the service are the ones before without the
marked ones, and one for each new entry. -/
structure ExactPaths (s : String) (ports : List PublishedPortFormValue) (i i' : Ingress) : Prop where
  rest : i' = { i with paths := i'.paths }
  others : i'.paths.filter (·.serviceName ≠ some s) = i.paths.filter (·.serviceName ≠ some s)
  own : i'.paths.filter (·.serviceName = some s) =
    i.paths.filter (fun r => r.serviceName = some s ∧ ¬ Marked ports i.name r) ++
      (additions ports i.name).map (newRule i.name s)

/-- **The edit is exact**: each ingress is edited exactly, and each new entry
has an ingress. -/
structure Exact (s : String) (ports : List PublishedPortFormValue) (original result : List Ingress) :
    Prop where
  paths : List.Forall₂ (ExactPaths s ports) original result
  placed : ∀ p ∈ ports, p.isNew → ∃ i ∈ result, p.ingressName = some i.name

/-! ## The condition -/

/-- A port and a route. -/
abbrev Key := Option Port × Option String

/-- What an entry is looked up by, with the service. -/
def PublishedPortFormValue.key (p : PublishedPortFormValue) : Key := (p.containerPort, p.ingressRoute)

/-- What a path is found by, with the service. -/
def Rule.key (r : Rule) : Key := (r.port, r.path)

/-- The distinct paths of a service with a port and a route. -/
def distinct (s : String) (key : Key) (paths : List Rule) : List Rule :=
  (paths.filter fun r => r.serviceName = some s ∧ r.key = key).eraseDups

/-- **More entries are marked than there are paths**: with some port and
route, more than the service has distinct paths with these. -/
def Exceeded (s : String) (ports : List PublishedPortFormValue) (i : Ingress) : Prop :=
  ∃ p ∈ marks ports i.name,
    (distinct s p.key i.paths).length < ((marks ports i.name).map (·.key)).count p.key

instance : Decidable (Exceeded s ports i) := List.decidableBEx _ _

/-- **The marks fit the paths.** No more entries are marked than there are
paths, and the first distinct paths with a port and route, as many as entries
are marked with these, are those that are marked. Or more are marked, and all
paths of the ingress are of the service, and marked. -/
def Fits (s : String) (ports : List PublishedPortFormValue) (i : Ingress) : Prop :=
  if Exceeded s ports i then ∀ r ∈ i.paths, r.serviceName = some s ∧ Marked ports i.name r
  else ∀ r ∈ i.paths, r.serviceName = some s →
    (r ∈ (distinct s r.key i.paths).take (((marks ports i.name).map (·.key)).count r.key) ↔
      Marked ports i.name r)

instance : Decidable (Fits s ports i) := by
  unfold Fits
  infer_instance

/-! ## Removals -/

/-- The removal of an entry, by what it is looked up by. -/
def removeKey (s : String) (paths : List Rule) (key : Key) : List Rule :=
  remove (paths.find? fun r => r.serviceName = some s ∧ r.key = key) paths

theorem isPathOf_eq : isPathOf s p r = decide (r.serviceName = some s ∧ r.key = p.key) := by
  unfold isPathOf Rule.key PublishedPortFormValue.key
  refine decide_eq_decide.mpr ⟨?_, ?_⟩
  · rintro ⟨hport, hservice, hpath⟩
    exact ⟨hservice, Prod.ext hport hpath⟩
  · rintro ⟨hservice, hkey⟩
    exact ⟨(Prod.mk.inj hkey).1, hservice, (Prod.mk.inj hkey).2⟩

/-- The lookup finds the first of the distinct paths, or there is none. -/
theorem removeKey_cases (s : String) (paths : List Rule) (key : Key) :
    (distinct s key paths = [] ∧ removeKey s paths key = []) ∨
    ∃ path rest, path.serviceName = some s ∧ path.key = key ∧ distinct s key paths = path :: rest ∧
      removeKey s paths key = paths.filter (· ≠ path) := by
  have hhead := List.head?_filter (l := paths) (p := fun r => r.serviceName = some s ∧ r.key = key)
  rcases hfound : paths.filter fun r => r.serviceName = some s ∧ r.key = key with _ | ⟨path, rest⟩
  · rw [hfound] at hhead
    exact .inl ⟨by rw [distinct, hfound, List.eraseDups_nil], by rw [removeKey, ← hhead]; rfl⟩
  · rw [hfound] at hhead
    have hmem : path ∈ paths.filter fun r => r.serviceName = some s ∧ r.key = key := by
      rw [hfound]
      exact List.mem_cons_self
    obtain ⟨hservice, hkey⟩ := of_decide_eq_true (List.mem_filter.mp hmem).2
    exact .inr ⟨path, _, hservice, hkey, by rw [distinct, hfound, List.eraseDups_cons],
      by rw [removeKey, ← hhead]; rfl⟩

/-- Once the first of the distinct paths is gone, the others are left. -/
theorem distinct_filter_first {path : Rule} {rest : List Rule} {key : Key}
    (h : distinct s key paths = path :: rest) : distinct s key (paths.filter (· ≠ path)) = rest := by
  unfold distinct at h ⊢
  rw [List.filter_comm]
  rcases hfound : paths.filter fun r => r.serviceName = some s ∧ r.key = key with _ | ⟨path', rest'⟩
  · rw [hfound] at h
    cases h
  · rw [hfound, List.eraseDups_cons] at h
    obtain ⟨rfl, rfl⟩ := List.cons.inj h
    have hfirst : (path' :: rest').filter (· ≠ path') = rest'.filter (· ≠ path') := by simp
    rw [hfound, hfirst]
    congr 1
    refine List.filter_congr fun r _ => ?_
    by_cases hr : r = path'
    · simp [hr]
    · simp [hr]

/-- Paths with another port or route are left as they are. -/
theorem distinct_filter_other {path : Rule} {key : Key} (h : path.key ≠ key) :
    distinct s key (paths.filter (· ≠ path)) = distinct s key paths := by
  unfold distinct
  rw [List.filter_filter]
  congr 1
  refine List.filter_congr fun r _ => ?_
  by_cases hr : r = path
  · subst hr
    simp [h]
  · simp [hr]

/-- **Removals that all find a path**: of the distinct paths with a port and a
route, the first go, as many as there are removals. -/
theorem foldl_removeKey {keys : List Key}
    (h : ∀ key ∈ keys, keys.count key ≤ (distinct s key paths).length) :
    keys.foldl (removeKey s) paths = paths.filter fun r => ¬ (r.serviceName = some s ∧
      r ∈ (distinct s r.key paths).take (keys.count r.key)) := by
  induction keys generalizing paths with
  | nil =>
    refine (List.filter_eq_self.mpr fun r _ => decide_eq_true ?_).symm
    rintro ⟨-, hr⟩
    rw [List.count_nil, List.take_zero] at hr
    exact (List.not_mem_nil hr).elim
  | cons key keys ih =>
    rw [List.foldl_cons]
    rcases removeKey_cases s paths key with ⟨hnone, -⟩ | ⟨path, rest, hservice, hkey, hfirst, hremove⟩
    · have hcount := h key List.mem_cons_self
      rw [hnone, List.count_cons_self, List.length_nil] at hcount
      omega
    -- what the remaining removals find does not have the path that went
    have hrest : ∀ key' ∈ keys, keys.count key' ≤ (distinct s key' (paths.filter (· ≠ path))).length := by
      intro key' hkey'
      have hcount := h key' (List.mem_cons_of_mem _ hkey')
      by_cases heq : key' = key
      · subst heq
        rw [List.count_cons_self, hfirst, List.length_cons] at hcount
        rw [distinct_filter_first hfirst]
        omega
      · rw [distinct_filter_other (by rw [hkey]; exact Ne.symm heq)]
        rwa [List.count_cons_of_ne (Ne.symm heq)] at hcount
    rw [hremove, ih hrest, List.filter_filter]
    refine List.filter_congr fun r _ => ?_
    rw [← Bool.decide_and, decide_eq_decide]
    by_cases heq : r.key = key
    · rw [heq, List.count_cons_self, hfirst, distinct_filter_first hfirst, List.take_succ_cons, List.mem_cons]
      constructor
      · rintro ⟨hnot, hne⟩ ⟨hown, hr | hr⟩
        · exact hne hr
        · exact hnot ⟨hown, hr⟩
      · intro hnot
        refine ⟨fun hr => hnot ⟨hr.1, .inr hr.2⟩, ?_⟩
        rintro rfl
        exact hnot ⟨hservice, .inl rfl⟩
    · rw [List.count_cons_of_ne (Ne.symm heq), distinct_filter_other (by rw [hkey]; exact Ne.symm heq)]
      constructor
      · exact And.left
      · intro hnot
        refine ⟨hnot, ?_⟩
        rintro rfl
        exact heq hkey

/-- An ingress without paths stays so. -/
theorem foldl_removeKey_nil (keys : List Key) : keys.foldl (removeKey s) [] = [] := by
  induction keys with
  | nil => rfl
  | cons key keys ih => exact ih

/-- **A removal that finds no path empties the ingress.** -/
theorem foldl_removeKey_of_lt {keys : List Key} {key : Key}
    (h : (distinct s key paths).length < keys.count key) : keys.foldl (removeKey s) paths = [] := by
  induction keys generalizing paths with
  | nil => exact (Nat.not_lt_zero _ h).elim
  | cons key' keys ih =>
    rw [List.foldl_cons]
    rcases removeKey_cases s paths key' with ⟨-, hremove⟩ | ⟨path, rest, -, hkey, hfirst, hremove⟩
    · rw [hremove]
      exact foldl_removeKey_nil keys
    · rw [hremove]
      refine ih ?_
      by_cases heq : key = key'
      · subst heq
        rw [hfirst, List.count_cons_self, List.length_cons] at h
        rw [distinct_filter_first hfirst]
        omega
      · rw [distinct_filter_other (by rw [hkey]; exact Ne.symm heq)]
        rwa [List.count_cons_of_ne (Ne.symm heq)] at h

/-! ## The entries of one ingress -/

@[simp] theorem applyPort_name : (applyPort s p i).name = i.name := by
  unfold applyPort
  split
  · rfl
  · split <;> rfl

theorem foldl_applyPort_name : (ports.foldl (fun i p => applyPort s p i) i).name = i.name := by
  induction ports generalizing i with
  | nil => rfl
  | cons p ports ih => rw [List.foldl_cons, ih, applyPort_name]

/-- Where the names differ, an update is of one ingress. -/
theorem updateNamed_eq_map {f : Ingress → Ingress} {name : Option String} {l : List Ingress}
    (h : (l.map Ingress.name).Nodup) :
    updateNamed f name l = l.map fun i => if name = some i.name then f i else i := by
  induction l with
  | nil => rfl
  | cons i l ih =>
    rw [List.map_cons, List.nodup_cons] at h
    rw [updateNamed, List.map_cons]
    by_cases heq : name = some i.name
    · rw [if_pos heq, if_pos heq]
      -- no other ingress has the name
      have hrest : l = l.map fun i => if name = some i.name then f i else i := by
        refine (List.map_id l).symm.trans (List.map_congr_left fun i' hi' => ?_)
        rw [if_neg]
        · rfl
        · intro heq'
          have hname : i'.name = i.name := Option.some.inj (heq'.symm.trans heq)
          exact h.1 (hname ▸ List.mem_map_of_mem hi')
      rw [← hrest]
    · rw [if_neg heq, if_neg heq, ih h.2]

/-- **Each ingress gets its own entries**, in their order. -/
theorem applicationFormValuesToIngresses_eq (h : (original.map Ingress.name).Nodup) :
    applicationFormValuesToIngresses original ports s = original.map fun i =>
      (ports.filter (·.ingressName = some i.name)).foldl (fun i p => applyPort s p i) i := by
  induction ports generalizing original with
  | nil => exact (List.map_id original).symm
  | cons p ports ih =>
    have hnames : ((updateNamed (applyPort s p) p.ingressName original).map Ingress.name) =
        original.map Ingress.name := by
      rw [updateNamed_eq_map h, List.map_map]
      refine List.map_congr_left fun i _ => ?_
      by_cases heq : p.ingressName = some i.name
      · simp [heq]
      · simp [heq]
    have hstep : applicationFormValuesToIngresses original (p :: ports) s =
        applicationFormValuesToIngresses (updateNamed (applyPort s p) p.ingressName original) ports s := rfl
    rw [hstep, ih (by rw [hnames]; exact h), updateNamed_eq_map h, List.map_map]
    refine List.map_congr_left fun i _ => ?_
    by_cases heq : p.ingressName = some i.name
    · simp [heq]
    · simp [heq]

/-- Entries that were loaded only remove paths. -/
theorem foldl_applyPort_old (h : ∀ p ∈ ports, p.isNew = false) :
    ports.foldl (fun i p => applyPort s p i) i =
      { i with paths := ((ports.filter (·.needsDeletion)).map (·.key)).foldl (removeKey s) i.paths } := by
  induction ports generalizing i with
  | nil => rfl
  | cons p ports ih =>
    have hnew : p.isNew = false := h p List.mem_cons_self
    rw [List.foldl_cons, ih fun p hp => h p (List.mem_cons_of_mem _ hp)]
    by_cases hdel : p.needsDeletion
    · rw [List.filter_cons_of_pos hdel, List.map_cons, List.foldl_cons, applyPort, if_pos hdel, removeKey]
      have hlookup : isPathOf s p = fun r => decide (r.serviceName = some s ∧ r.key = p.key) :=
        funext fun _ => isPathOf_eq
      rw [hlookup]
    · rw [List.filter_cons_of_neg hdel, applyPort, if_neg hdel, hnew]
      rfl

/-- New entries only add paths. -/
theorem foldl_applyPort_new (h : ∀ p ∈ ports, p.isNew ∧ p.needsDeletion = false) :
    ports.foldl (fun i p => applyPort s p i) i =
      { i with paths := i.paths ++ ports.map (newRule i.name s) } := by
  induction ports generalizing i with
  | nil => simp
  | cons p ports ih =>
    obtain ⟨hnew, hdel⟩ := h p List.mem_cons_self
    rw [List.foldl_cons, ih fun p hp => h p (List.mem_cons_of_mem _ hp), applyPort, hdel, if_neg nofun,
      if_pos hnew, List.map_cons, List.append_assoc]
    rfl

/-! ## Loading and editing -/

theorem isNew_portFields {serviceType : ServiceType} {port : ApplicationPort} :
    (portFields serviceType port p).isNew = p.isNew := by
  cases serviceType <;> rfl

theorem isNew_generatePort {serviceType : ServiceType} {ingress : Option (List Ingress)}
    {port : ApplicationPort} {rule : Option Rule} (h : generatePort serviceType ingress port rule = some p) :
    p.isNew = false := by
  cases rule with
  | none =>
    obtain rfl := Option.some.inj h
    exact isNew_portFields
  | some rule =>
    obtain ⟨hosts, -, rfl⟩ := Option.map_eq_some_iff.mp h
    exact isNew_portFields

/-- Entries that are loaded are not new. -/
theorem isNew_of_loaded {serviceType : ServiceType} {published : List ApplicationPort}
    {ingress : Option (List Ingress)}
    (h : generatePublishedPortsFormValuesFromPublishedPorts serviceType published ingress = some loaded)
    (hp : p ∈ loaded) : p.isNew = false := by
  obtain ⟨lists, hlists, rfl⟩ := Option.map_eq_some_iff.mp h
  obtain ⟨l, hl, hp⟩ := List.mem_flatten.mp hp
  obtain ⟨port, -, hport⟩ := Traverse.exists_of_mem_mapM hlists hl
  unfold generatePorts at hport
  by_cases hrules : port.ingressRules ≠ []
  · rw [if_pos hrules] at hport
    obtain ⟨rule, -, hrule⟩ := Traverse.exists_of_mem_mapM hport hp
    exact isNew_generatePort hrule
  · rw [if_neg hrules] at hport
    obtain ⟨p', hp', rfl⟩ := Option.map_eq_some_iff.mp hport
    rw [List.mem_singleton.mp hp]
    exact isNew_generatePort hp'

/-- **Entries as they are edited**: those that were loaded first, and then new
ones, none of which is marked for deletion. -/
structure Arranged (ports : List PublishedPortFormValue) : Prop where
  order : (ports.map (·.isNew)).Pairwise fun before after => before = true → after = true
  added : ∀ p ∈ ports, p.isNew = true → p.needsDeletion = false

/-- A change of the entries that keeps which are new, and marks no new one. -/
theorem Arranged.of_map {ports' : List PublishedPortFormValue} (h : Arranged ports)
    (hnew : ports'.map (·.isNew) = ports.map (·.isNew))
    (hadded : ∀ p ∈ ports', p.isNew = true → p.needsDeletion = false) : Arranged ports' := by
  refine ⟨?_, hadded⟩
  rw [hnew]
  exact h.order

/-- A change of one entry. -/
theorem Arranged.modify {f : PublishedPortFormValue → PublishedPortFormValue} {index : ℕ}
    (h : Arranged ports) (hnew : ∀ p, (f p).isNew = p.isNew)
    (hdel : ∀ p, p.isNew = true → p.needsDeletion = false → (f p).needsDeletion = false) :
    Arranged (ports.modify index f) := by
  refine h.of_map ?_ fun p hp hpnew => ?_
  · refine List.ext_getElem? fun n => ?_
    rw [List.getElem?_map, List.getElem?_map, List.getElem?_modify]
    rcases ports[n]? with _ | q
    · rfl
    · by_cases hindex : index = n
      · simp [hindex, hnew]
      · simp [hindex]
  · obtain ⟨n, hn⟩ := List.mem_iff_getElem?.mp hp
    rw [List.getElem?_modify] at hn
    obtain ⟨q, hq, hpq⟩ := Option.map_eq_some_iff.mp hn
    have hmem : q ∈ ports := List.mem_of_getElem? hq
    by_cases hindex : index = n
    · rw [if_pos hindex] at hpq
      subst hpq
      rw [hnew] at hpnew
      exact hdel q hpnew (h.added q hmem hpnew)
    · rw [if_neg hindex] at hpq
      subst hpq
      exact h.added q hmem hpnew

/-- **A step of the form keeps the arrangement.** -/
theorem Arranged.apply {filteredIngresses : List Ingress} {edit : Edit} (h : Arranged ports)
    (hedit : edit ≠ .deleteAsync) : Arranged (edit.apply filteredIngresses ports) := by
  cases edit with
  | addPublishedPort =>
    refine ⟨?_, fun p hp hpnew => ?_⟩
    · rw [Edit.apply, List.map_append]
      refine List.pairwise_append.mpr ⟨h.order, List.pairwise_singleton _ _, ?_⟩
      intro _ _ after hafter _
      exact List.mem_singleton.mp hafter
    · rcases List.mem_append.mp hp with hp | hp
      · exact h.added p hp hpnew
      · rw [List.mem_singleton.mp hp]
        rfl
  | removePublishedPort index =>
    rcases hfound : ports[index]? with _ | q
    · have hsame : Edit.apply filteredIngresses ports (.removePublishedPort index) = ports := by
        simp only [Edit.apply, hfound]
      rw [hsame]
      exact h
    simp only [Edit.apply, hfound]
    by_cases hq : q.isNew
    · -- a new entry is taken off the list
      rw [if_pos hq]
      have hsub := List.eraseIdx_sublist ports index
      exact ⟨h.order.sublist (hsub.map _), fun p hp => h.added p (hsub.subset hp)⟩
    · rw [if_neg hq]
      refine h.of_map ?_ fun p hp hpnew => ?_
      · rw [List.map_set]
        refine List.ext_getElem? fun n => ?_
        rw [List.getElem?_set]
        by_cases hindex : index = n
        · subst hindex
          obtain ⟨hlen, -⟩ := List.getElem?_eq_some_iff.mp hfound
          rw [if_pos rfl, if_pos (by rwa [List.length_map]), List.getElem?_map, hfound]
          rfl
        · rw [if_neg hindex]
      · rcases List.mem_or_eq_of_mem_set hp with hp | rfl
        · exact h.added p hp hpnew
        · exact absurd hpnew hq
  | restorePublishedPort index => exact h.modify (fun _ => rfl) fun _ _ _ => rfl
  | fill index values =>
    refine h.modify (fun p => ?_) fun p hpnew hpdel => ?_
    · by_cases hp : p.isNew
      · rw [if_pos hp, hp]
      · rw [if_neg hp]
    · rw [if_pos hpnew]
      exact hpdel
  | deleteAsync => exact (hedit rfl).elim

/-- **However an application is edited**, the entries stay arranged. -/
theorem Edited.arranged (h : Edited loaded ports) (hloaded : ∀ p ∈ loaded, p.isNew = false) :
    Arranged ports := by
  have hstart : Arranged loaded := by
    refine ⟨?_, fun p hp hpnew => ?_⟩
    · refine List.pairwise_of_forall_mem_list fun before hbefore _ _ htrue => ?_
      obtain ⟨p, hp, rfl⟩ := List.mem_map.mp hbefore
      rw [hloaded p hp] at htrue
      cases htrue
    · rw [hloaded p hp] at hpnew
      cases hpnew
  induction h with
  | loaded => exact hstart
  | deleted =>
    refine hstart.of_map ?_ fun p hp hpnew => ?_
    · rw [Edit.apply, List.map_map]
      rfl
    · obtain ⟨q, hq, rfl⟩ := List.mem_map.mp hp
      have hold : q.isNew = false := hloaded q hq
      exact absurd (hold.symm.trans hpnew) nofun
  | edited filteredIngresses edit _ hedit ih => exact ih.apply hedit

/-- The new entries follow the others. -/
theorem Arranged.eq_append (h : Arranged ports) :
    ports = ports.filter (fun p => ¬ p.isNew) ++ ports.filter (fun p => p.isNew) := by
  obtain ⟨h, -⟩ := h
  induction ports with
  | nil => rfl
  | cons p ports ih =>
    rw [List.map_cons, List.pairwise_cons] at h
    by_cases hp : p.isNew
    · -- behind a new entry there are only new ones
      have hrest : ∀ q ∈ p :: ports, q.isNew = true := by
        intro q hq
        rcases List.mem_cons.mp hq with rfl | hq
        · exact hp
        · exact h.1 _ (List.mem_map_of_mem hq) hp
      have hnone : (p :: ports).filter (fun p => ¬ p.isNew) = [] :=
        List.filter_eq_nil_iff.mpr fun q hq => by simp [hrest q hq]
      rw [hnone, List.nil_append, List.filter_eq_self.mpr hrest]
    · have hsplit := ih h.2
      rw [List.filter_cons_of_pos (by simpa using hp), List.filter_cons_of_neg hp, List.cons_append, ← hsplit]

/-! ## When the edit is exact -/

/-- Two filters of a list agree when they do on its elements. -/
theorem filter_eq_filter_iff {α : Type} {f g : α → Bool} {l : List α} :
    l.filter f = l.filter g ↔ ∀ a ∈ l, f a = g a := by
  refine ⟨fun h a ha => ?_, List.filter_congr⟩
  have hmem : a ∈ l.filter f ↔ a ∈ l.filter g := by rw [h]
  rw [List.mem_filter, List.mem_filter] at hmem
  exact Bool.eq_iff_iff.mpr ⟨fun hf => (hmem.mp ⟨ha, hf⟩).2, fun hg => (hmem.mpr ⟨ha, hg⟩).2⟩

/-- **What becomes of an ingress**: its paths after the removals, and one for
each new entry. -/
theorem foldl_applyPort (h : Arranged ports) :
    (ports.filter (·.ingressName = some i.name)).foldl (fun i p => applyPort s p i) i =
      { i with paths := ((marks ports i.name).map (·.key)).foldl (removeKey s) i.paths ++
        (additions ports i.name).map (newRule i.name s) } := by
  have hsplit := congrArg (List.filter (·.ingressName = some i.name)) h.eq_append
  rw [List.filter_append] at hsplit
  have hold : ∀ p ∈ (ports.filter fun p => ¬ p.isNew).filter (·.ingressName = some i.name), p.isNew = false := by
    intro p hp
    have hnew := (List.mem_filter.mp (List.mem_filter.mp hp).1).2
    simpa using hnew
  have hadded : ∀ p ∈ (ports.filter fun p => p.isNew).filter (·.ingressName = some i.name),
      p.isNew ∧ p.needsDeletion = false := by
    intro p hp
    obtain ⟨hmem, hnew⟩ := List.mem_filter.mp (List.mem_filter.mp hp).1
    exact ⟨hnew, h.added p hmem hnew⟩
  have hmarks : ((ports.filter fun p => ¬ p.isNew).filter (·.ingressName = some i.name)).filter
      (·.needsDeletion) = marks ports i.name := by
    rw [marks, List.filter_filter, List.filter_filter]
    refine List.filter_congr fun p hp => ?_
    by_cases hnew : p.isNew
    · simp [hnew, h.added p hp hnew]
    · simp [hnew]
  have hadditions : (ports.filter fun p => p.isNew).filter (·.ingressName = some i.name) =
      additions ports i.name := by
    rw [additions, List.filter_filter]
    refine List.filter_congr fun p _ => ?_
    rw [Bool.eq_iff_iff]
    simp [and_comm]
  rw [hsplit, List.foldl_append, foldl_applyPort_new hadded, foldl_applyPort_old hold, hmarks, hadditions]

variable {l : List Rule}

/-- Paths after the removals are exact, and those added are. -/
theorem exactPaths_iff {i' : Ingress} (h : i' = { i with paths := l ++ (additions ports i.name).map (newRule i.name s) }) :
    ExactPaths s ports i i' ↔
      l.filter (·.serviceName ≠ some s) = i.paths.filter (·.serviceName ≠ some s) ∧
      l.filter (·.serviceName = some s) =
        i.paths.filter fun r => r.serviceName = some s ∧ ¬ Marked ports i.name r := by
  subst h
  have hother : ((additions ports i.name).map (newRule i.name s)).filter (·.serviceName ≠ some s) = [] := by
    refine List.filter_eq_nil_iff.mpr fun r hr => ?_
    obtain ⟨p, -, rfl⟩ := List.mem_map.mp hr
    simp [newRule]
  have hown : ((additions ports i.name).map (newRule i.name s)).filter (·.serviceName = some s) =
      (additions ports i.name).map (newRule i.name s) := by
    refine List.filter_eq_self.mpr fun r hr => ?_
    obtain ⟨p, -, rfl⟩ := List.mem_map.mp hr
    simp [newRule]
  constructor
  · rintro ⟨-, hothers, howns⟩
    rw [List.filter_append, hother, List.append_nil] at hothers
    rw [List.filter_append, hown, List.append_left_inj] at howns
    exact ⟨hothers, howns⟩
  · rintro ⟨hothers, howns⟩
    refine ⟨rfl, ?_, ?_⟩
    · rw [List.filter_append, hother, List.append_nil, hothers]
    · rw [List.filter_append, hown, howns]

/-- **An ingress is edited exactly if and only if the marks fit its paths.** -/
theorem exactPaths_foldl_iff (h : Arranged ports) :
    ExactPaths s ports i ((ports.filter (·.ingressName = some i.name)).foldl (fun i p => applyPort s p i) i) ↔
      Fits s ports i := by
  rw [exactPaths_iff (foldl_applyPort h), Fits]
  by_cases hexceeded : Exceeded s ports i
  · rw [if_pos hexceeded]
    obtain ⟨p, hp, hlt⟩ := hexceeded
    rw [foldl_removeKey_of_lt hlt, List.filter_nil, List.filter_nil, eq_comm, List.filter_eq_nil_iff, eq_comm,
      List.filter_eq_nil_iff]
    constructor
    · rintro ⟨hothers, howns⟩ r hr
      have hown : r.serviceName = some s := by simpa using hothers r hr
      have hmarked := howns r hr
      rw [decide_eq_true_eq, not_and, not_not] at hmarked
      exact ⟨hown, hmarked hown⟩
    · intro hall
      refine ⟨fun r hr => ?_, fun r hr => ?_⟩
      · simpa using (hall r hr).1
      · rw [decide_eq_true_eq]
        exact fun hr' => hr'.2 (hall r hr).2
  · rw [if_neg hexceeded, foldl_removeKey]
    · rw [List.filter_filter, List.filter_filter, filter_eq_filter_iff, filter_eq_filter_iff]
      constructor
      · rintro ⟨-, howns⟩ r hr hown
        have hboth := howns r hr
        simp only [hown, true_and, decide_true, Bool.true_and, decide_eq_decide, not_iff_not] at hboth
        exact hboth
      · intro hall
        refine ⟨fun r _ => ?_, fun r hr => ?_⟩
        · by_cases hown : r.serviceName = some s
          · simp [hown]
          · simp [hown]
        · by_cases hown : r.serviceName = some s
          · simp only [hown, true_and, decide_true, Bool.true_and, decide_eq_decide, not_iff_not]
            exact hall r hr hown
          · simp [hown]
    · intro key hkey
      obtain ⟨p, hp, rfl⟩ := List.mem_map.mp hkey
      exact Nat.le_of_not_lt fun hlt => hexceeded ⟨p, hp, hlt⟩

/-- **An edit is exact if and only if the marks fit the paths of every ingress
and each new entry names an ingress**, for all ingresses and every form that
was loaded and edited. -/
theorem exact_iff {serviceType : ServiceType} {portsRefs : List ContainerPort} {servicePorts : List ServicePort}
    {ingresses : List Ingress} {ingress : Option (List Ingress)}
    (hnames : (original.map Ingress.name).Nodup)
    (hload : generatePublishedPortsFormValuesFromPublishedPorts serviceType
      (publishedPorts portsRefs servicePorts ingresses s) ingress = some loaded)
    (hedit : Edited loaded ports) :
    Exact s ports original (applicationFormValuesToIngresses original ports s) ↔
      (∀ i ∈ original, Fits s ports i) ∧
        ∀ p ∈ ports, p.isNew → ∃ i ∈ original, p.ingressName = some i.name := by
  have harranged : Arranged ports := hedit.arranged fun p hp => isNew_of_loaded hload hp
  rw [applicationFormValuesToIngresses_eq hnames]
  have hpaths : List.Forall₂ (ExactPaths s ports) original (original.map fun i =>
      (ports.filter (·.ingressName = some i.name)).foldl (fun i p => applyPort s p i) i) ↔
      ∀ i ∈ original, Fits s ports i := by
    rw [List.forall₂_map_right_iff, List.forall₂_same]
    exact forall₂_congr fun i _ => exactPaths_foldl_iff harranged
  have hplaced : ∀ p : PublishedPortFormValue, (∃ i ∈ original.map (fun i =>
      (ports.filter (·.ingressName = some i.name)).foldl (fun i p => applyPort s p i) i),
      p.ingressName = some i.name) ↔ ∃ i ∈ original, p.ingressName = some i.name := by
    intro p
    constructor
    · rintro ⟨i', hi', hname⟩
      obtain ⟨i, hi, rfl⟩ := List.mem_map.mp hi'
      rw [foldl_applyPort_name] at hname
      exact ⟨i, hi, hname⟩
    · rintro ⟨i, hi, hname⟩
      exact ⟨_, List.mem_map_of_mem hi, by rw [foldl_applyPort_name]; exact hname⟩
  constructor
  · rintro ⟨hexact, hplace⟩
    exact ⟨hpaths.mp hexact, fun p hp hnew => (hplaced p).mp (hplace p hp hnew)⟩
  · rintro ⟨hfits, hplace⟩
    exact ⟨hpaths.mpr hfits, fun p hp hnew => (hplaced p).mpr (hplace p hp hnew)⟩

/-- Two applications behind one ingress: the container of `a` listens on
another port than its service. -/
def sharedIngress (targetPort : ℤ) : List Ingress × List ServicePort :=
  ([{ name := "ing", hosts := ["h"], paths := [
      { ingressName := "ing", serviceName := some "a", host := some "h", port := some (.number 80), path := some "/a" },
      { ingressName := "ing", serviceName := some "b", host := some "h", port := some (.number 80), path := some "/b" }] }],
    [{ port := 80, targetPort := .number targetPort, nodePort := none, protocol := "TCP" }])

/-- The entry of `a` in the form. -/
def sharedEntry (targetPort : ℤ) : PublishedPortFormValue where
  isNew := false
  containerPort := some (.number targetPort)
  ingressName := some "ing"
  ingressRoute := some "/a"
  ingressHost := some "h"
  ingressHosts := some ["h"]

/-- Where the two ports are the same, the path of `a` goes and that of `b`
stays. -/
theorem exact_iff_shared : Exact "a" [{ sharedEntry 80 with needsDeletion := true }] (sharedIngress 80).1
    (applicationFormValuesToIngresses (sharedIngress 80).1 [{ sharedEntry 80 with needsDeletion := true }] "a") := by
  have hload : generatePublishedPortsFormValuesFromPublishedPorts .clusterIP
      (publishedPorts [] (sharedIngress 80).2 (sharedIngress 80).1 "a") (some (sharedIngress 80).1) =
      some [sharedEntry 80] := by decide
  exact (exact_iff (by decide) hload (.edited [] (.removePublishedPort 0) .loaded nofun)).mpr (by decide)

/-- Where they are not, nothing is found for the path of `a`, and that of `b`
goes too. -/
theorem not_exact : ¬ ∀ (s : String) (serviceType : ServiceType) (portsRefs : List ContainerPort)
    (servicePorts : List ServicePort) (ingresses original : List Ingress)
    (loaded ports : List PublishedPortFormValue), (original.map Ingress.name).Nodup →
    generatePublishedPortsFormValuesFromPublishedPorts serviceType
      (publishedPorts portsRefs servicePorts ingresses s) (some ingresses) = some loaded →
    Edited loaded ports → Exact s ports original (applicationFormValuesToIngresses original ports s) := by
  intro h
  have hexact := h "a" .clusterIP [] (sharedIngress 8080).2 (sharedIngress 8080).1 (sharedIngress 8080).1
    [sharedEntry 8080] [{ sharedEntry 8080 with needsDeletion := true }] (by decide) (by decide)
    (.edited [] (.removePublishedPort 0) .loaded nofun)
  obtain ⟨⟨-, hothers, -⟩, -⟩ := List.forall₂_cons.mp hexact.paths
  exact absurd hothers (by decide)

end Ingresses

end Portainer
