import Portainer.Common.Traverse
import Portainer.Secrets.Model
import Mathlib.Data.List.Nodup
import Mathlib.Data.List.Perm.Basic
/-!
# Kubernetes secrets — what is read back

A secret that the user interface stores should come back as it was. Three
things stand against it: the binary keys are looked for as parts of a text
in which all of them stand, so a text whose key occurs there comes back as
binary; `atob` makes a character of each byte, so of the texts only those
in ASCII come back; and an assignment to `__proto__` is without effect.

`roundTrips_iff` says that nothing else does, and `not_roundTrips` is a
text that does not come back.
-/

namespace Portainer

open Std

namespace Secrets

variable {entries : List Entry} {e : Entry} {s : Secret} {p : Payload}

/-! ## The property -/

/-- The text in which the keys of the binary entries are joined. -/
def joined (entries : List Entry) : String :=
  (entries.filter Entry.isBinary).foldl (fun names entry => addKey names entry.key) ""

/-- **The payload brings the entries back**: the same keys, values and flags,
whatever the API server adds to the metadata. -/
def RoundTrips (p : Payload) (entries : List Entry) : Prop :=
  ∀ uid creationTimestamp yaml, ∃ s, apiToSecret (stored p uid creationTimestamp) yaml = some s ∧
    s.data.Perm entries

/-- **An entry that comes back**: its key is not `__proto__`; if it is binary
the annotation is there; if it is a text the annotation does not have its
key, and the text is in ASCII. -/
def Kept (entries : List Entry) (e : Entry) : Prop :=
  e.key ≠ "__proto__" ∧
    if e.isBinary then joined entries ≠ ""
    else (joined entries ≠ "" → ¬ e.key.toList <:+: (joined entries).toList) ∧
      ∀ c ∈ e.value.toList, c.toNat < 128

/-! ## The annotation -/

theorem toList_addKey {names key : String} (h : names ≠ "") :
    (addKey names key).toList = names.toList ++ '|' :: key.toList := by
  rw [addKey, if_pos h, String.toList_append, String.toList_append]
  rfl

theorem addKey_empty {key : String} : addKey "" key = key := by
  rw [addKey, if_neg (not_not.mpr rfl)]
  exact String.empty_append

/-- What stands in the text, and the key that is added, stand in the text
after it. -/
theorem infix_addKey {names key : String} {k : List Char}
    (h : k <:+: names.toList ∨ k <:+: key.toList) : k <:+: (addKey names key).toList := by
  by_cases hnames : names = ""
  · subst hnames
    rw [addKey_empty]
    rcases h with h | h
    · have hnil : k = [] := List.infix_nil.mp h
      rw [hnil]
      exact List.nil_infix
    · exact h
  · rw [toList_addKey hnames]
    rcases h with h | h
    · exact h.trans (List.prefix_append _ _).isInfix
    · exact (h.trans (List.suffix_cons '|' _).isInfix).trans (List.suffix_append _ _).isInfix

theorem infix_foldl {binary : List Entry} {names : String} {k : List Char}
    (h : k <:+: names.toList ∨ ∃ entry ∈ binary, k = entry.key.toList) :
    k <:+: (binary.foldl (fun names entry => addKey names entry.key) names).toList := by
  induction binary generalizing names with
  | nil =>
    rcases h with h | ⟨entry, hentry, -⟩
    · exact h
    · exact (List.not_mem_nil hentry).elim
  | cons entry binary ih =>
    rw [List.foldl_cons]
    rcases h with h | ⟨entry', hentry, rfl⟩
    · exact ih (.inl (infix_addKey (.inl h)))
    · rcases List.mem_cons.mp hentry with rfl | hentry
      · exact ih (.inl (infix_addKey (.inr List.infix_rfl)))
      · exact ih (.inr ⟨entry', hentry, rfl⟩)

/-- The annotation has the keys of the binary entries. -/
theorem infix_joined (he : e ∈ entries) (hbinary : e.isBinary = true) :
    e.key.toList <:+: (joined entries).toList :=
  infix_foldl (.inr ⟨e, List.mem_filter.mpr ⟨he, hbinary⟩, rfl⟩)

/-! ## The encodings -/

/-- The bytes as characters. -/
def latin (bytes : List UInt8) : List Char := bytes.map fun b => Char.ofNat b.toNat

theorem latin_utf8EncodeChar {c : Char} (h : c.toNat < 128) : latin (String.utf8EncodeChar c) = [c] := by
  have hval : c.val ≤ 127 := by
    rw [UInt32.le_iff_toNat_le]
    exact Nat.le_of_lt_succ h
  have hbyte : c.val.toUInt8.toNat = c.toNat := by
    rw [UInt32.toNat_toUInt8]
    exact Nat.mod_eq_of_lt (h.trans (by omega))
  rw [String.utf8EncodeChar_eq_singleton (Char.utf8Size_eq_one_iff.mpr hval), latin, List.map_singleton,
    hbyte, Char.ofNat_toNat]

theorem length_latin_utf8 (l : List Char) : l.length ≤ (latin (l.flatMap String.utf8EncodeChar)).length ∧
    ((latin (l.flatMap String.utf8EncodeChar)).length = l.length → ∀ c ∈ l, c.toNat < 128) := by
  induction l with
  | nil => exact ⟨Nat.le_refl _, fun _ _ hc => (List.not_mem_nil hc).elim⟩
  | cons c l ih =>
    obtain ⟨hle, hascii⟩ := ih
    have hlength : (latin ((c :: l).flatMap String.utf8EncodeChar)).length =
        c.utf8Size + (latin (l.flatMap String.utf8EncodeChar)).length := by
      simp [latin]
    have hpos := c.utf8Size_pos
    rw [hlength, List.length_cons]
    refine ⟨by omega, fun heq c' hc' => ?_⟩
    rcases List.mem_cons.mp hc' with rfl | hc'
    · have hsize : c'.utf8Size = 1 := by omega
      have hval := Char.utf8Size_eq_one_iff.mp hsize
      rw [UInt32.le_iff_toNat_le] at hval
      exact Nat.lt_succ_of_le hval
    · exact hascii (by omega) c' hc'

theorem latin_utf8_of_ascii {l : List Char} (h : ∀ c ∈ l, c.toNat < 128) :
    latin (l.flatMap String.utf8EncodeChar) = l := by
  induction l with
  | nil => rfl
  | cons c l ih =>
    have hrest := ih fun c hc => h c (List.mem_cons_of_mem _ hc)
    have hfirst := latin_utf8EncodeChar (h c List.mem_cons_self)
    rw [latin] at hfirst hrest
    rw [List.flatMap_cons, latin, List.map_append, hfirst, hrest, List.singleton_append]

/-- **`atob` reads back the texts in ASCII**, and no others. -/
theorem atob_encode_iff {text : String} :
    atob (String.ofList (Base64.encode (utf8 text))) = some text ↔ ∀ c ∈ text.toList, c.toNat < 128 := by
  have hdecode : atob (String.ofList (Base64.encode (utf8 text))) =
      some (String.ofList (latin (utf8 text))) := by
    rw [atob, String.toList_ofList, Base64.decode_encode]
    rfl
  have hlist : atob (String.ofList (Base64.encode (utf8 text))) = some text ↔
      latin (utf8 text) = text.toList := by
    rw [hdecode, Option.some.injEq]
    constructor
    · intro h
      have hchars := congrArg String.toList h
      rwa [String.toList_ofList] at hchars
    · intro h
      rw [h, String.ofList_toList]
  rw [hlist, utf8]
  constructor
  · intro h
    exact (length_latin_utf8 text.toList).2 (congrArg List.length h)
  · exact latin_utf8_of_ascii

/-- What an entry is stored as. -/
def wire (e : Entry) : String :=
  if e.isBinary then e.value else String.ofList (Base64.encode (utf8 e.value))

/-- The annotation that is read. -/
def annotationRead (entries : List Entry) : Option String :=
  if joined entries ≠ "" then some (joined entries) else none

theorem includes_annotationRead {key : String} : includes (annotationRead entries) key = true ↔
    joined entries ≠ "" ∧ key.toList <:+: (joined entries).toList := by
  unfold annotationRead
  by_cases hnames : joined entries = ""
  · simp [hnames, includes]
  · simp [hnames, includes]

/-- The key is kept in any case. -/
theorem key_of_toEntry {names : Option String} {key value : String} (h : toEntry names key value = some e) :
    e.key = key := by
  unfold toEntry at h
  split at h
  · exact Option.some.inj h ▸ rfl
  · obtain ⟨text, -, rfl⟩ := Option.map_eq_some_iff.mp h
    rfl

/-- **An entry is read back as it was** if it is kept. -/
theorem toEntry_wire_iff (he : e ∈ entries) (hkey : e.key ≠ "__proto__") :
    toEntry (annotationRead entries) e.key (wire e) = some e ↔ Kept entries e := by
  obtain ⟨key, value, isBinary⟩ := e
  unfold Kept toEntry wire
  cases isBinary with
  | true =>
    have hinfix := infix_joined he rfl
    have hincludes : includes (annotationRead entries) key = true ↔ joined entries ≠ "" := by
      rw [includes_annotationRead]
      exact ⟨fun h => h.1, fun h => ⟨h, hinfix⟩⟩
    by_cases hnames : joined entries = ""
    · have hnot : ¬ includes (annotationRead entries) key = true := fun h => hincludes.mp h hnames
      rw [if_neg hnot]
      simp [hnames]
    · rw [if_pos (hincludes.mpr hnames)]
      simp [hnames, hkey]
  | false =>
    by_cases hincludes : includes (annotationRead entries) key = true
    · rw [if_pos hincludes]
      obtain ⟨hnames, hinfix⟩ := includes_annotationRead.mp hincludes
      simp [hnames, hinfix]
    · rw [if_neg hincludes]
      have hnot : joined entries ≠ "" → ¬ key.toList <:+: (joined entries).toList :=
        fun hnames hinfix => hincludes (includes_annotationRead.mpr ⟨hnames, hinfix⟩)
      simp only [Bool.false_eq_true, if_false, ← atob_encode_iff]
      constructor
      · intro h
        obtain ⟨text, htext, heq⟩ := Option.map_eq_some_iff.mp h
        obtain rfl : text = value := congrArg Entry.value heq
        exact ⟨hkey, hnot, htext⟩
      · rintro ⟨-, -, htext⟩
        rw [htext]
        rfl

/-! ## The payload -/

/-- What the API server stores under a key. -/
def lookup (p : Payload) (key : String) : Option String :=
  (p.data ∪ p.stringData.map fun _ text => String.ofList (Base64.encode (utf8 text)))[key]?

/-- Nothing is under the key yet. -/
def Free (p : Payload) (key : String) : Prop := p.data[key]? = none ∧ p.stringData[key]? = none

theorem lookup_eq {key : String} : lookup p key =
    (p.stringData[key]?.map fun text => String.ofList (Base64.encode (utf8 text))).or p.data[key]? := by
  rw [lookup, ExtTreeMap.getElem?_union, ExtTreeMap.getElem?_map]

theorem getElem?_assign {o : Object} {key key' value : String} :
    (assign o key value)[key']? = if key = key' ∧ key ≠ "__proto__" then some value else o[key']? := by
  unfold assign
  by_cases hproto : key = "__proto__"
  · simp [hproto]
  · rw [if_neg hproto, ExtTreeMap.getElem?_insert]
    by_cases hkey : key = key'
    · rw [if_pos (Std.compare_eq_iff_eq.mpr hkey), if_pos ⟨hkey, hproto⟩]
    · rw [if_neg fun h => hkey (Std.compare_eq_iff_eq.mp h), if_neg fun h => hkey h.1]

theorem free_addEntry {names key : String} (h : Free p key) (hne : e.key ≠ key) :
    Free (addEntry (p, names) e).1 key := by
  have hassign : ∀ o : Object, (assign o e.key e.value)[key]? = o[key]? := by
    intro o
    rw [getElem?_assign, if_neg fun h => hne h.1]
  unfold addEntry Free
  cases e.isBinary with
  | true => exact ⟨(hassign _).trans h.1, h.2⟩
  | false => exact ⟨h.1, (hassign _).trans h.2⟩

theorem lookup_addEntry {names key value : String} (hfree : Free p e.key) :
    lookup (addEntry (p, names) e).1 key = some value ↔ lookup p key = some value ∨
      e.key = key ∧ key ≠ "__proto__" ∧ wire e = value := by
  obtain ⟨hdata, hstring⟩ := hfree
  rw [lookup_eq, lookup_eq]
  unfold addEntry wire
  by_cases hkey : e.key = key
  · subst hkey
    by_cases hproto : e.key = "__proto__"
    · cases e.isBinary <;> simp [getElem?_assign, hproto]
    · cases e.isBinary <;> simp [getElem?_assign, hproto, hdata, hstring]
  · cases e.isBinary <;> simp [getElem?_assign, hkey]

/-- **What the loop stores**: each entry under its key. -/
theorem lookup_foldl {names key value : String} (hnodup : (entries.map Entry.key).Nodup)
    (hfree : ∀ e ∈ entries, Free p e.key) :
    lookup (entries.foldl addEntry (p, names)).1 key = some value ↔ lookup p key = some value ∨
      ∃ e ∈ entries, e.key = key ∧ key ≠ "__proto__" ∧ wire e = value := by
  induction entries generalizing p names with
  | nil => simp
  | cons e entries ih =>
    obtain ⟨hfirst, hrest⟩ := List.nodup_cons.mp hnodup
    have hfree' : ∀ e' ∈ entries, Free (addEntry (p, names) e).1 e'.key := by
      intro e' he'
      refine free_addEntry (hfree e' (List.mem_cons_of_mem e he')) fun heq => hfirst ?_
      exact List.mem_map.mpr ⟨e', he', heq.symm⟩
    rw [List.foldl_cons, ih hrest hfree', lookup_addEntry (hfree e List.mem_cons_self), or_assoc]
    simp

theorem names_foldl {names : String} : (entries.foldl addEntry (p, names)).2 =
    (entries.filter Entry.isBinary).foldl (fun names entry => addKey names entry.key) names := by
  induction entries generalizing p names with
  | nil => rfl
  | cons e entries ih =>
    rw [List.foldl_cons, ih]
    unfold addEntry
    cases hbinary : e.isBinary with
    | true => rw [List.filter_cons_of_pos hbinary]; rfl
    | false => rw [List.filter_cons_of_neg (by simp [hbinary])]; rfl

theorem metadata_foldl {names : String} :
    (entries.foldl addEntry (p, names)).1.metadata = p.metadata := by
  induction entries generalizing p names with
  | nil => rfl
  | cons e entries ih =>
    rw [List.foldl_cons, ih]
    unfold addEntry
    split <;> rfl

/-- **A payload of entries**: what it stores, and its annotation. -/
structure Carries (p : Payload) (entries : List Entry) : Prop where
  data : ∀ key value, lookup p key = some value ↔
    ∃ e ∈ entries, e.key = key ∧ key ≠ "__proto__" ∧ wire e = value
  names : p.metadata.annotations[dataAnnotationKey]? = annotationRead entries

theorem carries_payload {owner : Option String} (hnodup : (s.data.map Entry.key).Nodup) :
    Carries (payload s owner) s.data := by
  let m : Metadata := {
    name := s.name, namespaceName := s.namespaceName, labels := owner.elim ∅ (assign ∅ ownerLabel) }
  have hfree : ∀ e ∈ s.data, Free { metadata := m } e.key := fun _ _ => ⟨by simp, by simp⟩
  have hnone : ∀ key, lookup { metadata := m } key = none := by
    intro key
    simp [lookup_eq]
  have hdata : ∀ key value, lookup (s.data.foldl addEntry ({ metadata := m }, "")).1 key = some value ↔
      ∃ e ∈ s.data, e.key = key ∧ key ≠ "__proto__" ∧ wire e = value := by
    intro key value
    rw [lookup_foldl hnodup hfree, hnone]
    simp
  have hnames : (s.data.foldl addEntry ({ metadata := m }, "")).2 = joined s.data := names_foldl
  have hmetadata : (s.data.foldl addEntry ({ metadata := m }, "")).1.metadata = m := metadata_foldl
  have hpayload : payload s owner =
      if (s.data.foldl addEntry ({ metadata := m }, "")).2 ≠ "" then
        { (s.data.foldl addEntry ({ metadata := m }, "")).1 with
          metadata := { (s.data.foldl addEntry ({ metadata := m }, "")).1.metadata with
            annotations := assign (s.data.foldl addEntry ({ metadata := m }, "")).1.metadata.annotations
              dataAnnotationKey (s.data.foldl addEntry ({ metadata := m }, "")).2 } }
      else (s.data.foldl addEntry ({ metadata := m }, "")).1 := rfl
  generalize s.data.foldl addEntry ({ metadata := m }, "") = filled at hdata hnames hmetadata hpayload
  rw [hpayload, hnames]
  by_cases hempty : joined s.data = ""
  · rw [if_neg (not_not.mpr hempty)]
    refine ⟨hdata, ?_⟩
    rw [hmetadata, annotationRead, if_neg (not_not.mpr hempty)]
    simp [m]
  · rw [if_pos hempty]
    refine ⟨hdata, ?_⟩
    have hkey : dataAnnotationKey ≠ "__proto__" := by decide
    rw [annotationRead, if_pos hempty]
    simp only [getElem?_assign, hkey, ne_eq, not_false_eq_true, and_self, if_true]

/-! ## Reading back -/

/-- The data that a payload comes back with. -/
theorem apiToSecret_stored {uid creationTimestamp : String} {yaml : Option String} {l : List Entry} :
    (∃ s, apiToSecret (stored p uid creationTimestamp) yaml = some s ∧ s.data = l) ↔
      (stored p uid creationTimestamp).data.toList.mapM (fun property =>
        toEntry p.metadata.annotations[dataAnnotationKey]? property.1 property.2) = some l := by
  unfold apiToSecret
  constructor
  · rintro ⟨s, hs, rfl⟩
    obtain ⟨data, hdata, hs⟩ := Option.bind_eq_some_iff.mp hs
    obtain rfl := Option.some.inj hs
    exact hdata
  · intro hdata
    have hread : (stored p uid creationTimestamp).data.toList.mapM (fun property =>
        toEntry (annotationOf (stored p uid creationTimestamp)) property.1 property.2) = some l := hdata
    rw [hread]
    exact ⟨_, rfl, rfl⟩

/-- The entries of distinct keys are one for each key. -/
theorem eq_of_key {e e' : Entry} (hnodup : (entries.map Entry.key).Nodup) (he : e ∈ entries)
    (he' : e' ∈ entries) (hkey : e.key = e'.key) : e = e' :=
  List.inj_on_of_nodup_map hnodup he he' hkey

section Carried

variable {uid creationTimestamp : String}

theorem mem_toList_stored {key value : String} :
    (key, value) ∈ (stored p uid creationTimestamp).data.toList ↔ lookup p key = some value :=
  ExtTreeMap.mem_toList_iff_getElem?_eq_some

/-- The keys of an object are distinct. -/
theorem nodup_keys_stored : ((stored p uid creationTimestamp).data.toList.map Prod.fst).Nodup := by
  rw [ExtTreeMap.map_fst_toList_eq_keys]
  exact ExtTreeMap.nodup_keys

/-- **What comes back of the entries.** -/
theorem kept_of_roundTrips (hp : Carries p entries) (hnodup : (entries.map Entry.key).Nodup)
    (h : RoundTrips p entries) : ∀ e ∈ entries, Kept entries e := by
  intro e he
  obtain ⟨s, hs, hperm⟩ := h "" "" none
  obtain ⟨⟨key, value⟩, hmem, hentry⟩ :=
    Traverse.exists_of_mem_mapM (apiToSecret_stored.mp ⟨s, hs, rfl⟩) (hperm.mem_iff.mpr he)
  obtain ⟨e', he', rfl, hproto, rfl⟩ := (hp.data key value).mp (mem_toList_stored.mp hmem)
  -- the entry that was read is the one that was stored under its key
  obtain rfl := eq_of_key hnodup he he' (key_of_toEntry hentry)
  rw [hp.names] at hentry
  exact (toEntry_wire_iff he hproto).mp hentry

theorem roundTrips_of_kept (hp : Carries p entries) (hnodup : (entries.map Entry.key).Nodup)
    (h : ∀ e ∈ entries, Kept entries e) : RoundTrips p entries := by
  intro uid creationTimestamp yaml
  have hentry : ∀ property ∈ (stored p uid creationTimestamp).data.toList, ∃ e ∈ entries,
      property.1 = e.key ∧ toEntry p.metadata.annotations[dataAnnotationKey]? property.1 property.2 = some e := by
    rintro ⟨key, value⟩ hmem
    obtain ⟨e, he, rfl, hproto, rfl⟩ := (hp.data key value).mp (mem_toList_stored.mp hmem)
    refine ⟨e, he, rfl, ?_⟩
    rw [hp.names]
    exact (toEntry_wire_iff he hproto).mpr (h e he)
  let read : String × String → Entry := fun property =>
    (toEntry p.metadata.annotations[dataAnnotationKey]? property.1 property.2).getD ⟨property.1, property.2, false⟩
  have hread : ∀ property ∈ (stored p uid creationTimestamp).data.toList,
      toEntry p.metadata.annotations[dataAnnotationKey]? property.1 property.2 = some (read property) := by
    intro property hmem
    obtain ⟨e, -, -, he⟩ := hentry property hmem
    rw [show read property = e from congrArg (Option.getD · _) he, he]
  have hkeys : ((stored p uid creationTimestamp).data.toList.map read).map Entry.key =
      (stored p uid creationTimestamp).data.toList.map Prod.fst := by
    rw [List.map_map]
    refine List.map_congr_left fun property hmem => ?_
    obtain ⟨e, -, hkey, he⟩ := hentry property hmem
    rw [Function.comp_apply, Option.some.inj ((hread property hmem).symm.trans he), hkey]
  obtain ⟨s, hs, hdata⟩ := apiToSecret_stored.mpr (Traverse.mapM_eq_some hread)
  refine ⟨s, hs, ?_⟩
  rw [hdata]
  have hdistinct : ((stored p uid creationTimestamp).data.toList.map read).Nodup := by
    refine List.Nodup.of_map Entry.key ?_
    rw [hkeys]
    exact nodup_keys_stored
  refine (List.perm_ext_iff_of_nodup hdistinct (hnodup.of_map _)).mpr fun e => ?_
  rw [List.mem_map]
  constructor
  · rintro ⟨property, hmem, rfl⟩
    obtain ⟨e, he, -, heq⟩ := hentry property hmem
    exact Option.some.inj (heq.symm.trans (hread property hmem)) ▸ he
  · intro he
    have hproto : e.key ≠ "__proto__" := (h e he).1
    have hmem : (e.key, wire e) ∈ (stored p uid creationTimestamp).data.toList :=
      mem_toList_stored.mpr ((hp.data _ _).mpr ⟨e, he, rfl, hproto, rfl⟩)
    have hentry' : toEntry p.metadata.annotations[dataAnnotationKey]? e.key (wire e) = some e := by
      rw [hp.names]
      exact (toEntry_wire_iff he hproto).mpr (h e he)
    exact ⟨(e.key, wire e), hmem, Option.some.inj ((hread _ hmem).symm.trans hentry')⟩

end Carried

/-- **A secret comes back exactly if** all its entries are kept, from either
payload. -/
theorem roundTrips_iff (hnodup : (s.data.map Entry.key).Nodup) :
    (RoundTrips (createPayload s) s.data ∧ RoundTrips (updatePayload s) s.data) ↔
      ∀ e ∈ s.data, Kept s.data e := by
  have hcreate : Carries (createPayload s) s.data := carries_payload hnodup
  have hupdate : Carries (updatePayload s) s.data := carries_payload hnodup
  constructor
  · rintro ⟨h, -⟩
    exact kept_of_roundTrips hcreate hnodup h
  · intro h
    exact ⟨roundTrips_of_kept hcreate hnodup h, roundTrips_of_kept hupdate hnodup h⟩

/-- A text beside binary data whose key begins with the text's. -/
def overlapping : Secret where
  name := "tls"
  namespaceName := "default"
  data := [⟨"key", "secret", false⟩, ⟨"key.bin", "AA==", true⟩]

theorem roundTrips_iff_overlapping :
    (RoundTrips (createPayload overlapping) overlapping.data ∧
      RoundTrips (updatePayload overlapping) overlapping.data) ↔
      ∀ e ∈ overlapping.data, Kept overlapping.data e :=
  roundTrips_iff (by decide)

/-- **The text comes back as binary data.** -/
theorem not_roundTrips : ¬ (RoundTrips (createPayload overlapping) overlapping.data ∧
    RoundTrips (updatePayload overlapping) overlapping.data) := by
  rintro ⟨h, -⟩
  have hnodup : (overlapping.data.map Entry.key).Nodup := by decide
  have hkept := kept_of_roundTrips (carries_payload hnodup) hnodup h _ List.mem_cons_self
  have hjoined : joined overlapping.data = "key.bin" := by decide
  obtain ⟨-, hnot, -⟩ := hkept
  rw [hjoined] at hnot
  exact hnot (by decide) (by decide)

end Secrets

end Portainer
