import Mathlib.Data.Finset.Basic
/-!
# Buckets — keyed records with an id sequence

A bucket of the database: records by integer key, and the counter from
which new identifiers are drawn. A record is stored under its own
identifier, and the bucket carries the proof, so a lookup never returns a
record of another key.
-/

namespace Portainer

open Std

/-- A record that carries its own identifier. -/
class Record (α : Type) where
  key : α → Int

export Record (key)

/-- No record is stored under another identifier where none is stored. -/
theorem keyed_empty {α : Type} [Record α] (i : Int) (a : α) (h : (∅ : ExtTreeMap Int α)[i]? = some a) : key a = i := by
  simp at h

/-- A bucket of records of `α`. -/
structure Bucket (α : Type) [Record α] where
  records : ExtTreeMap Int α := ∅
  /-- The last identifier drawn. -/
  sequence : Int := 0
  /-- Every record is stored under its own identifier. -/
  keyed : ∀ (i : Int) (a : α), records[i]? = some a → key a = i := by first | exact keyed_empty | simp

namespace Bucket

variable {α : Type} [Record α]

/-- The record of a key. -/
def get? (b : Bucket α) (i : Int) : Option α := b.records[i]?

/-- Every record, in the order of the keys. -/
def all (b : Bucket α) : List α := b.records.toList.map Prod.snd

/-- Store a record under its identifier, in place of what is there. -/
def put (b : Bucket α) (a : α) : Bucket α where
  records := b.records.insert (key a) a
  sequence := b.sequence
  keyed := by
    intro i a' h
    rw [ExtTreeMap.getElem?_insert] at h
    split at h
    · rename_i hi
      rw [← Option.some.inj h, Std.compare_eq_iff_eq.mp hi]
    · exact b.keyed i a' h

/-- Remove the record of a key. -/
def delete (b : Bucket α) (i : Int) : Bucket α where
  records := b.records.erase i
  sequence := b.sequence
  keyed := by
    intro j a h
    rw [ExtTreeMap.getElem?_erase] at h
    split at h
    · simp at h
    · exact b.keyed j a h

/-- The identifier a draw returns. -/
def next (b : Bucket α) : Int := b.sequence + 1

/-- The bucket after a draw. -/
def nextSequence (b : Bucket α) : Bucket α := { b with sequence := b.next }

/-- The bucket with its counter set. -/
def setSequence (b : Bucket α) (n : Int) : Bucket α := { b with sequence := n }

/-- No key in use lies above the counter, so a draw is always fresh. -/
def Bounded (b : Bucket α) : Prop := ∀ i a, b.get? i = some a → i ≤ b.sequence

section Lemmas

variable {b : Bucket α} {a : α} {i j : Int}

@[simp] theorem get?_empty : ({} : Bucket α).get? i = none := by
  simp [get?]

@[simp] theorem all_empty : ({} : Bucket α).all = [] := by
  simp [all]

theorem key_of_get? (h : b.get? i = some a) : key a = i := b.keyed i a h

theorem get?_put : (b.put a).get? i = if key a = i then some a else b.get? i := by
  simp [get?, put, ExtTreeMap.getElem?_insert]

theorem get?_put_self : (b.put a).get? (key a) = some a := by
  simp [get?_put]

theorem get?_put_of_ne (h : key a ≠ i) : (b.put a).get? i = b.get? i := by
  simp [get?_put, h]

theorem get?_delete : (b.delete j).get? i = if j = i then none else b.get? i := by
  simp [get?, delete, ExtTreeMap.getElem?_erase]

theorem map_get?_delete {β : Type} {f : α → β} :
    ((b.delete j).get? i).map f = if j = i then none else (b.get? i).map f := by
  rw [get?_delete]
  split <;> rfl

theorem get?_delete_of_ne (h : j ≠ i) : (b.delete j).get? i = b.get? i := by
  simp [get?_delete, h]

/-- A field of the record that is found after a write. -/
theorem map_get?_put {β : Type} {f : α → β} :
    ((b.put a).get? i).map f = if key a = i then some (f a) else (b.get? i).map f := by
  rw [get?_put]
  split <;> rfl

@[simp] theorem sequence_put : (b.put a).sequence = b.sequence := rfl

@[simp] theorem get?_nextSequence : b.nextSequence.get? i = b.get? i := rfl

@[simp] theorem sequence_nextSequence : b.nextSequence.sequence = b.sequence + 1 := rfl

theorem mem_all : a ∈ b.all ↔ b.get? (key a) = some a := by
  simp only [all, List.mem_map, Prod.exists, exists_eq_right,
    ExtTreeMap.mem_toList_iff_getElem?_eq_some]
  constructor
  · rintro ⟨i, h⟩
    rwa [get?, b.keyed i a h]
  · exact fun h => ⟨_, h⟩

theorem mem_all_of_get? (h : b.get? i = some a) : a ∈ b.all :=
  mem_all.mpr (by rw [key_of_get? h]; exact h)

/-- The identifiers of the records are distinct. -/
theorem nodup_keys_all (b : Bucket α) : (b.all.map key).Nodup := by
  have hkeys : b.all.map key = b.records.toList.map Prod.fst := by
    rw [all, List.map_map]
    refine List.map_congr_left fun p hp => ?_
    exact b.keyed p.1 p.2 (ExtTreeMap.mem_toList_iff_getElem?_eq_some.mp hp)
  rw [hkeys, ExtTreeMap.map_fst_toList_eq_keys]
  exact ExtTreeMap.nodup_keys

/-- Two records of one identifier are one record. -/
theorem eq_of_mem_all {a' : α} (h : a ∈ b.all) (h' : a' ∈ b.all) (hk : key a = key a') :
    a = a' := by
  have := mem_all.mp h
  rw [hk, mem_all.mp h'] at this
  exact (Option.some.inj this).symm

/-- A record is found in the list of all under its identifier. -/
theorem find?_all : b.all.find? (fun a => key a = i) = b.get? i := by
  cases hi : b.get? i with
  | none =>
    rw [List.find?_eq_none]
    intro a ha hk
    rw [← of_decide_eq_true hk, mem_all.mp ha] at hi
    nomatch hi
  | some a =>
    cases hf : b.all.find? (fun a => key a = i) with
    | none =>
      have := List.find?_eq_none.mp hf a (mem_all_of_get? hi)
      simp [key_of_get? hi] at this
    | some a' =>
      have hk : key a' = i := by simpa using List.find?_some hf
      have := mem_all.mp (List.mem_of_find?_eq_some hf)
      rw [hk, hi] at this
      exact this.symm

/-- **A bucket is its records and its counter.** -/
theorem eq_of_get? {b' : Bucket α} (h : ∀ i, b'.get? i = b.get? i)
    (hsequence : b'.sequence = b.sequence) : b' = b := by
  obtain ⟨records, sequence, keyed⟩ := b
  obtain ⟨records', sequence', keyed'⟩ := b'
  obtain rfl : records' = records := ExtTreeMap.ext_getElem? fun i => h i
  obtain rfl : sequence' = sequence := hsequence
  rfl

/-! ### A list of records, stored one after the other -/

/-- Store every record of a list. -/
def putAll (b : Bucket α) (l : List α) : Bucket α := l.foldl put b

@[simp] theorem putAll_cons {l : List α} : b.putAll (a :: l) = (b.put a).putAll l := rfl

@[simp] theorem sequence_putAll {l : List α} : (b.putAll l).sequence = b.sequence := by
  induction l generalizing b with
  | nil => rfl
  | cons a l ih => rw [putAll_cons, ih, sequence_put]

theorem get?_putAll_of_notMem {l : List α} (h : ∀ a ∈ l, key a ≠ i) :
    (b.putAll l).get? i = b.get? i := by
  induction l generalizing b with
  | nil => rfl
  | cons a l ih =>
    rw [putAll_cons, ih fun a' ha' => h a' (List.mem_cons_of_mem a ha'),
      get?_put_of_ne (h a List.mem_cons_self)]

theorem get?_putAll_of_mem {l : List α} (hl : (l.map key).Nodup) (ha : a ∈ l) :
    (b.putAll l).get? (key a) = some a := by
  induction l generalizing b with
  | nil => nomatch ha
  | cons a' l ih =>
    rw [List.map_cons, List.nodup_cons] at hl
    rw [putAll_cons]
    rcases List.mem_cons.mp ha with rfl | ha
    · rw [get?_putAll_of_notMem, get?_put_self]
      intro a' ha' hk
      exact hl.1 (hk ▸ List.mem_map_of_mem ha')
    · exact ih hl.2 ha

/-! ### Records changed in place -/

/-- Change the record of a key, if there is one. -/
def alter (b : Bucket α) (f : α → α) (i : Int) : Bucket α :=
  match b.get? i with
  | none => b
  | some a => b.put (f a)

/-- Change the records of a list of keys, one after the other. -/
def alterAll (b : Bucket α) (f : α → α) (l : List Int) : Bucket α := l.foldl (alter · f) b

/-- Change the records that meet a condition. -/
def alterWhere (b : Bucket α) (c : α → Bool) (f : α → α) : Bucket α :=
  b.putAll ((b.all.filter c).map f)

/-- Remove the records that meet a condition. -/
def deleteWhere (b : Bucket α) (c : α → Bool) : Bucket α := ((b.all.filter c).map key).foldl delete b

theorem get?_foldl_delete {l : List Int} :
    (l.foldl delete b).get? i = if i ∈ l then none else b.get? i := by
  induction l generalizing b with
  | nil => simp
  | cons j l ih =>
    rw [List.foldl_cons, ih, get?_delete]
    by_cases hij : i = j
    · simp [hij]
    · simp [hij, Ne.symm hij]

/-- What is left is what was there and does not meet the condition. -/
theorem get?_deleteWhere {c : α → Bool} :
    (b.deleteWhere c).get? i = some a ↔ b.get? i = some a ∧ c a = false := by
  have hmem : ∀ a', b.get? i = some a' → (i ∈ (b.all.filter c).map key ↔ c a' = true) := by
    intro a' ha'
    refine ⟨fun hi => ?_, fun hc => ?_⟩
    · obtain ⟨a'', ha'', rfl⟩ := List.mem_map.mp hi
      obtain ⟨hall, hc⟩ := List.mem_filter.mp ha''
      rw [mem_all.mp hall] at ha'
      exact Option.some.inj ha' ▸ hc
    · exact List.mem_map.mpr ⟨a', List.mem_filter.mpr ⟨mem_all_of_get? ha', hc⟩, key_of_get? ha'⟩
  unfold deleteWhere
  rw [get?_foldl_delete]
  constructor
  · intro h
    split at h
    · nomatch h
    · rename_i hi
      exact ⟨h, by simpa using mt (hmem a h).mpr hi⟩
  · rintro ⟨h, hc⟩
    rw [if_neg (by rw [hmem a h, hc]; exact Bool.false_ne_true)]
    exact h

theorem get?_alter {f : α → α} (hf : ∀ a, key (f a) = key a) :
    (b.alter f i).get? j = if i = j then (b.get? j).map f else b.get? j := by
  cases hi : b.get? i with
  | none =>
    simp only [alter, hi]
    by_cases hij : i = j
    · rw [if_pos hij, ← hij, hi, Option.map_none]
    · rw [if_neg hij]
  | some a =>
    simp only [alter, hi, get?_put, hf, key_of_get? hi]
    by_cases hij : i = j
    · rw [if_pos hij, if_pos hij, ← hij, hi, Option.map_some]
    · rw [if_neg hij, if_neg hij]

@[simp] theorem sequence_alter {f : α → α} : (b.alter f i).sequence = b.sequence := by
  unfold alter
  split <;> rfl

@[simp] theorem sequence_alterAll {f : α → α} {l : List Int} :
    (b.alterAll f l).sequence = b.sequence := by
  unfold alterAll
  induction l generalizing b with
  | nil => rfl
  | cons i l ih => rw [List.foldl_cons, ih, sequence_alter]

/-- A change that takes effect once can be made as often as the key is
listed. -/
theorem get?_alterAll {f : α → α} (hf : ∀ a, key (f a) = key a) (hidem : ∀ a, f (f a) = f a)
    {l : List Int} :
    (b.alterAll f l).get? j = if j ∈ l then (b.get? j).map f else b.get? j := by
  unfold alterAll
  induction l generalizing b with
  | nil => simp
  | cons i l ih =>
    rw [List.foldl_cons, ih, get?_alter hf]
    by_cases hij : i = j
    · subst hij
      cases b.get? i <;> simp [hidem]
    · simp [hij, Ne.symm hij]

theorem isSome_get?_alter {f : α → α} (hf : ∀ a, key (f a) = key a) :
    ((b.alter f i).get? j).isSome = (b.get? j).isSome := by
  rw [get?_alter hf]
  split
  · exact Option.isSome_map
  · rfl

theorem isSome_get?_alterAll {f : α → α} (hf : ∀ a, key (f a) = key a) {l : List Int} :
    ((b.alterAll f l).get? j).isSome = (b.get? j).isSome := by
  unfold alterAll
  induction l generalizing b with
  | nil => rfl
  | cons i l ih => rw [List.foldl_cons, ih, isSome_get?_alter hf]

@[simp] theorem sequence_alterWhere {c : α → Bool} {f : α → α} :
    (b.alterWhere c f).sequence = b.sequence := sequence_putAll

theorem get?_alterWhere {c : α → Bool} {f : α → α} (hf : ∀ a, key (f a) = key a) :
    (b.alterWhere c f).get? i = (b.get? i).map fun a => if c a then f a else a := by
  unfold alterWhere
  have hkeys : (((b.all.filter c).map f).map key).Nodup := by
    have hkey : key ∘ f = key := funext hf
    rw [List.map_map, hkey]
    exact (nodup_keys_all b).sublist (List.filter_sublist.map _)
  have hother : ∀ {j}, (∀ a, b.get? j = some a → c a = false) →
      (b.putAll ((b.all.filter c).map f)).get? j = b.get? j := by
    intro j hj
    refine get?_putAll_of_notMem fun a' ha' hk => ?_
    obtain ⟨a, ha, rfl⟩ := List.mem_map.mp ha'
    obtain ⟨hmem, hc⟩ := List.mem_filter.mp ha
    have hget : b.get? j = some a := hk ▸ (hf a).symm ▸ mem_all.mp hmem
    rw [hj a hget] at hc
    nomatch hc
  cases hi : b.get? i with
  | none =>
    rw [hother fun a ha => by rw [hi] at ha; nomatch ha]
    simp [hi]
  | some a =>
    cases hc : c a with
    | false =>
      rw [hother fun a' ha' => by rw [hi] at ha'; exact Option.some.inj ha' ▸ hc]
      simp [hi, hc]
    | true =>
      have hmem : f a ∈ (b.all.filter c).map f :=
        List.mem_map_of_mem (List.mem_filter.mpr ⟨mem_all_of_get? hi, hc⟩)
      have := get?_putAll_of_mem (b := b) hkeys hmem
      rw [hf, key_of_get? hi] at this
      rw [this]
      simp [hc]

/-- **A draw is fresh.** -/
theorem Bounded.get?_next (h : b.Bounded) : b.get? b.next = none := by
  cases hg : b.get? b.next with
  | none => rfl
  | some a =>
    have := h _ a hg
    simp only [next] at this
    omega

theorem Bounded.put (h : b.Bounded) (ha : key a ≤ b.sequence) : (b.put a).Bounded := by
  intro i a' hi
  rw [get?_put] at hi
  split at hi
  · rename_i heq
    exact heq ▸ ha
  · exact h i a' hi

theorem Bounded.delete (h : b.Bounded) : (b.delete j).Bounded := by
  intro i a hi
  rw [get?_delete] at hi
  split at hi
  · simp at hi
  · exact h i a hi

theorem Bounded.nextSequence (h : b.Bounded) : b.nextSequence.Bounded := by
  intro i a hi
  have := h i a hi
  simp only [sequence_nextSequence]
  omega

/-- A record stored under a number that was drawn for it. -/
theorem Bounded.create (h : b.Bounded) (ha : key a = b.next) : (b.nextSequence.put a).Bounded :=
  h.nextSequence.put (by rw [ha, sequence_nextSequence]; exact Int.le_refl _)

/-! ### What holds of every record -/

/-- Every stored record has the property. -/
def Every (P : α → Prop) (b : Bucket α) : Prop := ∀ i a, b.get? i = some a → P a

variable {P : α → Prop}

theorem every_iff_all : b.Every P ↔ ∀ a ∈ b.all, P a :=
  ⟨fun h a ha => h _ a (mem_all.mp ha), fun h _ a ha => h a (mem_all_of_get? ha)⟩

theorem every_empty : ({} : Bucket α).Every P := by
  simp [every_iff_all]

theorem Every.put (h : b.Every P) (ha : P a) : (b.put a).Every P := by
  intro i a' hi
  rw [get?_put] at hi
  split at hi
  · exact Option.some.inj hi ▸ ha
  · exact h i a' hi

theorem Every.delete (h : b.Every P) : (b.delete j).Every P := by
  intro i a hi
  rw [get?_delete] at hi
  split at hi
  · nomatch hi
  · exact h i a hi

/-! ### Records told apart -/

/-- **No two records are related**: what a table is told to be unique in. -/
def Unique (r : α → α → Prop) (b : Bucket α) : Prop :=
  ∀ i j a a', b.get? i = some a → b.get? j = some a' → r a a' → i = j

variable {r : α → α → Prop}

theorem unique_iff_all : b.Unique r ↔ ∀ a ∈ b.all, ∀ a' ∈ b.all, r a a' → key a = key a' := by
  constructor
  · intro h a ha a' ha' hr
    exact h _ _ _ _ (mem_all.mp ha) (mem_all.mp ha') hr
  · intro h i j a a' ha ha' hr
    have hkeys := h a (mem_all_of_get? ha) a' (mem_all_of_get? ha') hr
    rwa [key_of_get? ha, key_of_get? ha'] at hkeys

/-- A record may be stored that only the one in its place is related to. -/
theorem Unique.put (h : b.Unique r) (hsymm : ∀ a a', r a a' → r a' a)
    (ha : ∀ j a', b.get? j = some a' → r a a' → j = key a) : (b.put a).Unique r := by
  intro i j x y hx hy hxy
  rw [get?_put] at hx hy
  split at hx
  · rename_i hi
    obtain rfl := Option.some.inj hx
    split at hy
    · rename_i hj
      exact hi.symm.trans hj
    · exact (ha j y hy hxy).symm ▸ hi.symm
  · split at hy
    · rename_i hj
      obtain rfl := Option.some.inj hy
      exact (ha i x hx (hsymm _ _ hxy)).trans hj
    · exact h i j x y hx hy hxy

theorem Unique.of_sub {b' : Bucket α} (h : b.Unique r)
    (hsub : ∀ i a, b'.get? i = some a → b.get? i = some a) : b'.Unique r :=
  fun i j a a' ha ha' haa' => h i j a a' (hsub i a ha) (hsub j a' ha') haa'

theorem Unique.delete (h : b.Unique r) : (b.delete j).Unique r := by
  refine h.of_sub fun i a ha => ?_
  rw [get?_delete] at ha
  split at ha
  · nomatch ha
  · exact ha

theorem Unique.deleteWhere {c : α → Bool} (h : b.Unique r) : (b.deleteWhere c).Unique r :=
  h.of_sub fun _ _ ha => (get?_deleteWhere.mp ha).1

/-- A record is created that nothing is related to. -/
theorem Unique.create (h : b.Unique r) (hsymm : ∀ a a', r a a' → r a' a)
    (ha : ∀ a' ∈ b.all, ¬ r a a') : (b.nextSequence.put a).Unique r :=
  Unique.put (b := b.nextSequence) h hsymm fun _ a' hj haa' =>
    absurd haa' (ha a' (mem_all_of_get? hj))

end Lemmas

end Bucket

end Portainer
