import Portainer.Common.Float64
import Portainer.Common.Json
/-!
# JSON values by their meaning

`meaning` is the value that is meant: an object is a map, in which the last
member of a name counts. `meaning_map_iff` says when a change of the numbers
does not change what is meant: exactly if it leaves every number alone that
counts. `decode` and `encode` are such changes: those of `encoding/json`,
which reads numbers into a `float64`.
-/

namespace Portainer

namespace Json

/-! ## Recursion -/

/-- What to make of a value, given what is made of its parts. -/
structure Alg (α : Type) where
  null : α
  bool : Bool → α
  num : ℚ → α
  str : String → α
  arr : List α → α
  obj : List (String × α) → α

variable {α : Type} {v : Json} {q : ℚ}

mutual

def fold (a : Alg α) : Json → α
  | .null => a.null
  | .bool b => a.bool b
  | .num q => a.num q
  | .str s => a.str s
  | .arr elements => a.arr (foldElements a elements)
  | .obj members => a.obj (foldMembers a members)

def foldElements (a : Alg α) : List Json → List α
  | [] => []
  | v :: elements => fold a v :: foldElements a elements

def foldMembers (a : Alg α) : List (String × Json) → List (String × α)
  | [] => []
  | (name, v) :: members => (name, fold a v) :: foldMembers a members

end

theorem fold_arr (a : Alg α) (elements : List Json) :
    fold a (.arr elements) = a.arr (elements.map (fold a)) := by
  have hall : ∀ elements, foldElements a elements = elements.map (fold a) := by
    intro elements
    induction elements with
    | nil => rfl
    | cons v elements ih => rw [foldElements, ih, List.map_cons]
  rw [fold, hall]

theorem fold_obj (a : Alg α) (members : List (String × Json)) :
    fold a (.obj members) = a.obj (members.map fun m => (m.1, fold a m.2)) := by
  have hall : ∀ members, foldMembers a members = members.map fun m => (m.1, fold a m.2) := by
    intro members
    induction members with
    | nil => rfl
    | cons m members ih => rw [foldMembers, ih, List.map_cons]
  rw [fold, hall]

/-- What holds of a value if it holds of its parts holds of every value. -/
theorem parts_induction {P : Json → Prop} (hnull : P .null) (hbool : ∀ b, P (.bool b))
    (hnum : ∀ q, P (.num q)) (hstr : ∀ s, P (.str s))
    (harr : ∀ elements, (∀ v ∈ elements, P v) → P (.arr elements))
    (hobj : ∀ members, (∀ m ∈ members, P m.2) → P (.obj members)) : ∀ v, P v := by
  intro v
  refine @Json.rec P (fun elements => ∀ v ∈ elements, P v) (fun members => ∀ m ∈ members, P m.2)
    (fun m => P m.2) hnull hbool hnum hstr harr hobj ?_ ?_ ?_ ?_ ?_ v
  · exact fun v hv => absurd hv List.not_mem_nil
  · exact fun v elements hv helements => List.forall_mem_cons.mpr ⟨hv, helements⟩
  · exact fun m hm => absurd hm List.not_mem_nil
  · exact fun m members hm hmembers => List.forall_mem_cons.mpr ⟨hm, hmembers⟩
  · exact fun _ _ hv => hv

/-! ## Numbers -/

/-- The numbers of a value, those of members that do not count among
them. -/
def numbers : Json → List ℚ := fold {
  null := []
  bool := fun _ => []
  num := fun q => [q]
  str := fun _ => []
  arr := List.flatten
  obj := fun members => (members.map Prod.snd).flatten }

/-- A value with other numbers. -/
def map (f : ℚ → ℚ) : Json → Json := fold {
  null := .null
  bool := .bool
  num := fun q => .num (f q)
  str := .str
  arr := .arr
  obj := .obj }

theorem map_arr (f : ℚ → ℚ) (elements : List Json) : (arr elements).map f = .arr (elements.map (map f)) :=
  fold_arr _ _

theorem map_obj (f : ℚ → ℚ) (members : List (String × Json)) :
    (obj members).map f = .obj (members.map fun m => (m.1, m.2.map f)) :=
  fold_obj _ _

theorem map_map (f g : ℚ → ℚ) : (v.map f).map g = v.map (g ∘ f) := by
  induction v using parts_induction with
  | hnull => rfl
  | hbool b => rfl
  | hstr s => rfl
  | hnum q => rfl
  | harr elements ih =>
    rw [map_arr, map_arr, map_arr, List.map_map]
    exact congrArg Json.arr (List.map_congr_left ih)
  | hobj members ih =>
    rw [map_obj, map_obj, map_obj, List.map_map]
    refine congrArg Json.obj (List.map_congr_left fun m hm => ?_)
    exact congrArg (Prod.mk m.1) (ih m hm)

/-- Only numbers become others. -/
theorem map_eq_str_iff {f : ℚ → ℚ} {text : String} : v.map f = .str text ↔ v = .str text := by
  cases v with
  | str text' => rfl
  | arr elements => rw [Json.map_arr]; simp
  | obj members => rw [Json.map_obj]; simp
  | _ => exact iff_of_false (fun h => (by cases h)) fun h => (by cases h)

theorem map_eq_obj {f : ℚ → ℚ} {members : List (String × Json)} (h : v.map f = .obj members) :
    ∃ members', v = .obj members' ∧ members = members'.map fun m => (m.1, m.2.map f) := by
  cases v with
  | obj members' =>
    rw [Json.map_obj] at h
    exact ⟨members', rfl, (Json.obj.inj h).symm⟩
  | arr elements =>
    rw [Json.map_arr] at h
    cases h
  | _ => cases h

/-! ## Meaning -/

/-- What is meant by a value. -/
inductive Meaning
  | null
  | bool (b : Bool)
  | num (q : ℚ)
  | str (s : String)
  | arr (elements : List Meaning)
  | obj (members : String → Option Meaning)

def meaning : Json → Meaning := fold {
  null := .null
  bool := .bool
  num := .num
  str := .str
  arr := .arr
  obj := fun members => .obj (lastOf members) }

theorem meaning_arr (elements : List Json) : (arr elements).meaning = .arr (elements.map meaning) :=
  fold_arr _ _

theorem meaning_obj (members : List (String × Json)) :
    (obj members).meaning = .obj fun name => (lastOf members name).map meaning := by
  refine (fold_obj _ members).trans (congrArg Meaning.obj (funext fun name => ?_))
  exact lastOf_map _ members name

/-- A number that counts: no member of the same name comes after it. -/
inductive Counts : Json → ℚ → Prop
  | num (q : ℚ) : Counts (.num q) q
  | arr {elements : List Json} {v : Json} {q : ℚ} : v ∈ elements → Counts v q → Counts (.arr elements) q
  | obj {members : List (String × Json)} {name : String} {v : Json} {q : ℚ} :
    lastOf members name = some v → Counts v q → Counts (.obj members) q

theorem mem_of_lastOf {members : List (String × Json)} {name : String} (h : lastOf members name = some v) :
    (name, v) ∈ members := by
  obtain ⟨m, hm, rfl⟩ := Option.map_eq_some_iff.mp h
  have hname : m.1 = name := by simpa using List.find?_some hm
  rw [← hname]
  exact List.mem_reverse.mp (List.mem_of_find?_eq_some hm)

theorem mem_numbers (h : v.Counts q) : q ∈ v.numbers := by
  induction v using parts_induction with
  | hnull => nomatch h
  | hbool b => nomatch h
  | hstr s => nomatch h
  | hnum q' =>
    cases h
    exact List.mem_singleton_self q
  | harr elements ih =>
    cases h with
    | @arr _ v _ hv hcounts =>
      rw [numbers, fold_arr]
      exact List.mem_flatten.mpr ⟨_, List.mem_map_of_mem hv, ih v hv hcounts⟩
  | hobj members ih =>
    cases h with
    | @obj _ name v _ hlast hcounts =>
      have hmem := mem_of_lastOf hlast
      rw [numbers, fold_obj]
      refine List.mem_flatten.mpr ⟨v.numbers, ?_, ih _ hmem hcounts⟩
      exact List.mem_map.mpr ⟨(name, v.numbers), List.mem_map_of_mem hmem, rfl⟩

/-- **Other numbers, the same meaning**: exactly if every number that counts
is left alone. -/
theorem meaning_map_iff {f : ℚ → ℚ} : (v.map f).meaning = v.meaning ↔ ∀ q, v.Counts q → f q = q := by
  induction v using parts_induction with
  | hnull => exact iff_of_true rfl fun q h => nomatch h
  | hbool b => exact iff_of_true rfl fun q h => nomatch h
  | hstr s => exact iff_of_true rfl fun q h => nomatch h
  | hnum q =>
    constructor
    · rintro h _ ⟨⟩
      exact Meaning.num.inj h
    · intro h
      exact congrArg Meaning.num (h q (.num q))
  | harr elements ih =>
    rw [map_arr, meaning_arr, meaning_arr, List.map_map, Meaning.arr.injEq, List.map_inj_left]
    constructor
    · rintro h q ⟨⟩
      rename_i v hv hcounts
      exact (ih v hv).mp (h v hv) q hcounts
    · intro h v hv
      exact (ih v hv).mpr fun q hcounts => h q (.arr hv hcounts)
  | hobj members ih =>
    rw [map_obj, meaning_obj, meaning_obj, Meaning.obj.injEq]
    have hlast : ∀ name, (lastOf (members.map fun m => (m.1, m.2.map f)) name).map meaning =
        (lastOf members name).map fun v => (v.map f).meaning := by
      intro name
      rw [lastOf_map, Option.map_map]
      rfl
    simp only [hlast]
    constructor
    · rintro h q ⟨⟩
      rename_i name v hv hcounts
      have hname := congrFun h name
      rw [hv, Option.map_some, Option.map_some, Option.some.injEq] at hname
      exact (ih _ (mem_of_lastOf hv)).mp hname q hcounts
    · intro h
      funext name
      cases hv : lastOf members name with
      | none => rfl
      | some v =>
        rw [Option.map_some, Option.map_some]
        exact congrArg some ((ih _ (mem_of_lastOf hv)).mpr fun q hcounts => h q (.obj hv hcounts))

/-! ## Objects -/

theorem get_map (f : ℚ → ℚ) (members : Object) (name : String) :
    Object.get (members.map fun m => (m.1, m.2.map f)) name = (Object.get members name).map f := by
  unfold Object.get
  rw [lastOf_map]
  cases lastOf members name <;> rfl

theorem map_set (f : ℚ → ℚ) (members : Object) (name : String) (v : Json) :
    (Object.set members name v).map (fun m => (m.1, m.2.map f)) =
      Object.set (members.map fun m => (m.1, m.2.map f)) name (v.map f) := by
  unfold Object.set
  rw [List.map_append, List.filter_map]
  rfl

theorem lastOf_set (members : Object) (name other : String) (v : Json) :
    lastOf (Object.set members name v) other = if other = name then some v else lastOf members other := by
  unfold lastOf Object.set
  rw [List.reverse_append, List.reverse_singleton, List.singleton_append, List.find?_cons]
  by_cases hname : name = other
  · subst hname
    rw [if_pos rfl, decide_eq_true rfl]
    rfl
  · rw [if_neg (Ne.symm hname), decide_eq_false hname, ← List.filter_reverse, List.find?_filter]
    dsimp only
    refine congrArg (Option.map Prod.snd) (congrArg (List.find? · members.reverse) (funext fun m => ?_))
    by_cases hm : m.1 = other
    · simp [hm, Ne.symm hname]
    · simp [hm]

/-- A member that is given its own value. -/
theorem meaning_set_self {members : Object} {name : String} (h : lastOf members name = some v) :
    (obj (Object.set members name v)).meaning = (obj members).meaning := by
  rw [meaning_obj, meaning_obj]
  refine congrArg Meaning.obj (funext fun other => congrArg (Option.map meaning) ?_)
  rw [lastOf_set]
  split
  · rename_i hother
    rw [hother, h]
  · rfl

/-- **A change inside of values** leaves them of the kind they are, with the
same elements and members but for what is inside of these. -/
structure Inside (f : Json → Json) : Prop where
  null : f .null = .null
  bool : ∀ b, f (.bool b) = .bool b
  num : ∀ q, ∃ q', f (.num q) = .num q'
  str : ∀ text, f (.str text) = .str text
  arr : ∀ elements, f (.arr elements) = .arr (elements.map f)
  obj : ∀ members, ∃ o, f (.obj members) = .obj o ∧ ∀ name, lastOf o name = (lastOf members name).map f

theorem inside_map (f : ℚ → ℚ) : Inside (map f) where
  null := rfl
  bool := fun _ => rfl
  num := fun _ => ⟨_, rfl⟩
  str := fun _ => rfl
  arr := map_arr f
  obj := fun members => ⟨_, map_obj f members, lastOf_map (map f) members⟩

theorem Inside.get {f : Json → Json} (hf : Inside f) {members o : Object}
    (h : ∀ name, lastOf o name = (lastOf members name).map f) (name : String) :
    Object.get o name = f (Object.get members name) := by
  unfold Object.get
  rw [h]
  cases lastOf members name with
  | none => exact hf.null.symm
  | some v => rfl

/-! ## The package `encoding/json` -/

/-- The value with the `float64` that is nearest to each number. -/
def toFloat64 (v : Json) : Json := v.map fun q => (Float64.nearest q).getD 0

/-- What is decoded into an `interface\x7b\x7d`. A number that is out of range is
noted, and an error once all is read. -/
def decode (v : Json) : Option Json :=
  if v.numbers.all fun q => (Float64.nearest q).isSome then some v.toFloat64 else none

/-- The value with every object as a map, that has a name once. -/
def asMaps : Json → Json := fold {
  null := .null
  bool := .bool
  num := .num
  str := .str
  arr := .arr
  obj := fun members => .obj (members.foldl (fun o m => Object.set o m.1 m.2) []) }

/-- What an `interface\x7b\x7d` holds of a value that is decoded into it. -/
def asInterface (v : Json) : Json := v.toFloat64.asMaps

theorem lastOf_foldl_set (members o : Object) (name : String) :
    lastOf (members.foldl (fun o m => Object.set o m.1 m.2) o) name = (lastOf members name).or (lastOf o name) := by
  induction members generalizing o with
  | nil => rfl
  | cons m members ih =>
    have hcons : lastOf (m :: members) name =
        (lastOf members name).or (if name = m.1 then some m.2 else none) := by
      unfold lastOf
      rw [List.reverse_cons, List.find?_append, List.find?_singleton, Option.map_or]
      by_cases hm : m.1 = name
      · simp [hm]
      · simp [hm, Ne.symm hm]
    rw [List.foldl_cons, ih, lastOf_set, hcons, Option.or_assoc]
    congr 1
    split <;> rfl

theorem inside_asInterface : Inside asInterface where
  null := rfl
  bool := fun _ => rfl
  num := fun _ => ⟨_, rfl⟩
  str := fun _ => rfl
  arr := by
    intro elements
    rw [asInterface, toFloat64, map_arr, asMaps, fold_arr, List.map_map]
    rfl
  obj := by
    intro members
    refine ⟨_, by rw [asInterface, toFloat64, map_obj, asMaps, fold_obj], fun name => ?_⟩
    rw [lastOf_foldl_set, lastOf_map, lastOf_map, Option.map_map]
    exact Option.or_none

/-- What is encoded: every number with the fewest digits. -/
def encode (v : Json) : Json := v.map Float64.written

theorem decode_eq_some_iff {w : Json} :
    v.decode = some w ↔ (∀ q ∈ v.numbers, (Float64.nearest q).isSome) ∧ w = v.toFloat64 := by
  rw [decode, ← List.all_eq_true]
  split
  · rename_i hall
    rw [Option.some.injEq, eq_comm]
    exact (and_iff_right hall).symm
  · rename_i hall
    exact iff_of_false (fun h => (by cases h)) fun h => hall h.1

/-- **What is decoded and encoded again** means the same if the numbers that
count are kept. -/
theorem meaning_encode_iff (hrange : ∀ q ∈ v.numbers, (Float64.nearest q).isSome) :
    v.toFloat64.encode.meaning = v.meaning ↔
      ∀ q, v.Counts q → (Float64.nearest q).map Float64.written = some q := by
  rw [toFloat64, encode, map_map, meaning_map_iff]
  refine forall_congr' fun q => imp_congr_right fun hcounts => ?_
  obtain ⟨x, hx⟩ := Option.isSome_iff_exists.mp (hrange q (mem_numbers hcounts))
  rw [Function.comp_apply, hx, Option.map_some, Option.getD_some, Option.some.injEq]

end Json

end Portainer
