import Mathlib.Tactic.Common
import Mathlib.Data.List.Basic
import Mathlib.Data.List.Count
import Mathlib.Data.List.Nodup
import Mathlib.Data.List.Perm.Lattice
import Mathlib.Data.Prod.Lex
import Mathlib.Data.String.Basic
import Mathlib.Logic.Function.Basic
/-!
# Collections — finding, sorting and grouping

The operations of `lodash` on collections. An element that alone satisfies a
test is the one that is found; `_.sortBy` is stable; a list that `_.groupBy`
groups by a text becomes an object with one property for each group, and
`groupBy_perm` says that no element is lost. The properties of an object come
in an order of their own: first those that are indices of an array, by their
number, then the others as they were set.
-/

namespace Portainer

/-! ## Finding what is unique -/

section Find

variable {α β : Type} {p : α → Bool} {l : List α} {a : α}

/-- An element that alone satisfies a test is found. -/
theorem find?_eq_some_of_unique (ha : a ∈ l) (hpa : p a = true) (hunique : ∀ b ∈ l, p b = true → b = a) :
    l.find? p = some a := by
  cases hfound : l.find? p with
  | none => exact absurd hpa (List.find?_eq_none.mp hfound a ha)
  | some b => rw [hunique b (List.mem_of_find?_eq_some hfound) (List.find?_some hfound)]

/-- **An element is found by its key**, where no two have the same. -/
theorem find?_key [DecidableEq β] {key : α → β} (hnodup : (l.map key).Nodup) (ha : a ∈ l) :
    l.find? (fun b => decide (key b = key a)) = some a := by
  refine find?_eq_some_of_unique ha (decide_eq_true rfl) ?_
  intro b hb hkey
  exact List.inj_on_of_nodup_map hnodup hb ha (of_decide_eq_true hkey)

/-- A key that some element has is found. -/
theorem exists_find?_key [DecidableEq β] {key : α → β} {k : β} (h : ∃ b ∈ l, key b = k) :
    ∃ b ∈ l, l.find? (fun b => decide (key b = k)) = some b ∧ key b = k := by
  obtain ⟨b, hb, hkey⟩ := h
  cases hfound : l.find? (fun b => decide (key b = k)) with
  | none => exact absurd (decide_eq_true hkey) (List.find?_eq_none.mp hfound b hb)
  | some c => exact ⟨c, List.mem_of_find?_eq_some hfound, rfl, by simpa using List.find?_some hfound⟩

end Find

/-! ## Sorting by a key -/

section SortBy

variable {α κ : Type} [LinearOrder κ] {key : α → κ} {l : List α} {a : α}

/-- `_.sortBy`, which is stable. -/
def sortBy (key : α → κ) (l : List α) : List α := l.mergeSort fun a b => decide (key a ≤ key b)

theorem sortBy_perm (key : α → κ) (l : List α) : (sortBy key l).Perm l := List.mergeSort_perm l _

theorem mem_sortBy : a ∈ sortBy key l ↔ a ∈ l := (sortBy_perm key l).mem_iff

theorem pairwise_sortBy (key : α → κ) (l : List α) : (sortBy key l).Pairwise fun a b => key a ≤ key b := by
  have htrans : ∀ a b c : α, decide (key a ≤ key b) = true → decide (key b ≤ key c) = true →
      decide (key a ≤ key c) = true :=
    fun a b c hab hbc => decide_eq_true (le_trans (of_decide_eq_true hab) (of_decide_eq_true hbc))
  have htotal : ∀ a b : α, (decide (key a ≤ key b) || decide (key b ≤ key a)) = true :=
    fun a b => by simpa using le_total (key a) (key b)
  exact (List.pairwise_mergeSort htrans htotal l).imp of_decide_eq_true

/-- **The first that is found** in the sorted list has the least key. -/
theorem le_of_find?_sortBy {p : α → Bool} (h : (sortBy key l).find? p = some a) :
    ∀ b ∈ l, p b = true → key a ≤ key b := by
  intro b hb hpb
  obtain ⟨-, before, after, hsplit, hbefore⟩ := List.find?_eq_some_iff_append.mp h
  have hsorted := pairwise_sortBy key l
  have hmem : b ∈ sortBy key l := mem_sortBy.mpr hb
  rw [hsplit] at hsorted hmem
  obtain hmem | hmem := List.mem_append.mp hmem
  · have hnot := hbefore b hmem
    rw [hpb] at hnot
    nomatch hnot
  · obtain rfl | hmem := List.mem_cons.mp hmem
    · exact le_rfl
    · exact List.rel_of_pairwise_cons (List.pairwise_append.mp hsorted).2.1 hmem

/-- The order of the keys is that of another measure exactly if the sorted list
is in the order of the latter. -/
theorem pairwise_sortBy_iff {m : α → ℕ} (hm : ∀ a ∈ l, ∀ b ∈ l, key a = key b → m a ≤ m b) :
    (sortBy key l).Pairwise (fun a b => m a ≤ m b) ↔ ∀ a ∈ l, ∀ b ∈ l, key a < key b → m a ≤ m b := by
  constructor
  · intro hpairwise a ha b hb hlt
    -- the one with the lesser key comes first
    obtain ⟨i, hi, rfl⟩ := List.getElem_of_mem ((sortBy_perm key l).mem_iff.mpr ha)
    obtain ⟨j, hj, rfl⟩ := List.getElem_of_mem ((sortBy_perm key l).mem_iff.mpr hb)
    rw [List.pairwise_iff_getElem] at hpairwise
    have hsorted := List.pairwise_iff_getElem.mp (pairwise_sortBy key l)
    rcases Nat.lt_trichotomy i j with hij | rfl | hij
    · exact hpairwise i j hi hj hij
    · exact absurd hlt (lt_irrefl _)
    · exact absurd (hsorted j i hj hi hij) (not_le.mpr hlt)
  · intro hall
    refine (pairwise_sortBy key l).imp_of_mem fun {a b} ha hb hle => ?_
    rw [mem_sortBy] at ha hb
    rcases hle.lt_or_eq with hlt | heq
    · exact hall a ha b hb hlt
    · exact hm a ha b hb heq

end SortBy

/-! ## Grouping -/

/-- A key that is an index of an array: these come first among the
properties of an object. -/
def isIndex (key : String) : Bool :=
  key.toList ≠ [] && key.toList.all Char.isDigit && (key = "0" || key.toList.head? ≠ some '0') &&
    Nat.ofDigitChars 10 key.toList 0 < 4294967295

/-- The order of the properties of an object. -/
def propertyOrder (keys : List String) : List String :=
  ((keys.filter isIndex).mergeSort fun k k' => Nat.ofDigitChars 10 k.toList 0 ≤ Nat.ofDigitChars 10 k'.toList 0) ++
    keys.filter fun key => !isIndex key

section GroupBy

variable {α : Type} {f : α → String} {l : List α} {g : String}

/-- The groups of a list, in the order of the properties. -/
def groupNames (f : α → String) (l : List α) : List String := propertyOrder (l.map f).eraseDups

/-- `_.groupBy`. -/
def groupBy (f : α → String) (l : List α) : List (String × List α) :=
  (groupNames f l).map fun g => (g, l.filter (f · = g))

theorem propertyOrder_perm (keys : List String) : (propertyOrder keys).Perm keys := by
  unfold propertyOrder
  have hrest : (keys.filter fun key => !isIndex key) = keys.filter fun key => !decide (isIndex key = true) :=
    List.filter_congr fun key _ => by simp
  have hindex : keys.filter isIndex = keys.filter fun key => decide (isIndex key = true) :=
    List.filter_congr fun key _ => by simp
  refine ((List.mergeSort_perm _ _).append_right _).trans ?_
  rw [hrest, hindex]
  exact List.filter_append_perm _ keys

theorem nodup_eraseDups {β : Type} [DecidableEq β] : ∀ l : List β, l.eraseDups.Nodup := by
  intro l
  induction hn : l.length using Nat.strongRecOn generalizing l with
  | _ n ih =>
    cases l with
    | nil => exact List.nodup_nil
    | cons a l =>
      rw [List.eraseDups_cons, List.nodup_cons, List.mem_eraseDups]
      refine ⟨fun hmem => ?_, ih _ ?_ _ rfl⟩
      · have hne := (List.mem_filter.mp hmem).2
        simp at hne
      · have hle : (l.filter fun b => !b == a).length ≤ l.length := List.length_filter_le _ l
        rw [List.length_cons] at hn
        omega

theorem nodup_groupNames : (groupNames f l).Nodup :=
  (propertyOrder_perm _).nodup_iff.mpr (nodup_eraseDups _)

theorem mem_groupNames : g ∈ groupNames f l ↔ ∃ a ∈ l, f a = g := by
  rw [groupNames, (propertyOrder_perm _).mem_iff, List.mem_eraseDups, List.mem_map]

/-- The groups hold what the list holds: by induction on the names, each of
which takes its elements out of what is left. -/
theorem flatMap_filter_perm {κ : Type} [DecidableEq κ] {f : α → κ} {names : List κ} (hnodup : names.Nodup)
    (hall : ∀ a ∈ l, f a ∈ names) : (names.flatMap fun g => l.filter (f · = g)).Perm l := by
  induction names generalizing l with
  | nil =>
    cases l with
    | nil => exact .nil
    | cons a l => exact absurd (hall a List.mem_cons_self) List.not_mem_nil
  | cons g names ih =>
    obtain ⟨hg, hnodup⟩ := List.nodup_cons.mp hnodup
    have hrest : (names.flatMap fun g' => l.filter (f · = g')) =
        names.flatMap fun g' => (l.filter fun a => !decide (f a = g)).filter (f · = g') := by
      refine List.flatMap_congr fun g' hg' => ?_
      rw [List.filter_filter]
      refine List.filter_congr fun a _ => ?_
      by_cases ha : f a = g'
      · have hne : f a ≠ g := fun h => hg (h ▸ ha ▸ hg')
        rw [decide_eq_true ha, decide_eq_false hne]
        rfl
      · rw [decide_eq_false ha]
        rfl
    rw [List.flatMap_cons, hrest]
    refine List.Perm.trans (List.Perm.append_left _ (ih hnodup ?_)) (List.filter_append_perm _ l)
    intro a ha
    obtain ⟨ha, hne⟩ := List.mem_filter.mp ha
    have hne' : f a ≠ g := by simpa using hne
    exact (List.mem_cons.mp (hall a ha)).resolve_left hne'

/-- **Grouping loses nothing.** -/
theorem groupBy_perm (f : α → String) (l : List α) : ((groupBy f l).flatMap Prod.snd).Perm l := by
  rw [groupBy, List.flatMap_map]
  exact flatMap_filter_perm nodup_groupNames fun a ha => mem_groupNames.mpr ⟨a, ha, rfl⟩

end GroupBy

/-! ## The properties of an object, set one after the other -/

section Properties

/-- The properties of an object. -/
abbrev Properties := List (String × String)

/-- An assignment to a property. -/
def setProperty (o : Properties) (name value : String) : Properties :=
  if name = "__proto__" then o
  else if name ∈ o.map Prod.fst then o.map fun p => if p.1 = name then (name, value) else p
  else o ++ [(name, value)]

variable {o l : Properties} {keep : String × String → Bool}

/-- **Properties that are set one after the other**: those that are kept, but
`__proto__`. -/
theorem foldl_setProperty (hnodup : ((o ++ l).map Prod.fst).Nodup) :
    l.foldl (fun o p => if keep p then setProperty o p.1 p.2 else o) o =
      o ++ l.filter fun p => keep p && p.1 ≠ "__proto__" := by
  induction l generalizing o with
  | nil => exact (List.append_nil o).symm
  | cons p l ih =>
    have hmove : o ++ p :: l = (o ++ [p]) ++ l := by simp
    have hrest : ((o ++ l).map Prod.fst).Nodup :=
      hnodup.sublist ((List.Sublist.append_left (List.sublist_cons_self p l) o).map Prod.fst)
    have hnew : p.1 ∉ o.map Prod.fst := by
      intro hmem
      rw [List.map_append, List.nodup_append] at hnodup
      exact hnodup.2.2 _ hmem _ List.mem_cons_self rfl
    rw [List.foldl_cons]
    by_cases hkeep : keep p = true
    · by_cases hproto : p.1 = "__proto__"
      · rw [if_pos hkeep, setProperty, if_pos hproto, ih hrest,
          List.filter_cons_of_neg (by simp [hproto])]
      · rw [if_pos hkeep, setProperty, if_neg hproto, if_neg hnew, ih (hmove ▸ hnodup),
          List.filter_cons_of_pos (by simp [hkeep, hproto]), List.append_assoc, List.singleton_append]
    · rw [if_neg hkeep, ih hrest, List.filter_cons_of_neg (by simp [hkeep])]

/-- Nothing is lost exactly if all is kept. -/
theorem filter_perm_iff {α : Type} {l : List α} {p : α → Bool} : (l.filter p).Perm l ↔ ∀ a ∈ l, p a = true := by
  constructor
  · intro hperm
    exact List.filter_eq_self.mp (List.filter_sublist.eq_of_length hperm.length_eq)
  · intro hall
    rw [List.filter_eq_self.mpr hall]

end Properties

/-! ## Dealing: lists that are taken from by key -/

section Dealing

variable {κ β : Type} [DecidableEq κ]

/-- What the keys take, and what is left; nothing if a list runs out. -/
def deal (stock : κ → List β) : List κ → Option (List β × (κ → List β))
  | [] => some ([], stock)
  | k :: keys =>
    match stock k with
    | [] => none
    | b :: rest => (deal (Function.update stock k rest) keys).map fun p => (b :: p.1, p.2)

variable {stock : κ → List β} {keys : List κ}

/-- **The dealing**: it succeeds if each list is long enough, and each key has
taken the first elements of its list. -/
theorem deal_spec (h : ∀ k, keys.count k ≤ (stock k).length) :
    ∃ dealt, deal stock keys = some (dealt, fun k => (stock k).drop (keys.count k)) ∧ dealt.length = keys.length ∧
      ∀ k, ((keys.zip dealt).filter (·.1 = k)).map Prod.snd = (stock k).take (keys.count k) := by
  induction keys generalizing stock with
  | nil => exact ⟨[], rfl, rfl, fun k => rfl⟩
  | cons key keys ih =>
    have hne : stock key ≠ [] := by
      intro hnil
      have hle := h key
      rw [hnil, List.count_cons_self] at hle
      exact absurd hle (Nat.not_succ_le_zero _)
    obtain ⟨b, rest, hstock⟩ := List.exists_cons_of_ne_nil hne
    have hrest : ∀ k, keys.count k ≤ (Function.update stock key rest k).length := by
      intro k
      have hle := h k
      by_cases hk : k = key
      · subst hk
        rw [List.count_cons_self, hstock, List.length_cons] at hle
        rw [Function.update_self]
        omega
      · rw [List.count_cons_of_ne (Ne.symm hk)] at hle
        rw [Function.update_of_ne hk]
        exact hle
    obtain ⟨dealt, hdeal, hlength, htaken⟩ := ih hrest
    refine ⟨b :: dealt, ?_, by rw [List.length_cons, List.length_cons, hlength], fun k => ?_⟩
    · rw [deal, hstock]
      dsimp only
      rw [hdeal]
      refine congrArg some (Prod.ext rfl (funext fun k => ?_))
      by_cases hk : k = key
      · subst hk
        show (Function.update stock k rest k).drop (keys.count k) = (stock k).drop ((k :: keys).count k)
        rw [Function.update_self, List.count_cons_self, hstock, List.drop_succ_cons]
      · show (Function.update stock key rest k).drop (keys.count k) = (stock k).drop ((key :: keys).count k)
        rw [Function.update_of_ne hk, List.count_cons_of_ne (Ne.symm hk)]
    · rw [List.zip_cons_cons]
      by_cases hk : k = key
      · subst hk
        rw [List.filter_cons_of_pos (by simp), List.map_cons, htaken, Function.update_self, List.count_cons_self,
          hstock, List.take_succ_cons]
      · rw [List.filter_cons_of_neg (by simpa using fun h => hk h.symm), htaken, Function.update_of_ne hk,
          List.count_cons_of_ne (Ne.symm hk)]

end Dealing

end Portainer
