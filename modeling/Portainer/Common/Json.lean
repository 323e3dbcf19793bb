import Mathlib.Tactic.Common
import Mathlib.Data.List.Basic
import Mathlib.Data.Rat.Defs
/-!
# JSON values, and decoding them into structs

Values as a parser delivers them, numbers by what they are worth and objects
with their members in the order of the text. Read as a map, an object has the last of the members of one
name, as in Go's package `encoding/json`.

A `Decoder` is what `Unmarshal` does to a variable of one Go type: it reads
a value into what the variable holds already. Names of struct fields are
matched exactly or else up to case, a member that comes twice is read
twice, `null` leaves scalars and structs as they are and empties slices and
maps, and a value of the wrong type is an error.
-/

namespace Portainer

inductive Json
  | null
  | bool (b : Bool)
  | num (q : ℚ)
  | str (s : String)
  | arr (elements : List Json)
  | obj (members : List (String × Json))
  deriving Repr

/-- The last entry for a key. -/
def lastOf {β : Type} (l : List (String × β)) (k : String) : Option β :=
  (l.reverse.find? fun p => p.1 = k).map Prod.snd

/-- A map, with its values sent through `f`, has the images at its keys. -/
theorem lastOf_map {β γ : Type} (f : β → γ) (l : List (String × β)) (k : String) :
    lastOf (l.map fun p => (p.1, f p.2)) k = (lastOf l k).map f := by
  unfold lastOf
  rw [← List.map_reverse, List.find?_map, Option.map_map, Option.map_map]
  rfl

namespace Json

def isNull : Json → Bool
  | null => true
  | _ => false

/-- The members of an object, read as a map. -/
abbrev Object := List (String × Json)

namespace Object

/-- The value of a key, `null` if there is none. -/
def get (o : Object) (k : String) : Json := (lastOf o k).getD .null

/-- Give a key a value. -/
def set (o : Object) (k : String) (v : Json) : Object := o.filter (fun p => p.1 ≠ k) ++ [(k, v)]

/-- Remove a key. -/
def erase (o : Object) (k : String) : Object := o.filter fun p => p.1 ≠ k

theorem get_set_self (o : Object) (k : String) (v : Json) : (o.set k v).get k = v := by
  simp [get, set, lastOf]

theorem get_set_of_ne {o : Object} {k j : String} {v : Json} (h : k ≠ j) :
    (o.set k v).get j = o.get j := by
  have hfind : (o.filter fun p => p.1 ≠ k).reverse.find? (fun p => p.1 = j)
      = o.reverse.find? fun p => p.1 = j := by
    rw [← List.filter_reverse, List.find?_filter]
    congr 1
    funext p
    by_cases hp : p.1 = j
    · simp [hp, Ne.symm h]
    · simp [hp]
  simp only [get, set, lastOf, List.reverse_append, List.reverse_cons, List.reverse_nil,
    List.nil_append, List.singleton_append, List.find?_cons]
  rw [hfind]
  simp [h]

end Object

/-! ## Decoders -/

/-- What a variable of type `α` holds after a value is read into it. `none`
is a value of the wrong type. -/
abbrev Decoder (α : Type) := α → Json → Option α

/-- A slice, with the elements its array still holds beyond its length. A
slice that is read again reuses them. -/
structure Slice (α : Type) where
  elements : List α := []
  stale : List α := []
  deriving DecidableEq, Repr

/-- Two names of struct fields are the same up to case: ASCII case, and the
two other letters that fold to an ASCII one. -/
def foldName (s : String) : List Char :=
  s.toList.map fun c => if c = 'ſ' then 's' else if c = '\u212a' then 'k' else c.toLower

namespace Decoder

variable {α σ : Type}

def bool : Decoder Bool
  | b, .null => some b
  | _, .bool b => some b
  | _, _ => none

def string : Decoder String
  | s, .null => some s
  | _, .str s => some s
  | _, _ => none

/-- A value of any type, into an `interface{}`. -/
def any : Decoder Json := fun _ v => some v

/-- Element by element, each into the one that stands at its place. -/
def elements (d : Decoder α) (zero : α) : List α → List Json → Option (List α)
  | _, [] => some []
  | old, v :: vs => do
    let a ← d (old.headD zero) v
    let as ← elements d zero old.tail vs
    some (a :: as)

def slice (d : Decoder α) (zero : α) : Decoder (Slice α)
  | _, .null => some {}
  | _, .arr [] => some {}
  | s, .arr vs => do
    let as ← elements d zero (s.elements ++ s.stale) vs
    some { elements := as, stale := (s.elements ++ s.stale).drop vs.length }
  | _, _ => none

/-- A `map[string]interface{}`. -/
def map : Decoder Object
  | _, .null => some []
  | o, .obj members => some (members.foldl (fun o p => o.set p.1 p.2) o)
  | _, _ => none

/-- The field a member is read into: the one of its name, or else one whose
name is the same up to case. -/
def pick (fields : List (String × Decoder σ)) (name : String) : Option (Decoder σ) :=
  ((fields.find? fun f => f.1 = name).or
    (fields.find? fun f => foldName f.1 = foldName name)).map Prod.snd

/-- One member of an object. A name that is no field is skipped. -/
def member (fields : List (String × Decoder σ)) (s : σ) (p : String × Json) : Option σ :=
  match pick fields p.1 with
  | none => some s
  | some d => d s p.2

def struct (fields : List (String × Decoder σ)) : Decoder σ
  | s, .null => some s
  | s, .obj members => members.foldlM (member fields) s
  | _, _ => none

/-- A decoder for a part of a struct. -/
def field (get : σ → α) (set : σ → α → σ) (d : Decoder α) : Decoder σ :=
  fun s v => (d (get s) v).map (set s)

end Decoder

end Json

end Portainer
