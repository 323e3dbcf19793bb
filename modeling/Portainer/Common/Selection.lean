import Mathlib.Tactic.Common
/-!
# Selections — lists made from lists by keeping and leaving out

A pass over a list keeps some of the elements, perhaps changed, in their
order. `Selects` says of the result which elements must be in it and which
may be, and what each has become. Where the two predicates are the same the
result is determined up to the changes. Passes compose (`Selects.trans`).
-/

namespace Portainer

variable {α β γ : Type}

/-- **The second list is selected from the first**, in its order and each
element at most once: an element that must be kept is, one that is kept
may be, and stands there as something `r` relates it to. -/
inductive Selects (must may : α → Prop) (r : α → β → Prop) : List α → List β → Prop
  | nil : Selects must may r [] []
  | keep {a : α} {b : β} {l : List α} {m : List β} (ha : may a) (hb : r a b)
      (rest : Selects must may r l m) : Selects must may r (a :: l) (b :: m)
  | drop {a : α} {l : List α} {m : List β} (ha : ¬ must a) (rest : Selects must may r l m) :
      Selects must may r (a :: l) m

/-- What one turn of a pass gives: nothing, which it must not, or one
element. -/
def Turn (must may : Prop) (r : β → Prop) (kept : List β) : Prop :=
  (kept = [] ∧ ¬ must) ∨ ∃ b, kept = [b] ∧ may ∧ r b

theorem Turn.mono {must must' may may' : Prop} {r : β → Prop} {kept : List β}
    (h : Turn must may r kept) (hmust : must' → must) (hmay : may → may') :
    Turn must' may' r kept :=
  h.imp (fun ⟨hnil, hno⟩ => ⟨hnil, fun h => hno (hmust h)⟩)
    fun ⟨b, hb, h, hr⟩ => ⟨b, hb, hmay h, hr⟩

namespace Selects

variable {must may : α → Prop} {r : α → β → Prop} {l : List α} {m : List β}

/-- One turn, and the rest of the pass. -/
theorem cons {a : α} {kept : List β} (h : Turn (must a) (may a) (r a) kept)
    (rest : Selects must may r l m) : Selects must may r (a :: l) (kept ++ m) := by
  obtain ⟨rfl, hmust⟩ | ⟨b, rfl, hmay, hb⟩ := h
  · exact .drop hmust rest
  · exact .keep hmay hb rest

/-- What is in the result comes from an element that may be kept. -/
theorem mem {b : β} (h : Selects must may r l m) (hb : b ∈ m) : ∃ a ∈ l, may a ∧ r a b := by
  induction h with
  | nil => nomatch hb
  | @keep a c l m ha hc rest ih =>
    obtain rfl | hb := List.mem_cons.mp hb
    · exact ⟨a, List.mem_cons_self, ha, hc⟩
    · obtain ⟨a', ha', hmay, hr⟩ := ih hb
      exact ⟨a', List.mem_cons_of_mem a ha', hmay, hr⟩
  | @drop a l m ha rest ih =>
    obtain ⟨a', ha', hmay, hr⟩ := ih hb
    exact ⟨a', List.mem_cons_of_mem a ha', hmay, hr⟩

/-- **Two passes are one**: what the second sees of an element tells what
is done with the element. -/
theorem trans {n : List γ} {mustᵦ mayᵦ : β → Prop} {s : β → γ → Prop} {may' : α → Prop}
    {q : α → γ → Prop} (h : Selects must may r l m) (h' : Selects mustᵦ mayᵦ s m n)
    (hdrop : ∀ a, ¬ must a → ¬ must' a) (hdrop' : ∀ a b, r a b → ¬ mustᵦ b → ¬ must' a)
    (hkeep : ∀ a b c, may a → r a b → mayᵦ b → s b c → may' a ∧ q a c) :
    Selects must' may' q l n := by
  induction h generalizing n with
  | nil =>
    cases h'
    exact .nil
  | @keep a b l m ha hb rest ih =>
    cases h' with
    | keep hmay hs rest' =>
      obtain ⟨hmay', hq⟩ := hkeep a b _ ha hb hmay hs
      exact .keep hmay' hq (ih rest')
    | drop hmust rest' => exact .drop (hdrop' a b hb hmust) (ih rest')
  | @drop a l m ha rest ih => exact .drop (hdrop a ha) (ih h')

/-- A pass that changes every element. -/
theorem map {l : List α} {f : α → β} (hmay : ∀ a, may a) (hr : ∀ a, r a (f a)) : Selects must may r l (l.map f) := by
  induction l with
  | nil => exact .nil
  | cons a l ih => exact .keep (hmay a) (hr a) ih

/-- A pass that keeps every element as it is. -/
theorem refl {l : List α} (hmay : ∀ a, may a) {r : α → α → Prop} (hr : ∀ a, r a a) :
    Selects must may r l l := by
  have hmap : Selects must may r l (l.map id) := map hmay hr
  rwa [List.map_id] at hmap

end Selects

end Portainer
