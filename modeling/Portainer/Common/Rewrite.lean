import Mathlib.Tactic.Common
import Mathlib.Data.List.Basic
/-!
# Rewriting — deleting every match of a pattern

What a regular-expression library's replace-all does when the replacement
is empty. The pattern is given by the length of its match at the start of a
list, zero for none. The scan goes from left to right: a match is deleted,
and the scan goes on behind it, so matches never overlap, and text that
comes to stand together by a deletion is not looked at again.
-/

namespace Portainer

variable {α : Type}

/-- The scan, with `n` elements of a match still to delete. -/
def eraseMatchesFrom (m : List α → ℕ) : ℕ → List α → List α
  | _, [] => []
  | 0, a :: l =>
    if m (a :: l) = 0 then a :: eraseMatchesFrom m 0 l
    else eraseMatchesFrom m (m (a :: l) - 1) l
  | n + 1, _ :: l => eraseMatchesFrom m n l

/-- Delete the matches of a pattern. -/
def eraseMatches (m : List α → ℕ) (l : List α) : List α := eraseMatchesFrom m 0 l

/-- The pattern matches nowhere in the list. -/
def Unmatched (m : List α → ℕ) : List α → Prop
  | [] => True
  | a :: l => m (a :: l) = 0 ∧ Unmatched m l

instance (m : List α → ℕ) : DecidablePred (Unmatched m) := go
where
  go : (l : List α) → Decidable (Unmatched m l)
    | [] => .isTrue trivial
    | a :: l => haveI := go l; inferInstanceAs (Decidable (m (a :: l) = 0 ∧ Unmatched m l))

variable {m : List α → ℕ} {a : α} {l : List α}

theorem eraseMatchesFrom_eq_drop (n : ℕ) :
    eraseMatchesFrom m n l = eraseMatches m (l.drop n) := by
  induction l generalizing n with
  | nil => cases n <;> rfl
  | cons a l ih =>
    cases n with
    | zero => rfl
    | succ n => exact ih n

/-- Where the pattern does not match, the element stays. -/
theorem eraseMatches_cons_of_eq_zero (h : m (a :: l) = 0) :
    eraseMatches m (a :: l) = a :: eraseMatches m l := by
  unfold eraseMatches
  rw [eraseMatchesFrom, if_pos h]

/-- Where it does, the match goes and the scan resumes behind it. -/
theorem eraseMatches_cons_of_ne_zero (h : m (a :: l) ≠ 0) :
    eraseMatches m (a :: l) = eraseMatches m ((a :: l).drop (m (a :: l))) := by
  conv_lhs => unfold eraseMatches
  rw [eraseMatchesFrom, if_neg h, eraseMatchesFrom_eq_drop]
  obtain ⟨n, hn⟩ := Nat.exists_eq_succ_of_ne_zero h
  rw [hn]
  rfl

theorem length_eraseMatchesFrom_le (n : ℕ) : (eraseMatchesFrom m n l).length ≤ l.length := by
  induction l generalizing n with
  | nil => cases n <;> exact Nat.le_refl _
  | cons a l ih =>
    cases n with
    | succ n =>
      have := ih n
      simp only [eraseMatchesFrom, List.length_cons]
      omega
    | zero =>
      have hkeep := ih 0
      have hskip := ih (m (a :: l) - 1)
      simp only [eraseMatchesFrom, List.length_cons]
      split
      · simp only [List.length_cons]; omega
      · omega

/-- A deletion makes the list shorter. -/
theorem length_eraseMatches_lt (h : m (a :: l) ≠ 0) :
    (eraseMatches m (a :: l)).length < (a :: l).length := by
  have hle : (eraseMatches m ((a :: l).drop (m (a :: l)))).length
      ≤ ((a :: l).drop (m (a :: l))).length := length_eraseMatchesFrom_le 0
  rw [eraseMatches_cons_of_ne_zero h]
  have := List.length_drop (i := m (a :: l)) (l := a :: l)
  simp only [List.length_cons] at *
  omega

/-- **A list is left as it was exactly when nothing in it matches.** -/
theorem eraseMatches_eq_self_iff : eraseMatches m l = l ↔ Unmatched m l := by
  induction l with
  | nil => exact ⟨fun _ => trivial, fun _ => rfl⟩
  | cons a l ih =>
    by_cases h : m (a :: l) = 0
    · rw [eraseMatches_cons_of_eq_zero h, List.cons.injEq, ih]
      exact ⟨fun hl => ⟨h, hl.2⟩, fun hl => ⟨rfl, hl.2⟩⟩
    · constructor
      · intro heq
        have := length_eraseMatches_lt h
        rw [heq] at this
        omega
      · intro hl
        exact absurd hl.1 h

end Portainer
