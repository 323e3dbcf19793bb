import Mathlib.Tactic.Common
import Mathlib.Algebra.Group.Int.Defs
import Mathlib.Algebra.Group.Nat.Defs
import Mathlib.Data.List.Basic
/-!
# Paging — slices of a list, and integers of 64 bits

A Go slice expression panics on bounds that are not in order, and the
arithmetic that computes the bounds wraps around. Windows of one length,
one after the other, are the beginning of the list.
-/

namespace Portainer

/-- What ends a request without an answer. -/
inductive Panic
  | nilDereference
  | sliceBounds
  deriving DecidableEq, Repr

namespace Paging

/-! ## Integers of 64 bits -/

def minInt : Int := -2 ^ 63

def maxInt : Int := 2 ^ 63 - 1

/-- A sum or difference, as 64 bits hold it. -/
def wrap (n : Int) : Int := Int.bmod n (2 ^ 64)

/-- What `strconv.Atoi` returns for an integer, beside an error where it is
out of range. -/
def clamp (n : Int) : Int := max minInt (min n maxInt)

theorem wrap_of_mem {n : Int} (hmin : minInt ≤ n) (hmax : n ≤ maxInt) : wrap n = n := by
  unfold minInt at hmin
  unfold maxInt at hmax
  rw [wrap, Int.bmod_eq_of_le] <;> omega

/-- Beyond the largest integer come the negative ones. -/
theorem wrap_neg_of_gt {n : Int} (hlow : maxInt < n) (hhigh : n ≤ 2 * maxInt + 1) : wrap n < 0 := by
  unfold maxInt at hlow hhigh
  rw [wrap, Int.bmod_def]
  omega

theorem clamp_of_mem {n : Int} (hmin : minInt ≤ n) (hmax : n ≤ maxInt) : clamp n = n := by
  unfold clamp
  omega

theorem clamp_mem (n : Int) : minInt ≤ clamp n ∧ clamp n ≤ maxInt := by
  have hrange : minInt ≤ maxInt := by decide
  unfold clamp
  omega

/-! ## Slices -/

section Slices

variable {α : Type} {l : List α}

/-- The slice expression `l[low:high]`. -/
def slice (l : List α) (low high : Int) : Except Panic (List α) :=
  if 0 ≤ low ∧ low ≤ high ∧ high ≤ l.length then .ok ((l.take high.toNat).drop low.toNat)
  else .error .sliceBounds

/-- The window of `length` elements from `start` on. -/
def window (start length : ℕ) (l : List α) : List α := (l.drop start).take length

/-- **Windows of one length, one after the other**, are the beginning of
the list. -/
theorem flatten_windows (length n : ℕ) :
    ((List.range n).map fun k => window (k * length) length l).flatten = l.take (n * length) := by
  induction n with
  | zero => rw [Nat.zero_mul, List.take_zero, List.range_zero, List.map_nil, List.flatten_nil]
  | succ n ih =>
    rw [List.range_succ, List.map_append, List.flatten_append, ih, Nat.succ_mul, List.take_add]
    simp only [List.map_cons, List.map_nil, List.flatten_cons, List.flatten_nil, List.append_nil]
    rfl

end Slices

end Paging

end Portainer
