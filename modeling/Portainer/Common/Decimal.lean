import Portainer.Common.GoPath
/-!
# Decimal numbers — written and read back

`strconv.Itoa` writes a number and `strconv.Atoi` reads it: a number that
fits into 64 bits comes back.
-/

namespace Portainer

namespace Path

/-- `strconv.Itoa`. -/
def itoa (n : Int) : String := toString n

theorem digits_toDigits (n : ℕ) : digits (Nat.toDigits 10 n) = some n := by
  have hdigits : ∀ c ∈ Nat.toDigits 10 n, c.isDigit = true :=
    fun c hc => Nat.isDigit_of_mem_toDigits (by omega) (by omega) hc
  have hall : (Nat.toDigits 10 n).all Char.isDigit = true := List.all_eq_true.mpr hdigits
  have hvalue : (Nat.toDigits 10 n).foldl (fun n c => 10 * n + (c.toNat - '0'.toNat)) 0 = n := by
    rw [← Nat.ofDigitChars_eq_foldl, Nat.ofDigitChars_ten_toDigits]
  rw [digits, if_neg (by simp [hall]), hvalue]

/-- A number has no sign of its own. -/
theorem head_toDigits {n : ℕ} {c : Char} {p : Path} (h : Nat.toDigits 10 n = c :: p) :
    c ≠ '-' ∧ c ≠ '+' := by
  have hdigit : c.isDigit = true :=
    Nat.isDigit_of_mem_toDigits (by omega) (by omega) (h ▸ List.mem_cons_self)
  constructor
  · rintro rfl
    nomatch hdigit
  · rintro rfl
    nomatch hdigit

theorem toList_itoa (n : Int) : (itoa n).toList =
    if 0 ≤ n then Nat.toDigits 10 n.toNat else '-' :: Nat.toDigits 10 (-n).toNat := by
  rw [itoa, Int.toString_eq_repr, Int.repr_eq_if]
  split
  · exact Nat.toList_repr
  · rw [String.toList_append, Nat.toList_repr]
    rfl

/-- What `Itoa` writes is a name of a file. -/
theorem segment_itoa (n : Int) : Segment (itoa n).toList := by
  have hdigit : ∀ m : ℕ, ∀ c ∈ Nat.toDigits 10 m, c.isDigit = true :=
    fun m c hc => Nat.isDigit_of_mem_toDigits (by omega) (by omega) hc
  have hchars : ∀ c ∈ (itoa n).toList, c ≠ '/' ∧ c ≠ '.' := by
    intro c hc
    have hkind : c.isDigit = true ∨ c = '-' := by
      rw [toList_itoa] at hc
      split at hc
      · exact .inl (hdigit _ c hc)
      · obtain rfl | hc := List.mem_cons.mp hc
        · exact .inr rfl
        · exact .inl (hdigit _ c hc)
    constructor
    · rintro rfl
      exact absurd hkind (by decide)
    · rintro rfl
      exact absurd hkind (by decide)
  refine ⟨?_, fun h => (hchars _ h).1 rfl, fun h => ?_, fun h => ?_⟩
  · rw [toList_itoa]
    split
    · exact Nat.toDigits_ne_nil
    · exact List.cons_ne_nil _ _
  · exact (hchars '.' (h ▸ List.mem_cons_self)).2 rfl
  · exact (hchars '.' (h ▸ List.mem_cons_self)).2 rfl

/-- **What `Itoa` writes `Atoi` reads.** -/
theorem atoi_itoa {n : Int} (hlow : -2 ^ 63 ≤ n) (hhigh : n < 2 ^ 63) : atoi (itoa n).toList = some n := by
  have hfits : (some n).filter (fun n => -2 ^ 63 ≤ n ∧ n < 2 ^ 63) = some n := by
    rw [Option.filter_some, if_pos (by simpa using ⟨hlow, hhigh⟩)]
  rw [toList_itoa]
  by_cases hsign : 0 ≤ n
  · rw [if_pos hsign]
    have hvalue : (n.toNat : Int) = n := Int.toNat_of_nonneg hsign
    have hdigits := digits_toDigits n.toNat
    rcases hlist : Nat.toDigits 10 n.toNat with _ | ⟨c, p⟩
    · exact absurd hlist Nat.toDigits_ne_nil
    · obtain ⟨hminus, hplus⟩ := head_toDigits hlist
      rw [hlist] at hdigits
      simpa [atoi, hminus, hplus, hdigits, hvalue] using hfits
  · rw [if_neg hsign]
    have hvalue : -(-n ⊔ 0) = n := by omega
    simpa [atoi, digits_toDigits, hvalue] using hfits

theorem itoa_injective {m n : Int} (h : itoa m = itoa n) : m = n := by
  have hlist : (itoa m).toList = (itoa n).toList := congrArg String.toList h
  have hread : ∀ a b : ℕ, Nat.toDigits 10 a = Nat.toDigits 10 b → a = b := by
    intro a b hab
    rw [← Nat.ofDigitChars_ten_toDigits (n := a), hab, Nat.ofDigitChars_ten_toDigits]
  rw [toList_itoa, toList_itoa] at hlist
  split at hlist <;> split at hlist
  · have := hread _ _ hlist
    omega
  · exact absurd rfl (head_toDigits hlist).1
  · exact absurd rfl (head_toDigits hlist.symm).1
  · have := hread _ _ (List.cons.inj hlist).2
    omega

end Path

end Portainer
