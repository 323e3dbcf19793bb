import Mathlib.Data.Int.Log
import Mathlib.Data.List.DropRight
import Mathlib.Data.Rat.Floor
/-!
# Float64 — what becomes of a number

A decimal number that is read into a `float64` is rounded to the nearest one,
and the `float64` is written with the fewest digits that read as it again. The
numbers of JavaScript are these, and infinities and `NaN`.
-/

namespace Portainer

namespace Float64

/-- The nearest integer, the even one of two. -/
def roundHalfEven (q : ℚ) : ℤ :=
  if q - ⌊q⌋ < 1 / 2 then ⌊q⌋
  else if 1 / 2 < q - ⌊q⌋ then ⌊q⌋ + 1
  else if 2 ∣ ⌊q⌋ then ⌊q⌋ else ⌊q⌋ + 1

/-- The exponent of the last of 53 bits, not below that of the least
number. -/
def exponent (q : ℚ) : ℤ := max (Int.log 2 |q| - 52) (-1074)

/-- The nearest `float64`; `none` if the number is out of range. -/
def nearest (q : ℚ) : Option ℚ :=
  if q = 0 then some 0
  else
    let x : ℚ := roundHalfEven (q / 2 ^ exponent q) * (2 : ℚ) ^ exponent q
    if |x| < 2 ^ 1024 then some x else none

/-- The closest decimal with a last digit at `10 ^ e` that reads as `x`. -/
def decimalAt (x : ℚ) (e : ℤ) : Option ℚ :=
  let low : ℚ := ⌊x / 10 ^ e⌋ * (10 : ℚ) ^ e
  let high : ℚ := ⌈x / 10 ^ e⌉ * (10 : ℚ) ^ e
  match decide (nearest low = some x), decide (nearest high = some x) with
  | true, true => some (roundHalfEven (x / 10 ^ e) * (10 : ℚ) ^ e)
  | true, false => some low
  | false, true => some high
  | false, false => none

/-- The decimal with the fewest digits, of which seventeen are always
enough. -/
def shortest (x : ℚ) : ℚ :=
  ((List.range 17).findSome? fun digits => decimalAt x (Int.log 10 x - digits)).getD x

/-- The number that a `float64` is written as. -/
def written (x : ℚ) : ℚ := if x < 0 then -shortest (-x) else if x = 0 then 0 else shortest x

example : nearest 9007199254740993 = some 9007199254740992 := by decide +kernel

theorem roundHalfEven_nonneg {q : ℚ} (h : 0 ≤ q) : 0 ≤ roundHalfEven q := by
  have hfloor : 0 ≤ ⌊q⌋ := Int.floor_nonneg.mpr h
  rw [roundHalfEven]
  split
  · exact hfloor
  · split
    · omega
    · split
      · exact hfloor
      · omega

/-- Rounding does not change the sign. -/
theorem nearest_nonneg {q x : ℚ} (h : 0 ≤ q) (hx : nearest q = some x) : 0 ≤ x := by
  rw [nearest] at hx
  split at hx
  · rw [← Option.some.inj hx]
  · dsimp only at hx
    split at hx
    · rw [← Option.some.inj hx]
      have hpow : (0 : ℚ) ≤ 2 ^ exponent q := zpow_nonneg (by norm_num) _
      have hround : (0 : ℚ) ≤ roundHalfEven (q / 2 ^ exponent q) := by
        exact_mod_cast roundHalfEven_nonneg (div_nonneg h hpow)
      exact mul_nonneg hround hpow
    · exact absurd hx.symm (Option.some_ne_none x)

end Float64

/-! ## JavaScript -/

/-- A number of JavaScript. -/
inductive JsNumber where
  | nan
  | infinite (negative : Bool)
  | finite (x : ℚ)

/-- A point and digits, without the zeros at the end. -/
def behindPoint (digits : List Char) : List Char :=
  if digits.rdropWhile (· = '0') = [] then [] else '.' :: digits.rdropWhile (· = '0')

/-- Digits with an exponent, a point behind the first. -/
def scientific (digits : List Char) : List Char :=
  digits.take 1 ++ behindPoint digits.tail ++ 'e' :: '+' :: Nat.toDigits 10 (digits.length - 1)

/-- A whole number as it is written, with an exponent from `1e+21` on. -/
def wholeText (m : ℕ) : List Char :=
  if m < 10 ^ 21 then Nat.toDigits 10 m else scientific (Nat.toDigits 10 m)

namespace JsNumber

/-- The number that a number in a text is read as. -/
def ofRat (q : ℚ) : JsNumber := (Float64.nearest q).elim (.infinite (q < 0)) .finite

/-- What `parseInt` returns for a whole number, or for none. -/
def ofInt (n : Option ℤ) : JsNumber := n.elim .nan fun n => ofRat n

/-- `'' + n` for a whole number. -/
def text : JsNumber → List Char
  | nan => ['N', 'a', 'N']
  | infinite negative => (if negative then ['-'] else []) ++ "Infinity".toList
  | finite x => (if x < 0 then ['-'] else []) ++ wholeText ⌊|Float64.written x|⌋₊

end JsNumber

end Portainer
