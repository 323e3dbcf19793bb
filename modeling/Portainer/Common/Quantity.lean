import Mathlib.Algebra.Order.Field.Basic
import Mathlib.Algebra.Order.Field.Rat
import Mathlib.Tactic.Linarith
import Mathlib.Tactic.NormNum
import Mathlib.Tactic.Positivity
import Portainer.Common.Float64
import Portainer.Common.Text
/-!
# Quantities — a decimal number and a suffix

The quantities of Kubernetes: a decimal number, with a sign or without, and a
suffix that is a power of ten or of 1024. `parseInt` reads the digits at the
start of a text; `number_eq_whole_iff` says when these are the quantity.
-/

namespace Portainer

/-! ## Digits -/

/-- The number that digits stand for. -/
def digitsValue (digits : List Char) : ℕ := Nat.ofDigitChars 10 digits 0

variable {digits : List Char}

theorem digitsValue_cons (c : Char) (digits : List Char) :
    digitsValue (c :: digits) = 10 ^ digits.length * (c.toNat - '0'.toNat) + digitsValue digits := by
  rw [digitsValue, digitsValue, Nat.ofDigitChars_cons, Nat.ofDigitChars_eq_ofDigitChars_zero, Nat.mul_zero,
    Nat.zero_add]

theorem toNat_isDigit {c : Char} (h : c.isDigit = true) : 48 ≤ c.toNat ∧ c.toNat ≤ 57 := Char.isDigit_iff_toNat.mp h

theorem digitsValue_lt (h : ∀ c ∈ digits, c.isDigit = true) : digitsValue digits < 10 ^ digits.length := by
  induction digits with
  | nil => exact Nat.one_pos
  | cons c digits ih =>
    have hrest := ih fun d hd => h d (List.mem_cons_of_mem c hd)
    have hc := toNat_isDigit (h c List.mem_cons_self)
    have hle : c.toNat - '0'.toNat ≤ 9 := by
      show c.toNat - 48 ≤ 9
      omega
    rw [digitsValue_cons, List.length_cons, Nat.pow_succ]
    have hmul := Nat.mul_le_mul_left (10 ^ digits.length) hle
    omega

/-- A number is zero if its digits are. -/
theorem digitsValue_eq_zero_iff (h : ∀ c ∈ digits, c.isDigit = true) :
    digitsValue digits = 0 ↔ ∀ c ∈ digits, c = '0' := by
  induction digits with
  | nil => exact iff_of_true rfl (List.forall_mem_nil _)
  | cons c digits ih =>
    have hc := toNat_isDigit (h c List.mem_cons_self)
    have hpos : 0 < 10 ^ digits.length := Nat.pow_pos (by omega)
    rw [digitsValue_cons, Nat.add_eq_zero_iff, ih fun d hd => h d (List.mem_cons_of_mem c hd), List.forall_mem_cons,
      Nat.mul_eq_zero]
    refine and_congr_left fun _ => ⟨fun hzero => ?_, fun heq => .inr (by rw [heq]; rfl)⟩
    have hnat : c.toNat - 48 = 0 := hzero.resolve_left (by omega)
    exact Char.toNat_inj.mp (show c.toNat = 48 by omega)

/-! ## Quantities -/

inductive Suffix where
  | nano | micro | milli | none
  | kilo | mega | giga | tera | peta | exa
  | kibi | mebi | gibi | tebi | pebi | exbi
deriving DecidableEq

def Suffix.symbol : Suffix → List Char
  | nano => ['n']
  | micro => ['u']
  | milli => ['m']
  | none => []
  | kilo => ['k']
  | mega => ['M']
  | giga => ['G']
  | tera => ['T']
  | peta => ['P']
  | exa => ['E']
  | kibi => ['K', 'i']
  | mebi => ['M', 'i']
  | gibi => ['G', 'i']
  | tebi => ['T', 'i']
  | pebi => ['P', 'i']
  | exbi => ['E', 'i']

def Suffix.factor : Suffix → ℚ
  | nano => 1 / 10 ^ 9
  | micro => 1 / 10 ^ 6
  | milli => 1 / 10 ^ 3
  | none => 1
  | kilo => 10 ^ 3
  | mega => 10 ^ 6
  | giga => 10 ^ 9
  | tera => 10 ^ 12
  | peta => 10 ^ 15
  | exa => 10 ^ 18
  | kibi => 2 ^ 10
  | mebi => 2 ^ 20
  | gibi => 2 ^ 30
  | tebi => 2 ^ 40
  | pebi => 2 ^ 50
  | exbi => 2 ^ 60

/-- **A quantity**, as it is written: digits, perhaps a point and more digits,
and a suffix. -/
structure Quantity where
  plus : Bool := false
  whole : List Char
  fraction : Option (List Char) := none
  suffix : Suffix := .none
  isDigit_whole : ∀ c ∈ whole, c.isDigit = true
  isDigit_fraction : ∀ c ∈ fraction.getD [], c.isDigit = true
  ne_nil : whole ≠ [] ∨ fraction.getD [] ≠ []

namespace Quantity

variable {q : Quantity}

/-- What stands behind the whole digits. -/
def tail (q : Quantity) : List Char :=
  (match q.fraction with
    | some digits => '.' :: digits
    | none => []) ++ q.suffix.symbol

def text (q : Quantity) : List Char := (if q.plus then ['+'] else []) ++ q.whole ++ q.tail

/-- The number without the suffix. -/
def number (q : Quantity) : ℚ :=
  digitsValue q.whole + digitsValue (q.fraction.getD []) / 10 ^ (q.fraction.getD []).length

def value (q : Quantity) : ℚ := q.number * q.suffix.factor

end Quantity

/-! ## The digits at the start -/

/-- `parseInt(s, 10)`; nothing stands for `NaN`. -/
def parseInt (s : List Char) : Option ℤ :=
  let trimmed := s.dropWhile JsText.isBlank
  let negative := trimmed.head? = some '-'
  let unsigned := if trimmed.head? = some '-' ∨ trimmed.head? = some '+' then trimmed.tail else trimmed
  let digits := unsigned.takeWhile Char.isDigit
  if digits = [] then none
  else some (if negative then -(digitsValue digits : ℤ) else digitsValue digits)

/-- What can follow the digits: nothing that goes on with them. -/
def Ends (rest : List Char) : Prop :=
  ∀ c ∈ rest.head?, c.isDigit = false ∧ JsText.isBlank c = false ∧ c ≠ '-' ∧ c ≠ '+'

theorem takeWhile_digits {rest : List Char} (hdigits : ∀ c ∈ digits, c.isDigit = true) (hrest : Ends rest) :
    (digits ++ rest).takeWhile Char.isDigit = digits := by
  rw [List.takeWhile_append_of_pos hdigits]
  cases rest with
  | nil => exact List.append_nil digits
  | cons c rest =>
    obtain ⟨hc, -⟩ := hrest c rfl
    rw [List.takeWhile_cons_of_neg (by rw [hc]; exact Bool.false_ne_true), List.append_nil]

theorem isBlank_of_isDigit {c : Char} (h : c.isDigit = true) : JsText.isBlank c = false :=
  JsText.isBlank_eq_false (by decide) h

/-- **Digits are read**, with a sign or without, if there are any. -/
theorem parseInt_digits {plus : Bool} {rest : List Char} (hdigits : ∀ c ∈ digits, c.isDigit = true)
    (hrest : Ends rest) :
    parseInt ((if plus then ['+'] else []) ++ digits ++ rest) =
      (if digits = [] then none else some (digitsValue digits : ℤ) : Option ℤ) := by
  cases plus with
  | true =>
    have htake := takeWhile_digits hdigits hrest
    show (if (digits ++ rest).takeWhile Char.isDigit = [] then none
      else some (digitsValue ((digits ++ rest).takeWhile Char.isDigit) : ℤ)) = _
    rw [htake]
  | false =>
    show parseInt (digits ++ rest) = _
    -- the text begins with a digit or with what can follow
    have hhead : ∀ c ∈ (digits ++ rest).head?, JsText.isBlank c = false ∧ c ≠ '-' ∧ c ≠ '+' := by
      intro c hc
      cases digits with
      | nil => exact (hrest c hc).2
      | cons d digits =>
        obtain rfl : d = c := Option.some.inj hc
        have hd := hdigits d List.mem_cons_self
        refine ⟨isBlank_of_isDigit hd, ?_, ?_⟩ <;> rintro rfl <;> exact absurd hd (by decide)
    have hdrop : (digits ++ rest).dropWhile JsText.isBlank = digits ++ rest := by
      cases htext : digits ++ rest with
      | nil => rfl
      | cons c text =>
        rw [htext] at hhead
        rw [List.dropWhile_cons_of_neg (by rw [(hhead c rfl).1]; exact Bool.false_ne_true)]
    have hminus : (digits ++ rest).head? ≠ some '-' := fun h => (hhead '-' h).2.1 rfl
    have hplus : (digits ++ rest).head? ≠ some '+' := fun h => (hhead '+' h).2.2 rfl
    rw [parseInt, hdrop, if_neg (not_or.mpr ⟨hminus, hplus⟩), takeWhile_digits hdigits hrest, if_neg hminus]

namespace Quantity

variable {q : Quantity}

theorem ends_tail (q : Quantity) : Ends q.tail := by
  rw [tail]
  cases q.fraction with
  | some digits =>
    rintro c ⟨⟩
    decide
  | none =>
    rw [List.nil_append]
    cases q.suffix <;> rintro c ⟨⟩ <;> decide

theorem parseInt_text (q : Quantity) :
    parseInt q.text = (if q.whole = [] then none else some (digitsValue q.whole : ℤ) : Option ℤ) :=
  parseInt_digits q.isDigit_whole q.ends_tail

/-- Nothing but zeros stands behind the point, and what stands before it is
read. -/
def IsWhole (q : Quantity) : Prop := q.whole ≠ [] ∧ ∀ c ∈ q.fraction.getD [], c = '0'

/-- A quantity is no smaller than its whole digits, and smaller than the next
number. -/
theorem number_bounds (q : Quantity) :
    ((digitsValue q.whole : ℕ) : ℚ) ≤ q.number ∧ q.number < digitsValue q.whole + 1 := by
  have hlt : ((digitsValue (q.fraction.getD []) : ℕ) : ℚ) < 10 ^ (q.fraction.getD []).length := by
    exact_mod_cast digitsValue_lt q.isDigit_fraction
  have hpos : (0 : ℚ) < 10 ^ (q.fraction.getD []).length := by positivity
  have hnonneg : (0 : ℚ) ≤ digitsValue (q.fraction.getD []) / 10 ^ (q.fraction.getD []).length := by positivity
  have hone : (digitsValue (q.fraction.getD []) : ℚ) / 10 ^ (q.fraction.getD []).length < 1 := (div_lt_one hpos).mpr hlt
  rw [number]
  constructor <;> linarith

theorem number_eq_whole_iff (q : Quantity) :
    ((digitsValue q.whole : ℕ) : ℚ) = q.number ↔ ∀ c ∈ q.fraction.getD [], c = '0' := by
  rw [number, ← digitsValue_eq_zero_iff q.isDigit_fraction, left_eq_add, div_eq_zero_iff,
    or_iff_left (pow_ne_zero _ (by norm_num)), Nat.cast_eq_zero]

end Quantity

/-! ## Exponents -/

/-- A decimal exponent, which stands in the place of a suffix. -/
structure Exponent where
  upper : Bool := false
  sign : Option Bool := none
  digits : List Char
  isDigit_digits : ∀ c ∈ digits, c.isDigit = true
  ne_nil : digits ≠ []

namespace Exponent

/-- `true` is the sign `-`. -/
def text (e : Exponent) : List Char :=
  (if e.upper then 'E' else 'e') :: (e.sign.toList.map (fun negative => if negative then '-' else '+') ++ e.digits)

def factor (e : Exponent) : ℚ :=
  if e.sign = some true then (10 ^ digitsValue e.digits)⁻¹ else 10 ^ digitsValue e.digits

end Exponent

/-- **A quantity with a suffix or an exponent**, as Kubernetes reports it. -/
structure Amount where
  quantity : Quantity
  exponent : Option Exponent := none
  suffix_eq_none : ∀ e ∈ exponent, quantity.suffix = .none

namespace Amount

variable {a : Amount}

/-- What stands behind the whole digits. -/
def rest (a : Amount) : List Char := a.quantity.tail ++ a.exponent.elim [] Exponent.text

def text (a : Amount) : List Char := (if a.quantity.plus then ['+'] else []) ++ a.quantity.whole ++ a.rest

def value (a : Amount) : ℚ := a.quantity.value * a.exponent.elim 1 Exponent.factor

/-- The text is that of an amount of this value. -/
def Denotes (t : List Char) (v : ℚ) : Prop := ∃ a : Amount, a.text = t ∧ a.value = v

end Amount

/-- The suffix of one letter. -/
def Suffix.ofLetter : Char → Option Suffix
  | 'n' => some nano
  | 'u' => some micro
  | 'm' => some milli
  | 'k' => some kilo
  | 'M' => some mega
  | 'G' => some giga
  | 'T' => some tera
  | 'P' => some peta
  | 'E' => some exa
  | _ => Option.none

theorem Suffix.ofLetter_eq_some_iff {s : Suffix} {c : Char} : ofLetter c = some s ↔ s.symbol = [c] := by
  constructor
  · intro h
    unfold ofLetter at h
    split at h
    all_goals first
      | (obtain rfl := Option.some.inj h; rfl)
      | (exact absurd h (by simp))
  · cases s
    all_goals
      intro h
      first
        | (obtain rfl := (List.cons.inj h).1; rfl)
        | (exact absurd h (by simp [symbol]))

namespace Amount

variable {a : Amount} {ds rest : List Char} {c : Char}

theorem ends_rest (a : Amount) : Ends a.rest := by
  intro c hc
  rw [rest, List.head?_append] at hc
  cases htail : a.quantity.tail.head? with
  | some d =>
    rw [htail] at hc
    obtain rfl : d = c := Option.some.inj hc
    exact a.quantity.ends_tail d htail
  | none =>
    rw [htail] at hc
    cases hexponent : a.exponent with
    | none =>
      rw [hexponent] at hc
      cases hc
    | some e =>
      rw [hexponent] at hc
      obtain rfl : (if e.upper then 'E' else 'e') = c := Option.some.inj hc
      cases e.upper <;> decide

/-- **Digits at the start of a text** are the whole digits of the amount. -/
theorem of_text_eq (hdigits : ∀ c ∈ ds, c.isDigit = true) (hne : ds ≠ []) (hrest : ∀ c ∈ rest.head?, c.isDigit = false)
    (h : a.text = ds ++ rest) : a.quantity.whole = ds ∧ a.rest = rest := by
  have htake : ∀ {l r : List Char}, (∀ c ∈ l, c.isDigit = true) → (∀ c ∈ r.head?, c.isDigit = false) →
      (l ++ r).takeWhile Char.isDigit = l := by
    intro l r hl hr
    rw [List.takeWhile_append_of_pos hl]
    cases r with
    | nil => exact List.append_nil l
    | cons c r => rw [List.takeWhile_cons_of_neg (by rw [hr c rfl]; exact Bool.false_ne_true), List.append_nil]
  have hleft := htake hdigits hrest
  rw [← h, text] at hleft
  cases hplus : a.quantity.plus with
  | true =>
    -- a sign is no digit
    rw [hplus, if_pos rfl, List.append_assoc, List.singleton_append,
      List.takeWhile_cons_of_neg (by decide)] at hleft
    exact absurd hleft.symm hne
  | false =>
    rw [hplus, if_neg Bool.false_ne_true, List.nil_append,
      htake a.quantity.isDigit_whole fun c hc => (a.ends_rest c hc).1] at hleft
    rw [text, hplus, if_neg Bool.false_ne_true, List.nil_append, hleft] at h
    exact ⟨hleft, List.append_cancel_left h⟩

/-- The three parts of what stands behind the whole digits. -/
theorem rest_eq (a : Amount) : a.rest = (a.quantity.fraction.elim [] ('.' :: ·)) ++ a.quantity.suffix.symbol ++
    a.exponent.elim [] Exponent.text := by
  rw [rest, Quantity.tail]
  cases a.quantity.fraction with
  | none => rfl
  | some digits => rfl

theorem parts_of_rest_nil (h : a.rest = []) :
    a.exponent = none ∧ a.quantity.fraction = none ∧ a.quantity.suffix = .none := by
  rw [rest_eq, List.append_eq_nil_iff, List.append_eq_nil_iff] at h
  obtain ⟨⟨hfraction, hsymbol⟩, hexponent⟩ := h
  refine ⟨?_, ?_, ?_⟩
  · cases he : a.exponent with
    | none => rfl
    | some e =>
      rw [he] at hexponent
      exact absurd hexponent (List.cons_ne_nil _ _)
  · cases hf : a.quantity.fraction with
    | none => rfl
    | some digits =>
      rw [hf] at hfraction
      exact absurd hfraction (List.cons_ne_nil _ _)
  · cases hs : a.quantity.suffix with
    | none => rfl
    | _ =>
      rw [hs] at hsymbol
      exact absurd hsymbol (List.cons_ne_nil _ _)

/-- What is left of an amount where one character stands behind the digits. -/
theorem parts_of_rest_singleton (h : a.rest = [c]) :
    a.exponent = none ∧ (a.quantity.fraction = some [] ∧ a.quantity.suffix = .none ∧ c = '.' ∨
      a.quantity.fraction = none ∧ a.quantity.suffix.symbol = [c]) := by
  rw [rest_eq, List.append_assoc] at h
  have hshort : ∀ e : Exponent, e.text ≠ [c] := by
    intro e he
    have hlength := congrArg List.length he
    have hpos := List.length_pos_iff.mpr e.ne_nil
    rw [Exponent.text, List.length_cons, List.length_append, List.length_singleton] at hlength
    omega
  cases hexponent : a.exponent with
  | some e =>
    -- a suffix never goes with an exponent
    have hnone := a.suffix_eq_none e hexponent
    rw [hexponent, hnone] at h
    cases hfraction : a.quantity.fraction with
    | none =>
      rw [hfraction] at h
      exact absurd h (hshort e)
    | some digits =>
      rw [hfraction] at h
      obtain ⟨-, htail⟩ := List.cons.inj h
      have hlength := congrArg List.length htail
      have hpos : 0 < e.text.length := by
        rw [Exponent.text]
        exact Nat.succ_pos _
      have hsum : digits.length + e.text.length = 0 := by simpa [Suffix.symbol] using hlength
      omega
  | none =>
    rw [hexponent] at h
    refine ⟨rfl, ?_⟩
    cases hfraction : a.quantity.fraction with
    | none =>
      rw [hfraction] at h
      exact .inr ⟨rfl, by simpa using h⟩
    | some digits =>
      rw [hfraction] at h
      obtain ⟨hc, htail⟩ := List.cons.inj h
      obtain ⟨hdigits, hsymbol⟩ := List.append_eq_nil_iff.mp htail
      refine .inl ⟨by rw [hdigits], ?_, hc.symm⟩
      cases hsuffix : a.quantity.suffix with
      | none => rfl
      | _ =>
        rw [hsuffix] at hsymbol
        exact absurd hsymbol (List.cons_ne_nil _ _)

/-- The value of digits and one more character, if that is a quantity. -/
def valueOf (ds : List Char) (c : Char) : Option ℚ :=
  if c.isDigit then some (digitsValue (ds ++ [c]) : ℕ)
  else if ds = [] then none
  else if c = '.' then some (digitsValue ds : ℕ)
  else (Suffix.ofLetter c).map fun s => (digitsValue ds : ℕ) * s.factor

theorem value_eq (a : Amount) (hexponent : a.exponent = none) (hfraction : a.quantity.fraction.getD [] = []) :
    a.value = (digitsValue a.quantity.whole : ℕ) * a.quantity.suffix.factor := by
  have hzero : digitsValue [] = 0 := rfl
  rw [value, Quantity.value, Quantity.number, hexponent, hfraction, hzero]
  simp

theorem value_of_rest_nil (h : a.rest = []) : a.value = (digitsValue a.quantity.whole : ℕ) := by
  obtain ⟨hexponent, hfraction, hsuffix⟩ := parts_of_rest_nil h
  rw [value_eq a hexponent (by rw [hfraction]; rfl), hsuffix]
  exact mul_one _

/-- An amount has digits before the point or behind it. -/
theorem exists_digits (hwhole : a.quantity.whole = []) (hfraction : a.quantity.fraction.getD [] = []) : False :=
  a.quantity.ne_nil.elim (fun h => h hwhole) (fun h => h hfraction)

/-- What an amount can begin with. -/
theorem head_text (a : Amount) : ∀ c ∈ a.text.head?, c = '+' ∨ c = '.' ∨ c.isDigit = true := by
  intro c hc
  rw [text, List.append_assoc] at hc
  cases hplus : a.quantity.plus with
  | true =>
    rw [hplus] at hc
    exact .inl (Option.some.inj hc).symm
  | false =>
    rw [hplus, if_neg Bool.false_ne_true, List.nil_append] at hc
    cases hwhole : a.quantity.whole with
    | cons d digits =>
      rw [hwhole] at hc
      obtain rfl : d = c := Option.some.inj hc
      exact .inr (.inr (a.quantity.isDigit_whole d (by rw [hwhole]; exact List.mem_cons_self)))
    | nil =>
      rw [hwhole, List.nil_append, rest_eq] at hc
      cases hfraction : a.quantity.fraction with
      | none => exact (exists_digits hwhole (by rw [hfraction]; rfl)).elim
      | some digits =>
        rw [hfraction] at hc
        exact .inr (.inl (Option.some.inj hc).symm)

/-- One character is an amount only if it is a digit. -/
theorem isDigit_of_text_singleton (h : a.text = [c]) : c.isDigit = true := by
  rw [text, List.append_assoc] at h
  have hrest : a.quantity.whole = [] → ∀ r, a.rest = r → r.length ≤ 1 → False := by
    intro hwhole r hr hlength
    cases r with
    | nil => exact exists_digits hwhole (by rw [(parts_of_rest_nil hr).2.1]; rfl)
    | cons d r =>
      have hnil : r = [] := List.eq_nil_of_length_eq_zero (by rw [List.length_cons] at hlength; omega)
      rw [hnil] at hr
      obtain ⟨-, ⟨hfraction, -⟩ | ⟨hfraction, -⟩⟩ := parts_of_rest_singleton hr
      · exact exists_digits hwhole (by rw [hfraction]; rfl)
      · exact exists_digits hwhole (by rw [hfraction]; rfl)
  cases hwhole : a.quantity.whole with
  | nil =>
    refine absurd (hrest hwhole _ rfl ?_) not_false
    have hlength := congrArg List.length h
    rw [hwhole, List.length_append, List.length_append, List.length_singleton] at hlength
    have hnil : ([] : List Char).length = 0 := rfl
    omega
  | cons d digits =>
    have hd := a.quantity.isDigit_whole d (by rw [hwhole]; exact List.mem_cons_self)
    cases hplus : a.quantity.plus with
    | true =>
      rw [hplus, hwhole] at h
      exact absurd (List.cons.inj h).2 (List.cons_ne_nil _ _)
    | false =>
      rw [hplus, hwhole] at h
      rw [← (List.cons.inj h).1]
      exact hd

/-- Digits alone. -/
theorem denotes_digits_iff {v : ℚ} (hdigits : ∀ d ∈ ds, d.isDigit = true) (hne : ds ≠ []) :
    Denotes ds v ↔ v = (digitsValue ds : ℕ) := by
  constructor
  · rintro ⟨a, htext, rfl⟩
    have hnil : a.text = ds ++ [] := by rw [htext, List.append_nil]
    obtain ⟨hwhole, hrest⟩ := of_text_eq hdigits hne (by simp) hnil
    rw [value_of_rest_nil hrest, hwhole]
  · rintro rfl
    refine ⟨⟨⟨false, ds, none, .none, hdigits, by simp, .inl hne⟩, none, by simp⟩, ?_, ?_⟩
    · simp [text, rest, Quantity.tail, Suffix.symbol]
    · exact value_of_rest_nil (by simp [rest, Quantity.tail, Suffix.symbol])

/-- A point behind the digits changes nothing. -/
theorem denotes_point_iff {v : ℚ} (hdigits : ∀ d ∈ ds, d.isDigit = true) (hne : ds ≠ []) :
    Denotes (ds ++ ['.']) v ↔ v = (digitsValue ds : ℕ) := by
  constructor
  · rintro ⟨a, htext, rfl⟩
    obtain ⟨hwhole, hrest⟩ := of_text_eq hdigits hne (by simp) htext
    obtain ⟨hexponent, ⟨hfraction, hsuffix, -⟩ | ⟨-, hsymbol⟩⟩ := parts_of_rest_singleton hrest
    · rw [value_eq a hexponent (by rw [hfraction]; rfl), hwhole, hsuffix]
      exact mul_one _
    · have hnone : Suffix.ofLetter '.' = none := rfl
      rw [← Suffix.ofLetter_eq_some_iff, hnone] at hsymbol
      exact absurd hsymbol.symm (Option.some_ne_none _)
  · rintro rfl
    refine ⟨⟨⟨false, ds, some [], .none, hdigits, by simp, .inl hne⟩, none, by simp⟩, ?_, ?_⟩
    · simp [text, rest, Quantity.tail, Suffix.symbol]
    · rw [value_eq _ rfl rfl]
      exact mul_one _

/-- Any other character must be the letter of a suffix. -/
theorem denotes_letter_iff {v : ℚ} (hdigits : ∀ d ∈ ds, d.isDigit = true) (hne : ds ≠ []) (hc : c.isDigit = false)
    (hpoint : c ≠ '.') :
    Denotes (ds ++ [c]) v ↔ ∃ s, Suffix.ofLetter c = some s ∧ (digitsValue ds : ℕ) * s.factor = v := by
  constructor
  · rintro ⟨a, htext, rfl⟩
    obtain ⟨hwhole, hrest⟩ := of_text_eq hdigits hne (by simpa using hc) htext
    obtain ⟨hexponent, ⟨-, -, hdot⟩ | ⟨hfraction, hsymbol⟩⟩ := parts_of_rest_singleton hrest
    · exact absurd hdot hpoint
    · refine ⟨a.quantity.suffix, Suffix.ofLetter_eq_some_iff.mpr hsymbol, ?_⟩
      rw [value_eq a hexponent (by rw [hfraction]; rfl), hwhole]
  · rintro ⟨s, hs, rfl⟩
    refine ⟨⟨⟨false, ds, none, s, hdigits, by simp, .inl hne⟩, none, by simp⟩, ?_, ?_⟩
    · simp [text, rest, Quantity.tail, Suffix.ofLetter_eq_some_iff.mp hs]
    · rw [value_eq _ rfl rfl]

/-- **What digits and one more character denote.** -/
theorem denotes_iff {v : ℚ} (hdigits : ∀ d ∈ ds, d.isDigit = true) : Denotes (ds ++ [c]) v ↔ valueOf ds c = some v := by
  rw [valueOf]
  by_cases hc : c.isDigit = true
  · -- the character is one more digit
    have hall : ∀ d ∈ ds ++ [c], d.isDigit = true := by
      intro d hd
      obtain hd | hd := List.mem_append.mp hd
      · exact hdigits d hd
      · rw [List.mem_singleton.mp hd]
        exact hc
    rw [if_pos hc, denotes_digits_iff hall (by simp), eq_comm, Option.some_inj]
  rw [if_neg hc]
  by_cases hnil : ds = []
  · rw [if_pos hnil, hnil, List.nil_append]
    refine iff_of_false ?_ (by simp)
    rintro ⟨a, htext, -⟩
    exact hc (isDigit_of_text_singleton htext)
  rw [if_neg hnil]
  by_cases hpoint : c = '.'
  · rw [if_pos hpoint, hpoint, denotes_point_iff hdigits hnil, eq_comm, Option.some_inj]
  · rw [if_neg hpoint, Option.map_eq_some_iff, denotes_letter_iff hdigits hnil (by simpa using hc) hpoint]

/-! ### With an exponent -/

/-- What stands before the suffix or the exponent. -/
def mantissa (a : Amount) : List Char :=
  (if a.quantity.plus then ['+'] else []) ++ a.quantity.whole ++ a.quantity.fraction.elim [] ('.' :: ·)

theorem text_eq (a : Amount) :
    a.text = a.mantissa ++ (a.quantity.suffix.symbol ++ a.exponent.elim [] Exponent.text) := by
  rw [text, rest_eq, mantissa]
  simp only [List.append_assoc]

/-- No digit and no point is an `e`. -/
theorem e_not_mem_mantissa (a : Amount) : 'e' ∉ a.mantissa := by
  have hdigit : ∀ {ds : List Char}, (∀ c ∈ ds, c.isDigit = true) → 'e' ∉ ds := by
    intro ds hds he
    exact absurd (hds 'e' he) (by decide)
  rw [mantissa, List.mem_append, List.mem_append, not_or, not_or]
  refine ⟨⟨?_, hdigit a.quantity.isDigit_whole⟩, ?_⟩
  · cases a.quantity.plus <;> decide
  · have hfraction := hdigit a.quantity.isDigit_fraction
    cases hf : a.quantity.fraction with
    | none => exact List.not_mem_nil
    | some digits =>
      rw [hf] at hfraction
      exact List.not_mem_cons_of_ne_of_not_mem (by decide) hfraction

/-- **An exponent in a text** is the exponent of the amount. -/
theorem of_exponent {t xs : List Char} (h : a.text = t ++ 'e' :: '+' :: xs) :
    ∃ e, a.exponent = some e ∧ e.sign = some false ∧ e.digits = xs := by
  cases hexponent : a.exponent with
  | none =>
    have hmem : 'e' ∈ a.text := by
      rw [h]
      exact List.mem_append_right t List.mem_cons_self
    rw [text_eq, hexponent, List.mem_append, List.mem_append] at hmem
    obtain hmantissa | hsymbol | hnil := hmem
    · exact absurd hmantissa a.e_not_mem_mantissa
    · exact absurd hsymbol (by cases a.quantity.suffix <;> decide)
    · exact absurd hnil List.not_mem_nil
  | some e =>
    rw [text_eq, hexponent, a.suffix_eq_none e hexponent] at h
    have hsign : 'e' ∉ e.sign.toList.map (fun negative => if negative then '-' else '+') ++ e.digits := by
      rw [List.mem_append, not_or]
      refine ⟨by cases e.sign with | none => decide | some negative => cases negative <;> decide, fun he => ?_⟩
      exact absurd (e.isDigit_digits 'e' he) (by decide)
    obtain ⟨-, -, hdigits⟩ := (List.append_cons_inj_of_notMem a.e_not_mem_mantissa hsign).mp h
    refine ⟨e, rfl, ?_⟩
    cases hs : e.sign with
    | none =>
      -- no digit is a sign
      rw [hs, Option.toList_none, List.map_nil, List.nil_append] at hdigits
      exact absurd (e.isDigit_digits '+' (by rw [hdigits]; exact List.mem_cons_self)) (by decide)
    | some negative =>
      rw [hs] at hdigits
      obtain ⟨hplus, htail⟩ := List.cons.inj hdigits
      cases negative with
      | true => exact absurd hplus (by decide)
      | false => exact ⟨rfl, htail⟩

/-- An amount with an exponent is no smaller than the power of ten. -/
theorem pow_le_value {d : Char} {t xs : List Char} (hd : d.isDigit = true) (hzero : d ≠ '0')
    (ht : ∀ c ∈ t.head?, c.isDigit = false) (h : a.text = d :: t ++ 'e' :: '+' :: xs) :
    (10 : ℚ) ^ digitsValue xs ≤ a.value := by
  have hall : ∀ c ∈ [d], c.isDigit = true := List.forall_mem_singleton.mpr hd
  obtain ⟨e, hexponent, hsign, rfl⟩ := of_exponent h
  have hhead : ∀ c ∈ (t ++ 'e' :: '+' :: e.digits).head?, c.isDigit = false := by
    intro c hc
    cases t with
    | nil =>
      obtain rfl : 'e' = c := Option.some.inj hc
      decide
    | cons c' t => exact ht c hc
  obtain ⟨hwhole, -⟩ := of_text_eq hall (List.cons_ne_nil d []) hhead (h.trans (by simp))
  have hpos : 1 ≤ digitsValue [d] := by
    refine Nat.one_le_iff_ne_zero.mpr fun hvalue => hzero ?_
    exact (digitsValue_eq_zero_iff hall).mp hvalue d (List.mem_singleton_self d)
  have hnumber : (1 : ℚ) ≤ a.quantity.number := by
    refine le_trans ?_ a.quantity.number_bounds.1
    rw [hwhole]
    exact_mod_cast hpos
  have hpow : (0 : ℚ) ≤ 10 ^ digitsValue e.digits := by positivity
  rw [value, Quantity.value, a.suffix_eq_none e hexponent, hexponent]
  show (10 : ℚ) ^ digitsValue e.digits ≤ a.quantity.number * 1 * e.factor
  rw [Exponent.factor, if_neg (by rw [hsign]; decide), mul_one]
  exact le_mul_of_one_le_left hpow hnumber

/-- **A number from `1e+21` on**, and one more character: not a small
amount. -/
theorem pow_le_value_of_scientific {m : ℕ} (hm : 10 ^ 21 ≤ m)
    (h : a.text = scientific (Nat.toDigits 10 m) ++ [c]) : (10 : ℚ) ^ 21 ≤ a.value := by
  have hdigits : ∀ d ∈ Nat.toDigits 10 m, d.isDigit = true := fun d hd =>
    Nat.isDigit_of_mem_toDigits (by omega) (by omega) hd
  have hvalue : digitsValue (Nat.toDigits 10 m) = m := Nat.ofDigitChars_ten_toDigits
  have hlong : 21 < (Nat.toDigits 10 m).length := by
    by_contra hshort
    have hlt := (Nat.length_toDigits_le_iff (by omega) (by omega)).mp (not_lt.mp hshort)
    omega
  cases htext : Nat.toDigits 10 m with
  | nil => exact absurd htext Nat.toDigits_ne_nil
  | cons d digits =>
    rw [htext] at h hdigits hvalue hlong
    have hd := hdigits d List.mem_cons_self
    have hrest : ∀ c ∈ digits, c.isDigit = true := fun c hc => hdigits c (List.mem_cons_of_mem d hc)
    rw [List.length_cons] at hlong
    -- the first digit is no zero
    have hzero : d ≠ '0' := by
      rintro rfl
      have hlt := digitsValue_lt hrest
      have hsame : digitsValue digits = m := by
        rw [← hvalue, digitsValue_cons]
        simp
      rw [hsame] at hlt
      have hle := (Nat.length_toDigits_le_iff (by omega) (by omega)).mpr hlt
      rw [htext, List.length_cons] at hle
      omega
    have hlarge : (10 : ℚ) ^ digitsValue (Nat.toDigits 10 digits.length ++ [c]) ≤ a.value := by
      refine pow_le_value (t := behindPoint digits) hd hzero (fun c hc => ?_) (h.trans ?_)
      · unfold behindPoint at hc
        split at hc
        · cases hc
        · obtain rfl : '.' = c := Option.some.inj hc
          decide
      · rw [scientific, List.length_cons, Nat.add_sub_cancel]
        simp only [List.take_succ_cons, List.take_zero, List.tail_cons, List.append_assoc, List.cons_append,
          List.nil_append]
    have hexponent : 21 ≤ digitsValue (Nat.toDigits 10 digits.length ++ [c]) := by
      have happend : digitsValue (Nat.toDigits 10 digits.length ++ [c]) =
          Nat.ofDigitChars 10 [c] (digitsValue (Nat.toDigits 10 digits.length)) := Nat.ofDigitChars_append 0
      have hback : digitsValue (Nat.toDigits 10 digits.length) = digits.length := Nat.ofDigitChars_ten_toDigits
      rw [happend, hback]
      show 21 ≤ 10 * digits.length + (c.toNat - '0'.toNat)
      omega
    exact le_trans (pow_le_pow_right₀ (by norm_num) hexponent) hlarge

end Amount

end Portainer
