import Mathlib.Data.List.DropRight
import Mathlib.Tactic.Common
/-!
# Base64 — texts for bytes

The encoding with the standard alphabet and padding, and the decoding of
browsers, `atob`, which passes over white space and does not ask for the
padding. `decode_encode` reads back what was written.
-/

namespace Portainer

namespace Base64

/-- The alphabet, by the value of six bits. -/
def alphabet : List Char :=
  "ABCDEFGHIJKLMNOPQRSTUVWXYZabcdefghijklmnopqrstuvwxyz0123456789+/".toList

def symbol (n : ℕ) : Char := alphabet.getD n 'A'

/-- The six bits a symbol stands for. -/
def value (c : Char) : Option ℕ := alphabet.idxOf? c

/-- The bytes in pieces of six bits, from the left; the last piece is filled
up with zeros. -/
def sextets : List UInt8 → List ℕ
  | [] => []
  | [a] => [a.toNat / 4, a.toNat % 4 * 16]
  | [a, b] => [a.toNat / 4, a.toNat % 4 * 16 + b.toNat / 16, b.toNat % 16 * 4]
  | a :: b :: c :: rest => a.toNat / 4 :: (a.toNat % 4 * 16 + b.toNat / 16) ::
      (b.toNat % 16 * 4 + c.toNat / 64) :: (c.toNat % 64) :: sextets rest

/-- The bytes of the pieces. Bits that fill no byte are dropped; a single
piece at the end is none. -/
def octets : List ℕ → Option (List UInt8)
  | [] => some []
  | [_] => none
  | [i, j] => some [.ofNat (i * 4 + j / 16)]
  | [i, j, k] => some [.ofNat (i * 4 + j / 16), .ofNat (j % 16 * 16 + k / 4)]
  | i :: j :: k :: l :: rest => (octets rest).map fun bytes => .ofNat (i * 4 + j / 16) ::
      .ofNat (j % 16 * 16 + k / 4) :: .ofNat (k % 4 * 64 + l) :: bytes

/-- How many signs of padding there are. -/
def padding (bytes : List UInt8) : ℕ := (3 - bytes.length % 3) % 3

/-- `base64.StdEncoding`. -/
def encode (bytes : List UInt8) : List Char :=
  (sextets bytes).map symbol ++ List.replicate (padding bytes) '='

/-- The white space that a decoding passes over. -/
def isWhitespace (c : Char) : Bool :=
  c = ' ' || c = '\t' || c = '\n' || c.toNat = 12 || c = '\r'

/-- The text without up to two signs of padding. -/
def dropPadding (data : List Char) : List Char :=
  if ['=', '='] <:+ data then data.rdrop 2 else if ['='] <:+ data then data.rdrop 1 else data

/-- The forgiving decoding of `atob`; `none` is its exception. -/
def decode (data : List Char) : Option (List UInt8) :=
  let data := data.filter fun c => !isWhitespace c
  let data := if data.length % 4 = 0 then dropPadding data else data
  (data.mapM value).bind octets

/-! ## Pieces -/

theorem octets_sextets (bytes : List UInt8) : octets (sextets bytes) = some bytes := by
  have hbyte : ∀ (a : UInt8) (n : ℕ), n = a.toNat → UInt8.ofNat n = a := by
    rintro a n rfl
    exact UInt8.ofNat_toNat
  induction bytes using sextets.induct with
  | case1 => rfl
  | case2 a =>
    have hlt := a.toNat_lt
    rw [sextets, octets, hbyte a _ (by omega)]
  | case3 a b =>
    have hlt := b.toNat_lt
    rw [sextets, octets, hbyte a _ (by omega), hbyte b _ (by omega)]
  | case4 a b c rest ih =>
    have hb := b.toNat_lt
    have hc := c.toNat_lt
    rw [sextets, octets, ih, Option.map_some, hbyte a _ (by omega), hbyte b _ (by omega),
      hbyte c _ (by omega)]

theorem lt_of_mem_sextets {bytes : List UInt8} {n : ℕ} (h : n ∈ sextets bytes) : n < 64 := by
  induction bytes using sextets.induct with
  | case1 => exact (List.not_mem_nil h).elim
  | case2 a =>
    have ha := a.toNat_lt
    simp only [sextets, List.mem_cons, List.not_mem_nil, or_false] at h
    omega
  | case3 a b =>
    have ha := a.toNat_lt
    have hb := b.toNat_lt
    simp only [sextets, List.mem_cons, List.not_mem_nil, or_false] at h
    omega
  | case4 a b c rest ih =>
    have ha := a.toNat_lt
    have hb := b.toNat_lt
    have hc := c.toNat_lt
    simp only [sextets, List.mem_cons] at h
    rcases h with h | h | h | h | h
    · omega
    · omega
    · omega
    · omega
    · exact ih h

theorem length_sextets (bytes : List UInt8) : ((sextets bytes).length + padding bytes) % 4 = 0 := by
  unfold padding
  induction bytes using sextets.induct with
  | case1 => rfl
  | case2 a => simp [sextets]
  | case3 a b => simp [sextets]
  | case4 a b c rest ih =>
    simp only [sextets, List.length_cons]
    omega

theorem padding_le (bytes : List UInt8) : padding bytes ≤ 2 := by
  unfold padding
  omega

/-! ## Symbols -/

theorem value_symbol {n : ℕ} (h : n < 64) : value (symbol n) = some n := by
  have hall : ∀ n : Fin 64, value (symbol n) = some n.val := by decide +kernel
  exact hall ⟨n, h⟩

theorem symbol_mem {n : ℕ} (h : n < 64) : symbol n ∈ alphabet := by
  have hall : ∀ n : Fin 64, symbol n ∈ alphabet := by decide +kernel
  exact hall ⟨n, h⟩

theorem mapM_value {l : List ℕ} (h : ∀ n ∈ l, n < 64) : (l.map symbol).mapM value = some l := by
  induction l with
  | nil => rfl
  | cons n l ih =>
    have hrest := ih fun n hn => h n (List.mem_cons_of_mem _ hn)
    rw [List.map_cons, List.mapM_cons, value_symbol (h n List.mem_cons_self), hrest]
    rfl

/-- No symbol is the sign of padding, or white space. -/
theorem plain_of_mem {c : Char} (h : c ∈ alphabet) : c ≠ '=' ∧ isWhitespace c = false := by
  have hall : ∀ n : Fin 64, symbol n ≠ '=' ∧ isWhitespace (symbol n) = false := by decide +kernel
  have hlength : alphabet.length = 64 := by decide_cbv
  obtain ⟨n, hn, hc⟩ := List.getElem_of_mem h
  have hsymbol : symbol n = c := by
    rw [symbol, List.getD_eq_getElem?_getD, List.getElem?_eq_getElem hn, Option.getD_some, hc]
  have hplain := hall ⟨n, by omega⟩
  rwa [hsymbol] at hplain

/-! ## Padding -/

theorem dropPadding_append {l : List Char} (h : '=' ∉ l) {n : ℕ} (hn : n ≤ 2) :
    dropPadding (l ++ List.replicate n '=') = l := by
  have hnone : ¬ ['='] <:+ l := fun hsuffix => h (hsuffix.subset List.mem_cons_self)
  have hnone' : ¬ ['=', '='] <:+ l := fun hsuffix => h (hsuffix.subset List.mem_cons_self)
  unfold dropPadding
  match n with
  | 0 => simp [hnone, hnone']
  | 1 =>
    have htwo : ¬ ['=', '='] <:+ l ++ ['='] := by
      rintro ⟨p, hp⟩
      have hp' : p ++ ['='] ++ ['='] = l ++ ['='] := by simpa using hp
      have hl : p ++ ['='] = l := List.append_cancel_right hp'
      exact h (hl ▸ by simp)
    rw [show List.replicate 1 '=' = ['='] from rfl, if_neg htwo, if_pos (List.suffix_append l _)]
    simp [List.rdrop]
  | 2 =>
    rw [show List.replicate 2 '=' = ['=', '='] from rfl, if_pos (List.suffix_append l _)]
    simp [List.rdrop]

/-- **What was encoded is decoded.** -/
theorem decode_encode (bytes : List UInt8) : decode (encode bytes) = some bytes := by
  have hsymbols : ∀ c ∈ (sextets bytes).map symbol, c ≠ '=' ∧ isWhitespace c = false := by
    intro c hc
    obtain ⟨n, hn, rfl⟩ := List.mem_map.mp hc
    exact plain_of_mem (symbol_mem (lt_of_mem_sextets hn))
  have hplain : '=' ∉ (sextets bytes).map symbol := fun hmem => (hsymbols _ hmem).1 rfl
  have hfilter : (encode bytes).filter (fun c => !isWhitespace c) = encode bytes := by
    rw [List.filter_eq_self]
    intro c hc
    rcases List.mem_append.mp hc with hsymbol | hpad
    · rw [(hsymbols c hsymbol).2]
      rfl
    · rw [List.eq_of_mem_replicate hpad]
      rfl
  have hlength : (encode bytes).length % 4 = 0 := by
    rw [encode, List.length_append, List.length_map, List.length_replicate, length_sextets]
  unfold decode
  dsimp only
  rw [hfilter, if_pos hlength, encode, dropPadding_append hplain (padding_le bytes),
    mapM_value fun n hn => lt_of_mem_sextets hn, Option.bind_some, octets_sextets]

end Base64

end Portainer
