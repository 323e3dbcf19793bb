import Portainer.Containers.Ports
/-!
# Port bindings — the texts

What is written of ports and ranges, with or without an address before them,
and what is read of it.
-/

namespace Portainer

namespace Ports

variable {n a b : ℕ} {c : Char} {s ip : Text}

/-! ## Ports -/

theorem isDigit_numeral (h : c ∈ numeral n) : c.isDigit = true :=
  Nat.isDigit_of_mem_toDigits (by omega) (by omega) h

theorem notMem_numeral (hc : c.isDigit = false) : c ∉ numeral n := by
  intro h
  rw [isDigit_numeral h] at hc
  nomatch hc

theorem numeral_ne_nil : numeral n ≠ [] := Nat.toDigits_ne_nil

/-- A text with a character that is no digit is no port. -/
theorem parsePort_of_mem (h : c ∈ s) (hc : c.isDigit = false) : parsePort s = 0 := by
  have hall : s.all Char.isDigit = false := by
    rw [List.all_eq_false]
    exact ⟨c, h, by rw [hc]; exact Bool.false_ne_true⟩
  rw [parsePort, isPort, hall, Bool.false_and, if_neg Bool.false_ne_true]

theorem ofDigitChars_numeral : Nat.ofDigitChars 10 (numeral n) 0 = n := Nat.ofDigitChars_ten_toDigits

theorem toNat_of_isDigit (h : c.isDigit = true) : 48 ≤ c.toNat ∧ c.toNat ≤ 57 := Char.isDigit_iff_toNat.mp h

theorem isPort_numeral (h : 0 < n) (hle : n ≤ 65535) : isPort (numeral n) = true := by
  have hdigits : ∀ c ∈ numeral n, c.isDigit = true := fun c hc => isDigit_numeral hc
  have hvalue : Nat.ofDigitChars 10 (numeral n) 0 = n := ofDigitChars_numeral
  have hlength : ∀ k, 0 < k → ((numeral n).length ≤ k ↔ n < 10 ^ k) := fun k hk =>
    Nat.length_toDigits_le_iff (by omega) hk
  have hfive : (numeral n).length ≤ 5 := (hlength 5 (by omega)).mpr (by omega)
  have hfour := (hlength 4 (by omega)).mp
  rw [isPort, List.all_eq_true.mpr hdigits, Bool.true_and]
  match hn : numeral n with
  | [] => exact absurd hn numeral_ne_nil
  | [a] =>
    rw [hn] at hvalue
    refine decide_eq_true ?_
    rintro rfl
    exact absurd hvalue.symm (Nat.pos_iff_ne_zero.mp h)
  | [_, _] => rfl
  | [_, _, _] => rfl
  | [_, _, _, _] => rfl
  | [p, q, r, s, t] =>
    rw [hn] at hvalue hdigits hfour
    simp only [List.forall_mem_cons, List.not_mem_nil, IsEmpty.forall_iff, implies_true, and_true] at hdigits
    obtain ⟨hp, hq, hr, hs, ht⟩ := hdigits
    have hp := toNat_of_isDigit hp
    have hq := toNat_of_isDigit hq
    have hr := toNat_of_isDigit hr
    have hs := toNat_of_isDigit hs
    have ht := toNat_of_isDigit ht
    have hlong : ¬ n < 10000 := by
      intro hlt
      have hshort := (hlength 4 (by omega)).mpr hlt
      rw [hn] at hshort
      simp only [List.length_cons, List.length_nil] at hshort
      omega
    have hsum : ((((p.toNat - 48) * 10 + (q.toNat - 48)) * 10 + (r.toNat - 48)) * 10 + (s.toNat - 48)) * 10 +
        (t.toNat - 48) = n := by
      rw [← hvalue]
      simp only [Nat.ofDigitChars_cons, Nat.ofDigitChars_nil]
      have hzero : '0'.toNat = 48 := rfl
      omega
    -- the pattern compares the digits from the first to the last
    have hle : ∀ c d : Char, c ≤ d ↔ c.toNat ≤ d.toNat := fun c d => by
      rw [Char.le_def, UInt32.le_iff_toNat_le]
      rfl
    have heq : ∀ c d : Char, c = d ↔ c.toNat = d.toNat := fun c d => Char.toNat_inj.symm
    simp only [portDigits, Bool.or_eq_true, Bool.and_eq_true, decide_eq_true_eq, hle, heq]
    simp only [show '0'.toNat = 48 from rfl, show '1'.toNat = 49 from rfl, show '2'.toNat = 50 from rfl,
      show '3'.toNat = 51 from rfl, show '4'.toNat = 52 from rfl, show '5'.toNat = 53 from rfl,
      show '6'.toNat = 54 from rfl]
    omega
  | _ :: _ :: _ :: _ :: _ :: _ :: rest =>
    rw [hn] at hfive
    simp only [List.length_cons] at hfive
    omega

/-- **A port is read as it is written.** -/
theorem parsePort_numeral (hle : n ≤ 65535) : parsePort (numeral n) = n := by
  obtain rfl | hpos := Nat.eq_zero_or_pos n
  · rfl
  · rw [parsePort, if_pos (isPort_numeral hpos hle)]
    exact ofDigitChars_numeral

/-! ## Ranges -/

/-- A port, or a range of more than one. -/
def rangeText (a b : ℕ) : Text := if a = b then numeral a else numeral a ++ '-' :: numeral b

theorem notMem_rangeText (hc : c.isDigit = false) (hne : c ≠ '-') : c ∉ rangeText a b := by
  rw [rangeText]
  split
  · exact notMem_numeral hc
  · rw [List.mem_append, List.mem_cons, not_or, not_or]
    exact ⟨notMem_numeral hc, hne, notMem_numeral hc⟩

theorem rangeText_ne_nil : rangeText a b ≠ [] := by
  rw [rangeText]
  split
  · exact numeral_ne_nil
  · exact fun h => List.cons_ne_nil _ _ (List.append_eq_nil_iff.mp h).2

theorem parsePortRange_of_notMem (h : '-' ∉ s) : parsePortRange s = (parsePort s, parsePort s) := by
  rw [parsePortRange, if_neg h]

theorem cut_of_notMem (h : c ∉ s) : (Text.cut c s).1 = s :=
  List.takeWhile_eq_self_iff.mpr fun d hd => decide_eq_true fun heq => h (heq ▸ hd)

/-- **A range is read as it is written.** -/
theorem parsePortRange_rangeText (hab : a ≤ b) (hb : b ≤ 65535) : parsePortRange (rangeText a b) = (a, b) := by
  have hnot : ∀ n, '-' ∉ numeral n := fun n => notMem_numeral (by decide)
  rw [rangeText]
  split
  · next heq =>
    rw [parsePortRange_of_notMem (hnot a), parsePort_numeral (by omega), heq]
  · have hmem : '-' ∈ numeral a ++ '-' :: numeral b := List.mem_append_right _ List.mem_cons_self
    rw [parsePortRange, if_pos hmem, Text.cut_append_cons (hnot a), cut_of_notMem (hnot b),
      parsePort_numeral (by omega), parsePort_numeral hb]

/-! ## Addresses -/

/-- What stands before the ports. -/
def addressText (ip : Text) : Text := if ip ≠ [] then ip ++ [':'] else []

/-- An address that keeps to its place: no colon and no bracket. -/
def Plain (ip : Text) : Prop := ':' ∉ ip ∧ '[' ∉ ip

theorem line_hostPort {protocol : Text} {containerPort : ℕ} {d : Binding} :
    (line ip protocol containerPort d).hostPort = addressText ip ++ d.hostPort := by
  rw [line, addressText]
  split
  · rw [List.append_assoc]
    rfl
  · rfl

/-- **A range is extended at its end.** -/
theorem createPortRange_rangeText {p : ℕ} (hip : ':' ∉ ip) (hab : a ≤ b) (hbp : b < p) (hp : p ≤ 65535) :
    createPortRange (addressText ip ++ rangeText a b) p = addressText ip ++ rangeText a p := by
  have hcolon : ':' ∉ rangeText a b := notMem_rangeText (by decide) (by decide)
  have hrange : parsePortRange (rangeText a b) = (a, b) := parsePortRange_rangeText hab (by omega)
  have htext : rangeText a p = numeral (min a p) ++ '-' :: numeral (max b p) := by
    rw [rangeText, if_neg (by omega), Nat.min_eq_left (by omega), Nat.max_eq_right (by omega)]
  rw [createPortRange, addressText]
  by_cases hnil : ip = []
  · rw [if_neg (not_not.mpr hnil), List.nil_append, List.nil_append, if_neg hcolon, if_neg hcolon, hrange, htext]
    exact if_neg (not_not.mpr rfl)
  · have happend : ip ++ [':'] ++ rangeText a b = ip ++ ':' :: rangeText a b := by simp
    have hmem : ':' ∈ ip ++ ':' :: rangeText a b := List.mem_append_right _ List.mem_cons_self
    rw [if_pos hnil, happend, if_pos hmem, if_pos hmem, Text.cut_append_cons hip, hrange, htext]
    dsimp only
    rw [if_pos hnil, List.append_assoc]
    rfl

/-! ## Reading a line -/

/-- The address that is read. -/
def hostOption (ip : Text) : Option Text := if ip = [] then none else some ip

theorem hostRange_addressText {range : ℕ × ℕ} {t : Text} (hip : Plain ip) (ht : Plain t) (hne : t ≠ [] ∨ ip ≠ []) :
    hostRange (addressText ip ++ t) range =
      if isValidPortRange (parsePortRange t) ∧
          ¬ (range.2 ≠ range.1 ∧ range.2 - range.1 ≠ (parsePortRange t).2 - (parsePortRange t).1) then
        some (hostOption ip, parsePortRange t)
      else none := by
  have hsplit : splitHost (addressText ip ++ t) = some (hostOption ip, t) := by
    rw [splitHost, addressText, hostOption]
    by_cases hnil : ip = []
    · rw [if_neg (not_not.mpr hnil), if_pos hnil, List.nil_append, if_neg ht.2, if_neg ht.1]
    · have happend : ip ++ [':'] ++ t = ip ++ ':' :: t := by simp
      have hbracket : '[' ∉ ip ++ ':' :: t := by
        rw [List.mem_append, List.mem_cons, not_or, not_or]
        exact ⟨hip.2, by decide, ht.2⟩
      have hmem : ':' ∈ ip ++ ':' :: t := List.mem_append_right _ List.mem_cons_self
      rw [if_pos hnil, if_neg hnil, happend, if_neg hbracket, if_pos hmem, Text.cut_append_cons hip.1,
        cut_of_notMem ht.1]
  have htext : addressText ip ++ t ≠ [] := by
    intro h
    obtain ⟨haddress, rfl⟩ := List.append_eq_nil_iff.mp h
    obtain hne | hne := hne
    · exact hne rfl
    · rw [addressText, if_pos hne] at haddress
      exact List.cons_ne_nil _ _ (List.append_eq_nil_iff.mp haddress).2
  rw [hostRange, if_neg htext, hsplit]
  rfl

/-- The bindings of a range of ports. -/
def runOf (ip protocol : Text) (h c k : ℕ) : List (Key × Binding) :=
  (List.range k).map fun i => (⟨c + i, protocol⟩, ⟨hostOption ip, numeral (h + i)⟩)

theorem runOf_succ (ip protocol : Text) (h c k : ℕ) :
    runOf ip protocol h c (k + 1) =
      runOf ip protocol h c k ++ [(⟨c + k, protocol⟩, ⟨hostOption ip, numeral (h + k)⟩)] := by
  rw [runOf, List.range_succ, List.map_append]
  rfl

/-- A line whose container ports are a range that begins with a port. -/
theorem expand_of_range {l : PortBinding} {range : ℕ × ℕ} (hrange : parsePortRange l.containerPort.toText = range)
    (hvalid : isValidPortRange range) :
    expand l = (hostRange l.hostPort range).map fun host =>
      (List.range (range.2 - range.1 + 1)).map fun i =>
        (⟨range.1 + i, l.protocol⟩, ⟨host.1, (if 0 < host.2.1 then numeral (host.2.1 + i) else l.hostPort) ++
          if range.1 = range.2 ∧ host.2.1 ≠ host.2.2 then '-' :: numeral host.2.2 else []⟩) := by
  have hzero : ¬ (l.containerPort = .number 0 ∨ l.containerPort = .text []) := by
    rintro (h | h)
    · rw [h] at hrange
      exact absurd (hrange ▸ hvalid) (by decide)
    · rw [h] at hrange
      exact absurd (hrange ▸ hvalid) (by decide)
  rw [expand, if_neg hzero]
  dsimp only
  rw [hrange, if_pos hvalid]
  cases hostRange l.hostPort range <;> rfl

/-- **A range of ports** is read as its bindings. -/
theorem expand_run {protocol : Text} {containerPort : ContainerPort} {h k : ℕ} (hip : Plain ip) (hh : 0 < h)
    (hhk : h + k ≤ 65535) {c : ℕ} (hc : 0 < c) (hck : c + k ≤ 65535)
    (htext : containerPort.toText = rangeText c (c + k)) :
    expand ⟨addressText ip ++ rangeText h (h + k), containerPort, protocol⟩ =
      some (runOf ip protocol h c (k + 1)) := by
  have hcontainer : parsePortRange containerPort.toText = (c, c + k) := by
    rw [htext]
    exact parsePortRange_rangeText (by omega) hck
  have hhost : parsePortRange (rangeText h (h + k)) = (h, h + k) := parsePortRange_rangeText (by omega) hhk
  have hplain : Plain (rangeText h (h + k)) :=
    ⟨notMem_rangeText (by decide) (by decide), notMem_rangeText (by decide) (by decide)⟩
  rw [expand_of_range hcontainer ⟨hc, by omega⟩]
  dsimp only
  rw [hostRange_addressText hip hplain (.inl rangeText_ne_nil), hhost, if_pos ⟨⟨hh, by omega⟩, by omega⟩,
    Option.map_some]
  have hlength : c + k - c + 1 = k + 1 := by omega
  dsimp only
  rw [hlength, runOf]
  refine congrArg some (List.map_congr_left fun i _ => ?_)
  have hsuffix : ¬ (c = c + k ∧ h ≠ h + k) := by omega
  rw [if_pos hh, if_neg hsuffix, List.append_nil]

/-- A line that is read as it was: the port is not 0, and is there if the
address is. -/
def Shown (ip hostPort : Text) : Prop :=
  (hostPort = [] → ip = []) ∧ (hostPort ≠ [] → 0 < (parsePortRange hostPort).1)

instance (ip hostPort : Text) : Decidable (Shown ip hostPort) :=
  inferInstanceAs (Decidable ((hostPort = [] → ip = []) ∧ (hostPort ≠ [] → 0 < (parsePortRange hostPort).1)))

/-- The host ports that Docker reports: none, a port, or a range. -/
def ReportedPort (t : Text) : Prop := t = [] ∨ ∃ a b, a ≤ b ∧ b ≤ 65535 ∧ t = rangeText a b

/-- **A line of one binding.** -/
theorem expand_line {protocol : Text} {c : ℕ} {d : Binding} (hip : Plain ip) (hc : 0 < c) (hle : c ≤ 65535)
    (hport : ReportedPort d.hostPort) :
    expand (line ip protocol c d) =
      if Shown ip d.hostPort then some [(⟨c, protocol⟩, ⟨hostOption ip, d.hostPort⟩)] else none := by
  have hcontainer : parsePortRange (line ip protocol c d).containerPort.toText = (c, c) := by
    show parsePortRange (numeral c) = (c, c)
    rw [parsePortRange_of_notMem (notMem_numeral (by decide)), parsePort_numeral hle]
  rw [expand_of_range hcontainer ⟨hc, le_rfl⟩, line_hostPort]
  obtain hnil | ⟨a, b, hab, hb, htext⟩ := hport
  · by_cases hempty : ip = []
    · have hshown : Shown ip d.hostPort := ⟨fun _ => hempty, fun h => absurd hnil h⟩
      have hhost : hostRange (addressText [] ++ []) (c, c) = some (none, 0, 0) := rfl
      rw [if_pos hshown, hnil, hempty, hhost, Option.map_some]
      dsimp only
      rw [Nat.sub_self, Nat.zero_add, List.range_one, List.map_singleton,
        if_neg (lt_irrefl 0), if_neg fun h => h.2 rfl]
      rfl
    · have hshown : ¬ Shown ip d.hostPort := fun h => hempty (h.1 hnil)
      rw [if_neg hshown, hnil, hostRange_addressText hip ⟨List.not_mem_nil, List.not_mem_nil⟩ (.inr hempty),
        if_neg (fun h => absurd h.1.1 (by decide))]
      rfl
  · have hplain : Plain (rangeText a b) :=
      ⟨notMem_rangeText (by decide) (by decide), notMem_rangeText (by decide) (by decide)⟩
    have hrange : parsePortRange (rangeText a b) = (a, b) := parsePortRange_rangeText hab hb
    rw [htext, hostRange_addressText hip hplain (.inl rangeText_ne_nil), hrange]
    by_cases hpos : 0 < a
    · have hshown : Shown ip (rangeText a b) := ⟨fun h => absurd h rangeText_ne_nil, fun _ => by rw [hrange]; exact hpos⟩
      rw [if_pos hshown, if_pos ⟨⟨hpos, hab⟩, fun h => h.1 rfl⟩, Option.map_some]
      dsimp only
      rw [Nat.sub_self, Nat.zero_add, List.range_one, List.map_singleton, if_pos hpos, Nat.add_zero, Nat.add_zero,
        rangeText]
      by_cases heq : a = b
      · rw [if_neg fun h => h.2 heq, if_pos heq, List.append_nil]
        rfl
      · rw [if_pos ⟨rfl, heq⟩, if_neg heq]
        rfl
    · have hshown : ¬ Shown ip (rangeText a b) := fun h => hpos (by
        have hfirst := h.2 rangeText_ne_nil
        rwa [hrange] at hfirst)
      rw [if_neg hshown, if_neg fun h => hpos h.1.1]
      rfl

end Ports

end Portainer
