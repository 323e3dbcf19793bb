import Mathlib.Algebra.GroupWithZero.Nat
import Portainer.Common.Traverse
import Portainer.Containers.Helpers.PortTexts
/-!
# Port bindings — the lines of one address

The bindings of one address become lines, and consecutive ports one line.
For an address that keeps to its place this changes nothing: the lines are
read as if each binding had one of its own. An address with colons does not
come back.
-/

namespace Portainer

namespace Ports

variable {ip protocol : Text} {items : List (Key × Binding)} {s : Combining} {keys : List Key}

/-- The bindings of one address, one after the other. -/
def combineAll (ip protocol : Text) (s : Combining) (items : List (Key × Binding)) : Combining :=
  items.foldl (fun s item => combine ip protocol s item.1 item.2) s

/-- The lines of one address. -/
def merged (ip protocol : Text) (items : List (Key × Binding)) : List PortBinding :=
  (combineAll ip protocol { portBindings := fun _ => [] } items).bindings

/-! ## Taking, and combining what was taken -/

theorem combine_portBindings (f : Key → List Binding) (k : Key) (b : Binding) :
    combine ip protocol { s with portBindings := f } k b = { combine ip protocol s k b with portBindings := f } := by
  unfold combine
  dsimp only
  split
  · split
    · rfl
    · rfl
  · rfl

/-- The keys take bindings, which are then combined. -/
theorem foldlM_takeFirst : keys.foldlM (takeFirst ip protocol) s =
    (deal s.portBindings keys).map fun p =>
      combineAll ip protocol { s with portBindings := p.2 } (keys.zip p.1) := by
  induction keys generalizing s with
  | nil => rfl
  | cons k keys ih =>
    rw [List.foldlM_cons, takeFirst, deal]
    cases hstock : s.portBindings k with
    | nil => rfl
    | cons b rest =>
      dsimp only
      rw [Option.bind_eq_bind, Option.bind_some, ih, combine_portBindings, Option.map_map]
      refine congrArg (fun f => Option.map f _) (funext fun p => ?_)
      rw [Function.comp_apply]
      exact congrArg (fun s' => combineAll ip protocol s' (keys.zip p.1)) (combine_portBindings p.2 k b).symm

/-! ## Lines before -/

theorem extendLast_append {before own : List PortBinding} (hne : own ≠ []) (h c : ℕ) :
    extendLast (before ++ own) h c = before ++ extendLast own h c := by
  obtain ⟨own, last, rfl⟩ := (List.eq_nil_or_concat own).resolve_left hne
  rw [List.concat_eq_append, extendLast, extendLast, ← List.append_assoc, List.getLast?_concat, List.getLast?_concat,
    List.dropLast_concat, List.dropLast_concat]
  exact List.append_assoc _ _ _

/-- Lines of other addresses are left alone: the first line of an address is
always one of its own. -/
theorem combine_append {before : List PortBinding} (h : s.bindings = [] → s.previousHostPort = -1) (k : Key) (b : Binding) :
    combine ip protocol { s with bindings := before ++ s.bindings } k b =
        { combine ip protocol s k b with bindings := before ++ (combine ip protocol s k b).bindings } ∧
      ((combine ip protocol s k b).bindings = [] → (combine ip protocol s k b).previousHostPort = -1) := by
  have hpush : ∀ l : PortBinding, s.bindings ++ [l] ≠ [] := fun l h => List.cons_ne_nil _ _ (List.append_eq_nil_iff.mp h).2
  unfold combine
  dsimp only
  by_cases hpos : 0 < parsePort b.hostPort
  · rw [if_pos hpos, if_pos hpos]
    by_cases hnil : s.bindings = []
    · have hprevious := h hnil
      have hno : ∀ l : List PortBinding, ¬ (l ≠ [] ∧ s.previousHostPort = (parsePort b.hostPort : ℤ) - 1 ∧
          s.previousContainerPort = (k.port : ℤ) - 1) := by
        rintro l ⟨-, hhost, -⟩
        omega
      rw [if_neg (hno _), if_neg (hno _)]
      exact ⟨by rw [List.append_assoc], fun hl => absurd hl (hpush _)⟩
    · have hboth : before ++ s.bindings ≠ [] := fun hl => hnil (List.append_eq_nil_iff.mp hl).2
      by_cases hnext : s.previousHostPort = (parsePort b.hostPort : ℤ) - 1 ∧
          s.previousContainerPort = (k.port : ℤ) - 1
      · rw [if_pos ⟨hboth, hnext⟩, if_pos ⟨hnil, hnext⟩]
        refine ⟨by rw [extendLast_append hnil], fun hl => ?_⟩
        obtain ⟨own, last, hown⟩ := (List.eq_nil_or_concat s.bindings).resolve_left hnil
        rw [hown, List.concat_eq_append, extendLast, List.getLast?_concat] at hl
        exact absurd (List.append_eq_nil_iff.mp hl).2 (List.cons_ne_nil _ _)
      · rw [if_neg fun hl => hnext hl.2, if_neg fun hl => hnext hl.2]
        exact ⟨by rw [List.append_assoc], fun hl => absurd hl (hpush _)⟩
  · rw [if_neg hpos, if_neg hpos]
    exact ⟨by rw [List.append_assoc], fun _ => rfl⟩

theorem combineAll_append {before : List PortBinding} (h : s.bindings = [] → s.previousHostPort = -1) :
    combineAll ip protocol { s with bindings := before ++ s.bindings } items =
      { combineAll ip protocol s items with bindings := before ++ (combineAll ip protocol s items).bindings } := by
  induction items generalizing s with
  | nil => rfl
  | cons item items ih =>
    obtain ⟨hstep, hnext⟩ := @combine_append ip protocol s before h item.1 item.2
    show combineAll ip protocol (combine ip protocol { s with bindings := before ++ s.bindings } item.1 item.2) items = _
    rw [hstep]
    exact ih hnext

theorem combineAll_portBindings (f : Key → List Binding) :
    combineAll ip protocol { s with portBindings := f } items =
      { combineAll ip protocol s items with portBindings := f } := by
  induction items generalizing s with
  | nil => rfl
  | cons item items ih =>
    show combineAll ip protocol (combine ip protocol { s with portBindings := f } item.1 item.2) items = _
    rw [combine_portBindings]
    exact ih

/-- **The lines of an address** come behind those that are there. -/
theorem bindings_combineAll (h : s.previousHostPort = -1) (h' : s.previousContainerPort = -1) :
    (combineAll ip protocol s items).bindings = s.bindings ++ merged ip protocol items ∧
      (combineAll ip protocol s items).portBindings = s.portBindings := by
  obtain ⟨portBindings, bindings, hostPort, containerPort⟩ := s
  obtain rfl : hostPort = -1 := h
  obtain rfl : containerPort = -1 := h'
  have happend : combineAll ip protocol { portBindings := portBindings, bindings := bindings ++ [] } items =
      { combineAll ip protocol { portBindings := portBindings } items with
        bindings := bindings ++ (combineAll ip protocol { portBindings := portBindings } items).bindings } :=
    combineAll_append (s := { portBindings := portBindings }) fun _ => rfl
  have hframe : combineAll ip protocol { portBindings := portBindings } items =
      { combineAll ip protocol { portBindings := fun _ => [] } items with portBindings := portBindings } :=
    combineAll_portBindings (s := { portBindings := fun _ => [] }) portBindings
  rw [List.append_nil] at happend
  rw [happend, hframe]
  exact ⟨rfl, rfl⟩

/-! ## Reading the lines -/

/-- What the lines are read as. -/
def expandAll (lines : List PortBinding) : Option (List (Key × Binding)) := (lines.mapM expand).map List.flatten

theorem expandAll_append (lines lines' : List PortBinding) : expandAll (lines ++ lines') =
    (expandAll lines).bind fun entries => (expandAll lines').map fun entries' => entries ++ entries' := by
  rw [expandAll, expandAll, expandAll, List.mapM_append]
  cases lines.mapM expand with
  | none => rfl
  | some first =>
    cases lines'.mapM expand with
    | none => rfl
    | some second => exact congrArg some List.flatten_append

theorem expandAll_singleton (l : PortBinding) : expandAll [l] = expand l := by
  rw [expandAll, List.mapM_cons]
  cases expand l with
  | none => rfl
  | some entries => exact congrArg some (List.append_nil entries)

/-- The last line is a range of ports that ends with the ports before. -/
def EndsRun (ip protocol : Text) (s : Combining) : Prop :=
  ∃ before containerPort h c k, s.bindings = before ++ [⟨addressText ip ++ rangeText h (h + k), containerPort, protocol⟩] ∧
    containerPort.toText = rangeText c (c + k) ∧ 0 < h ∧ h + k ≤ 65535 ∧ 0 < c ∧ c + k ≤ 65535 ∧
    s.previousHostPort = (h + k : ℕ) ∧ s.previousContainerPort = (c + k : ℕ)

/-- A host port that is one port. -/
theorem eq_numeral_of_parsePort {t : Text} (h : ReportedPort t) (hpos : 0 < parsePort t) :
    parsePort t ≤ 65535 ∧ t = numeral (parsePort t) := by
  obtain rfl | ⟨a, b, hab, hb, rfl⟩ := h
  · exact absurd hpos (by decide)
  · by_cases heq : a = b
    · have hread : parsePort (numeral a) = a := parsePort_numeral (by omega)
      rw [rangeText, if_pos heq, hread]
      exact ⟨by omega, rfl⟩
    · have hdash : '-' ∈ rangeText a b := by
        rw [rangeText, if_neg heq]
        exact List.mem_append_right _ List.mem_cons_self
      rw [parsePort_of_mem hdash (by decide)] at hpos
      exact absurd hpos (lt_irrefl 0)

/-- The items of one address: container ports of the protocol, and host ports
that Docker reports. -/
def Reported (protocol : Text) (item : Key × Binding) : Prop :=
  item.1.protocol = protocol ∧ 0 < item.1.port ∧ item.1.port ≤ 65535 ∧ ReportedPort item.2.hostPort

/-- One binding more: it is read as a line of its own would be. -/
theorem expandAll_combine (hip : Plain ip) {item : Key × Binding} (hitem : Reported protocol item)
    (h : s.previousHostPort = -1 ∨ EndsRun ip protocol s) :
    expandAll (combine ip protocol s item.1 item.2).bindings =
        expandAll (s.bindings ++ [line ip protocol item.1.port item.2]) ∧
      ((combine ip protocol s item.1 item.2).previousHostPort = -1 ∨
        EndsRun ip protocol (combine ip protocol s item.1 item.2)) := by
  obtain ⟨-, hport, hport', hreported⟩ := hitem
  unfold combine
  dsimp only
  by_cases hpos : 0 < parsePort item.2.hostPort
  · obtain ⟨hle, htext⟩ := eq_numeral_of_parsePort hreported hpos
    rw [if_pos hpos]
    by_cases hnext : s.bindings ≠ [] ∧ s.previousHostPort = (parsePort item.2.hostPort : ℤ) - 1 ∧
        s.previousContainerPort = (item.1.port : ℤ) - 1
    · rw [if_pos hnext]
      obtain h | ⟨before, containerPort, p, c, k, hbindings, hcontainer, hp, hpk, hc, hck, hhost, hprevious⟩ := h
      · omega
      · have hhostPort : parsePort item.2.hostPort = p + (k + 1) := by omega
        have hcontainerPort : item.1.port = c + (k + 1) := by omega
        have hextended : extendLast s.bindings (parsePort item.2.hostPort) item.1.port =
            before ++ [⟨addressText ip ++ rangeText p (p + (k + 1)), .text (rangeText c (c + (k + 1))), protocol⟩] := by
          have hnil : createPortRange (rangeText c (c + k)) (c + (k + 1)) = rangeText c (c + (k + 1)) :=
            @createPortRange_rangeText c (c + k) [] (c + (k + 1)) List.not_mem_nil (by omega) (by omega) (by omega)
          rw [hbindings, extendLast, List.getLast?_concat, List.dropLast_concat]
          dsimp only
          rw [hhostPort, hcontainerPort, hcontainer, hnil,
            createPortRange_rangeText hip.1 (by omega) (by omega) (by omega)]
        refine ⟨?_, .inr ⟨before, _, p, c, k + 1, hextended, rfl, hp, by omega, hc, by omega, by
          rw [hhostPort], by rw [hcontainerPort]⟩⟩
        -- the range is read as the range before, and the binding that is new
        have hrun : expand ⟨addressText ip ++ rangeText p (p + (k + 1)), .text (rangeText c (c + (k + 1))), protocol⟩ =
            some (runOf ip protocol p c (k + 1 + 1)) := expand_run hip hp (by omega) hc (by omega) rfl
        have hold : expand ⟨addressText ip ++ rangeText p (p + k), containerPort, protocol⟩ =
            some (runOf ip protocol p c (k + 1)) := expand_run hip hp hpk hc hck hcontainer
        have hnew : expand (line ip protocol item.1.port item.2) =
            some [(⟨c + (k + 1), protocol⟩, ⟨hostOption ip, numeral (p + (k + 1))⟩)] := by
          have hshown : Shown ip item.2.hostPort := by
            refine ⟨fun hnil => absurd (htext ▸ hnil) numeral_ne_nil, fun _ => ?_⟩
            have hdash : '-' ∉ item.2.hostPort := htext ▸ notMem_numeral (by decide)
            rw [parsePortRange_of_notMem hdash]
            exact hpos
          rw [expand_line hip hport hport' hreported, if_pos hshown, ← hcontainerPort, ← hhostPort, ← htext]
        rw [hextended, hbindings, expandAll_append, expandAll_append, expandAll_append, expandAll_singleton,
          expandAll_singleton, expandAll_singleton, hrun, hold, hnew, runOf_succ]
        cases expandAll before with
        | none => rfl
        | some entries => simp
    · rw [if_neg hnext]
      refine ⟨rfl, .inr ⟨s.bindings, .number item.1.port, parsePort item.2.hostPort, item.1.port, 0, ?_, ?_, hpos,
        hle, hport, hport', rfl, rfl⟩⟩
      · have hrange : ∀ n, rangeText n (n + 0) = numeral n := fun n => if_pos rfl
        rw [hrange, ← htext, ← @line_hostPort ip protocol item.1.port item.2]
        rfl
      · exact (if_pos rfl : rangeText item.1.port (item.1.port + 0) = numeral item.1.port).symm
  · rw [if_neg hpos]
    exact ⟨rfl, .inl rfl⟩

/-- **Combining is not seen**: the lines of an address are read as if each
binding had one of its own. -/
theorem expandAll_merged (hip : Plain ip) (hitems : ∀ item ∈ items, Reported protocol item) :
    expandAll (merged ip protocol items) =
      expandAll (items.map fun item => line ip protocol item.1.port item.2) := by
  have hrun : expandAll (merged ip protocol items) =
        expandAll (items.map fun item => line ip protocol item.1.port item.2) ∧
      ((combineAll ip protocol { portBindings := fun _ => [] } items).previousHostPort = -1 ∨
        EndsRun ip protocol (combineAll ip protocol { portBindings := fun _ => [] } items)) := by
    -- the induction takes the last binding off
    induction items using List.reverseRecOn with
    | nil => exact ⟨rfl, .inl rfl⟩
    | append_singleton items item ih =>
      obtain ⟨hlines, hprevious⟩ := ih fun item hitem => hitems item (List.mem_append_left _ hitem)
      have hstep := expandAll_combine hip (hitems item (List.mem_append_right _ List.mem_cons_self)) hprevious
      have hlast : combineAll ip protocol { portBindings := fun _ => [] } (items ++ [item]) =
          combine ip protocol (combineAll ip protocol { portBindings := fun _ => [] } items) item.1 item.2 := by
        rw [combineAll, List.foldl_append]
        rfl
      rw [merged, hlast, List.map_append, expandAll_append, ← hlines, hstep.1, expandAll_append]
      exact ⟨rfl, hstep.2⟩
  exact hrun.1

/-- The lines of an address that keeps to its place: all of them are read, if
each is. -/
theorem expandAll_merged_of_shown (hip : Plain ip) (hitems : ∀ item ∈ items, Reported protocol item)
    (hshown : ∀ item ∈ items, Shown ip item.2.hostPort) :
    expandAll (merged ip protocol items) =
      some (items.map fun item => (item.1, ⟨hostOption ip, item.2.hostPort⟩)) := by
  have hlines : (items.map fun item => line ip protocol item.1.port item.2).mapM expand =
      some (items.map fun item => [(item.1, ⟨hostOption ip, item.2.hostPort⟩)]) := by
    rw [List.mapM_map]
    refine Traverse.mapM_eq_some fun item hitem => ?_
    obtain ⟨rfl, hpos, hle, hport⟩ := hitems item hitem
    rw [Function.comp_apply, expand_line hip hpos hle hport, if_pos (hshown item hitem)]
  rw [expandAll_merged hip hitems, expandAll, hlines]
  exact congrArg some (List.flatMap_def.symm.trans (List.flatMap_pure_eq_map _ items))

/-- Only lines that are shown are read. -/
theorem shown_of_expandAll {entries : List (Key × Binding)} (hip : Plain ip)
    (hitems : ∀ item ∈ items, Reported protocol item) (h : expandAll (merged ip protocol items) = some entries) :
    ∀ item ∈ items, Shown ip item.2.hostPort := by
  intro item hitem
  rw [expandAll_merged hip hitems, expandAll, Option.map_eq_some_iff] at h
  obtain ⟨parts, hparts, -⟩ := h
  have hsome := Traverse.isSome_of_mapM hparts _ (List.mem_map_of_mem hitem)
  obtain ⟨-, hpos, hle, hport⟩ := hitems item hitem
  rw [expand_line hip hpos hle hport] at hsome
  by_contra hnot
  rw [if_neg hnot] at hsome
  nomatch hsome

/-! ## Addresses with colons -/

/-- The text of an address with colons, with ports behind it: what stands
before its first colon is read as the address. -/
def BadText (t : Text) : Prop :=
  '[' ∉ t ∧ ((∃ x rest, t = x ++ ':' :: rest ∧ x ≠ [] ∧ ':' ∉ x ∧ '.' ∉ x) ∨ (∃ rest, t = ':' :: ':' :: rest) ∨
    ∃ rest, t = '0' :: '-' :: rest ∧ ':' ∉ rest)

/-- A line of such an address. -/
def Bad (l : PortBinding) : Prop := l.containerPort.toText ≠ [] ∧ l.containerPort ≠ .number 0 ∧ BadText l.hostPort

theorem parsePortRange_fst_of_colon {rest : Text} : (parsePortRange (':' :: rest)).1 = 0 := by
  rw [parsePortRange]
  split
  · have hcut : (Text.cut '-' (':' :: rest)).1 = ':' :: (Text.cut '-' rest).1 := rfl
    show parsePort (Text.cut '-' (':' :: rest)).1 = 0
    rw [hcut]
    exact parsePort_of_mem (c := ':') List.mem_cons_self (by decide)
  · show parsePort (':' :: rest) = 0
    exact parsePort_of_mem (c := ':') List.mem_cons_self (by decide)

theorem parsePortRange_fst_of_zero {rest : Text} : (parsePortRange ('0' :: '-' :: rest)).1 = 0 := by
  rw [parsePortRange, if_pos (List.mem_cons_of_mem _ List.mem_cons_self)]
  rfl

theorem badText_zero (n : ℕ) : BadText (numeral 0 ++ '-' :: numeral n) := by
  have hnot : ∀ c : Char, c.isDigit = false → c ≠ '-' → c ∉ numeral 0 ++ '-' :: numeral n := by
    intro c hc hne
    rw [List.mem_append, List.mem_cons, not_or, not_or]
    exact ⟨notMem_numeral hc, hne, notMem_numeral hc⟩
  exact ⟨hnot '[' (by decide) (by decide), .inr (.inr ⟨numeral n, rfl, notMem_numeral (by decide)⟩)⟩

theorem badText_createPortRange {t : Text} (h : BadText t) (p : ℕ) : BadText (createPortRange t p) := by
  obtain ⟨hbracket, ⟨x, rest, rfl, hne, hcolon, hdot⟩ | ⟨rest, rfl⟩ | ⟨rest, rfl, hcolon⟩⟩ := h
  · have hmem : ':' ∈ x ++ ':' :: rest := List.mem_append_right _ List.mem_cons_self
    rw [createPortRange, if_pos hmem, if_pos hmem, Text.cut_append_cons hcolon]
    dsimp only
    rw [if_pos hne]
    refine ⟨?_, .inl ⟨x, _, rfl, hne, hcolon, hdot⟩⟩
    simp only [List.mem_append, List.mem_cons, not_or] at hbracket ⊢
    exact ⟨hbracket.1, by decide, notMem_numeral (by decide), by decide, notMem_numeral (by decide)⟩
  · have hmem : ':' ∈ ':' :: ':' :: rest := List.mem_cons_self
    have hcut : Text.cut ':' (':' :: ':' :: rest) = ([], ':' :: rest) := Text.cut_append_cons List.not_mem_nil
    rw [createPortRange, if_pos hmem, if_pos hmem, hcut]
    dsimp only
    rw [if_neg (not_not.mpr rfl), parsePortRange_fst_of_colon, Nat.zero_min]
    exact badText_zero _
  · have hmem : ':' ∉ '0' :: '-' :: rest := by
      rw [List.mem_cons, List.mem_cons, not_or, not_or]
      exact ⟨by decide, by decide, hcolon⟩
    rw [createPortRange, if_neg hmem, if_neg hmem]
    rw [if_neg (not_not.mpr rfl), parsePortRange_fst_of_zero, Nat.zero_min]
    exact badText_zero _

theorem createPortRange_ne_nil {t : Text} {p : ℕ} : createPortRange t p ≠ [] := by
  have hite : ∀ (q : Prop) [Decidable q] (u w : Text), u ≠ [] → w ≠ [] → (if q then u else w) ≠ [] := by
    intro q _ u w hu hw
    split
    · exact hu
    · exact hw
  exact hite _ _ _ (fun h => List.cons_ne_nil _ _ (List.append_eq_nil_iff.mp h).2)
    fun h => List.cons_ne_nil _ _ (List.append_eq_nil_iff.mp h).2

/-- What a host port is read as, if it is not empty. -/
theorem hostRange_of_ne_nil {t : Text} {range : ℕ × ℕ} (h : t ≠ []) : hostRange t range =
    (splitHost t).bind fun host =>
      if isValidPortRange (parsePortRange host.2) ∧ ¬ (range.2 ≠ range.1 ∧
          range.2 - range.1 ≠ (parsePortRange host.2).2 - (parsePortRange host.2).1) then
        some (host.1, parsePortRange host.2)
      else none := by
  rw [hostRange, if_neg h]
  rfl

/-- **What is read of such a line** is nothing, or bindings of an address that
is none. -/
theorem expand_bad {l : PortBinding} {entries : List (Key × Binding)} (h : Bad l) (hl : expand l = some entries) :
    ∃ e ∈ entries, ∃ x, e.2.hostIp = some x ∧ x ≠ [] ∧ ':' ∉ x ∧ '.' ∉ x := by
  obtain ⟨hne, hzero, hbracket, htext⟩ := h
  have hskip : ¬ (l.containerPort = .number 0 ∨ l.containerPort = .text []) := by
    rintro (h | h)
    · exact hzero h
    · exact hne (by rw [h]; rfl)
  rw [expand, if_neg hskip] at hl
  obtain ⟨hvalid, hl⟩ := Option.ite_none_right_eq_some.mp hl
  obtain ⟨⟨hostIp, first, last⟩, hhost, hl⟩ := Option.bind_eq_some_iff.mp hl
  have hnil : l.hostPort ≠ [] := by
    obtain ⟨x, rest, hx, -⟩ | ⟨rest, hx⟩ | ⟨rest, hx, -⟩ := htext
    · rw [hx]
      exact fun h => List.cons_ne_nil _ _ (List.append_eq_nil_iff.mp h).2
    · rw [hx]
      exact List.cons_ne_nil _ _
    · rw [hx]
      exact List.cons_ne_nil _ _
  rw [hostRange_of_ne_nil hnil, splitHost, if_neg hbracket] at hhost
  obtain ⟨x, rest, hx, hxne, hcolon, hdot⟩ | ⟨rest, hx⟩ | ⟨rest, hx, hcolon⟩ := htext
  · have hmem : ':' ∈ l.hostPort := hx ▸ List.mem_append_right _ List.mem_cons_self
    rw [if_pos hmem, hx, Text.cut_append_cons hcolon, Option.bind_some] at hhost
    obtain ⟨-, hhost⟩ := Option.ite_none_right_eq_some.mp hhost
    obtain ⟨rfl, -⟩ := Prod.mk.inj (Option.some.inj hhost)
    refine ⟨_, Option.some.inj hl ▸ List.mem_map_of_mem (List.mem_range.mpr (Nat.succ_pos _)), x, rfl, hxne, hcolon,
      hdot⟩
  · have hmem : ':' ∈ l.hostPort := hx ▸ List.mem_cons_self
    have hcut : Text.cut ':' (':' :: ':' :: rest) = ([], ':' :: rest) := Text.cut_append_cons List.not_mem_nil
    rw [if_pos hmem, hx, hcut, Option.bind_some] at hhost
    obtain ⟨⟨hvalid, -⟩, -⟩ := Option.ite_none_right_eq_some.mp hhost
    exact absurd hvalid.1 (lt_irrefl 0)
  · have hmem : ':' ∉ l.hostPort := by
      rw [hx, List.mem_cons, List.mem_cons, not_or, not_or]
      exact ⟨by decide, by decide, hcolon⟩
    rw [if_neg hmem, Option.bind_some] at hhost
    obtain ⟨⟨hvalid, -⟩, -⟩ := Option.ite_none_right_eq_some.mp hhost
    have hpos : 0 < (parsePortRange l.hostPort).1 := hvalid.1
    rw [hx, parsePortRange_fst_of_zero] at hpos
    exact absurd hpos (lt_irrefl 0)

/-- An address with colons, as Docker reports it: two colons at the start, or
a group of digits before the first. -/
def Colons (ip : Text) : Prop :=
  '[' ∉ ip ∧ ((∃ x rest, ip = x ++ ':' :: rest ∧ x ≠ [] ∧ ':' ∉ x ∧ '.' ∉ x) ∨ ∃ rest, ip = ':' :: ':' :: rest)

theorem badText_line {t : Text} (h : Colons ip) (ht : '[' ∉ t) : BadText (addressText ip ++ t) := by
  obtain ⟨hbracket, hcolons⟩ := h
  have hne : ip ≠ [] := by
    obtain ⟨x, rest, rfl, -⟩ | ⟨rest, rfl⟩ := hcolons
    · exact fun h => List.cons_ne_nil _ _ (List.append_eq_nil_iff.mp h).2
    · exact List.cons_ne_nil _ _
  rw [addressText, if_pos hne]
  refine ⟨?_, ?_⟩
  · simp only [List.mem_append, List.mem_singleton, not_or]
    exact ⟨⟨hbracket, by decide⟩, ht⟩
  · obtain ⟨x, rest, rfl, hx⟩ | ⟨rest, rfl⟩ := hcolons
    · exact .inl ⟨x, rest ++ [':'] ++ t, by simp, hx⟩
    · exact .inr (.inl ⟨rest ++ [':'] ++ t, by simp⟩)

theorem notMem_reportedPort {t : Text} (h : ReportedPort t) : '[' ∉ t := by
  obtain rfl | ⟨a, b, -, -, rfl⟩ := h
  · exact List.not_mem_nil
  · exact notMem_rangeText (by decide) (by decide)

/-- **The lines of an address with colons** are all bad, and there is one if
there is a binding. -/
theorem bad_merged (hip : Colons ip) (hitems : ∀ item ∈ items, Reported protocol item) :
    (∀ l ∈ merged ip protocol items, Bad l) ∧ (items ≠ [] → merged ip protocol items ≠ []) := by
  have hline : ∀ item ∈ items, Bad (line ip protocol item.1.port item.2) := by
    intro item hitem
    obtain ⟨-, hpos, -, hport⟩ := hitems item hitem
    refine ⟨numeral_ne_nil, fun h => ?_, ?_⟩
    · have hzero : item.1.port = 0 := ContainerPort.number.inj h
      omega
    · rw [line_hostPort]
      exact badText_line hip (notMem_reportedPort hport)
  induction items using List.reverseRecOn with
  | nil => exact ⟨fun l hl => (nomatch hl), fun h => absurd rfl h⟩
  | append_singleton items item ih =>
    obtain ⟨hbad, -⟩ := ih (fun item hitem => hitems item (List.mem_append_left _ hitem))
      fun item hitem => hline item (List.mem_append_left _ hitem)
    have hlast : merged ip protocol (items ++ [item]) =
        (combine ip protocol (combineAll ip protocol { portBindings := fun _ => [] } items) item.1 item.2).bindings := by
      rw [merged, combineAll, List.foldl_append]
      rfl
    have hnew : Bad (line ip protocol item.1.port item.2) := hline item (List.mem_append_right _ List.mem_cons_self)
    have hpush : ∀ l ∈ merged ip protocol items ++ [line ip protocol item.1.port item.2], Bad l := by
      intro l hl
      obtain hl | hl := List.mem_append.mp hl
      · exact hbad l hl
      · exact List.mem_singleton.mp hl ▸ hnew
    have hpushed : ∀ l : PortBinding, merged ip protocol items ++ [l] ≠ [] :=
      fun l h => List.cons_ne_nil _ _ (List.append_eq_nil_iff.mp h).2
    rw [hlast]
    unfold combine
    dsimp only
    split
    · split
      · next hnext =>
        obtain ⟨lines, last, hlines⟩ := (List.eq_nil_or_concat _).resolve_left hnext.1
        rw [List.concat_eq_append] at hlines
        have hlastBad : Bad last := hbad last (by
          show last ∈ (combineAll ip protocol { portBindings := fun _ => [] } items).bindings
          rw [hlines]
          exact List.mem_append_right _ List.mem_cons_self)
        rw [hlines, extendLast, List.getLast?_concat, List.dropLast_concat]
        dsimp only
        refine ⟨fun l hl => ?_, fun _ h => List.cons_ne_nil _ _ (List.append_eq_nil_iff.mp h).2⟩
        obtain hl | hl := List.mem_append.mp hl
        · refine hbad l ?_
          show l ∈ (combineAll ip protocol { portBindings := fun _ => [] } items).bindings
          rw [hlines]
          exact List.mem_append_left _ hl
        · rw [List.mem_singleton.mp hl]
          exact ⟨createPortRange_ne_nil, fun h => (nomatch h), badText_createPortRange hlastBad.2.2 _⟩
      · exact ⟨hpush, fun _ => hpushed _⟩
    · exact ⟨hpush, fun _ => hpushed _⟩

end Ports

end Portainer
