import Mathlib.Algebra.BigOperators.Group.List.Basic
import Portainer.Common.Quantity
/-!
# Applications — what the containers reserve

`helpers/resourceReservationHelper` and `converters/application`. The
quantities of processor time and memory that containers state are read as
numbers and added up. `exact_reservation_iff` says when the processor time is
exact: the quantities must be written with digits and without a suffix, or in
thousandths or billionths; `misreads_micro` is one in millionths.

`filesizeParser` stands for the package that reads the memory, which may throw.
-/

namespace Portainer

namespace Reservations

abbrev Text := List Char

/-- A number; nothing stands for `NaN`. -/
abbrev Number := Option ℚ

/-- The quantities a container states, written as `α`. -/
structure Quantities (α : Type) where
  memory : Option Text := none
  cpu : Option α := none

/-- A container of a pod. -/
structure PodContainer (α : Type) where
  requests : Option (Quantities α) := none

structure Pod (α : Type) where
  containers : List (PodContainer α)

/-- A container as the API server returns it. -/
structure Container (α : Type) where
  limits : Option (Quantities α) := none
  requests : Option (Quantities α) := none

/-- The specification of a workload with a template, or of a pod. -/
inductive Spec (α : Type) where
  | template (containers : List (Container α)) (initContainers : Option (List (Container α)))
  | pod (containers : List (Container α))

structure KubernetesResourceReservation where
  memory : Number := some 0
  cpu : Number := some 0

/-! ## The code -/

def parseCPU (cpu : Text) : Number :=
  (parseInt cpu).map fun res : ℤ =>
    if cpu.getLast? = some 'm' then (res : ℚ) / 1000
    else if cpu.getLast? = some 'n' then (res : ℚ) / 1000000000
    else (res : ℚ)

/-- `NaN` makes every sum `NaN`. -/
def add (a b : Number) : Number := a.bind fun x => b.map fun y => x + y

variable (filesizeParser : Text → Option Number)

/-- Nothing where the parser throws. An empty text is not stated. -/
def addMemory (memory : Number) : Option Text → Option Number
  | none => some memory
  | some m => if m ≠ [] then (filesizeParser m).map (add memory) else some memory

def addCpu (cpu : Number) : Option Text → Number
  | none => cpu
  | some c => if c ≠ [] then add cpu (parseCPU c) else cpu

/-- What one container adds. -/
def addQuantities (acc : KubernetesResourceReservation) :
    Option (Quantities Text) → Option KubernetesResourceReservation
  | none => some acc
  | some requests => (addMemory filesizeParser acc.memory requests.memory).map fun memory =>
    { memory := memory, cpu := addCpu acc.cpu requests.cpu }

def computeResourceReservation (pods : List (Pod Text)) : Option KubernetesResourceReservation :=
  (pods.flatMap Pod.containers).foldlM (fun acc container => addQuantities filesizeParser acc container.requests) {}

def Spec.allContainers {α : Type} : Spec α → List (Container α)
  | .template containers initContainers => containers ++ initContainers.getD []
  | .pod containers => containers

/-- `res.Limits` of `applicationCommon`. -/
def applicationLimits (data : Spec Text) : Option KubernetesResourceReservation :=
  data.allContainers.foldlM (fun acc item => addQuantities filesizeParser acc item.limits) {}

/-- `res.Requests` of `applicationCommon`. -/
def applicationRequests (data : Spec Text) : Option KubernetesResourceReservation :=
  data.allContainers.foldlM (fun acc item => addQuantities filesizeParser acc item.requests) {}

/-! ## The property -/

section
variable {α β : Type} (f : α → β)

def Quantities.map (r : Quantities α) : Quantities β := ⟨r.memory, r.cpu.map f⟩

def PodContainer.map (c : PodContainer α) : PodContainer β := ⟨c.requests.map (Quantities.map f)⟩

def Pod.map (p : Pod α) : Pod β := ⟨p.containers.map (PodContainer.map f)⟩

def Container.map (c : Container α) : Container β :=
  ⟨c.limits.map (Quantities.map f), c.requests.map (Quantities.map f)⟩

def Spec.map : Spec α → Spec β
  | .template containers initContainers =>
    .template (containers.map (Container.map f)) (initContainers.map (List.map (Container.map f)))
  | .pod containers => .pod (containers.map (Container.map f))

end

/-- The processor times that are stated. -/
def cpus (stated : List (Option (Quantities Quantity))) : List Quantity := stated.filterMap fun r => r.bind Quantities.cpu

/-- The quantities of memory that are stated. -/
def memories (stated : List (Option (Quantities Quantity))) : List Text :=
  (stated.filterMap fun r => r.bind Quantities.memory).filter (· ≠ [])

/-- **The sum is exact**: each processor time that is stated is read as its
value, and what is computed is their sum. -/
structure Exact (stated : List (Option (Quantities Quantity))) (computed : Option KubernetesResourceReservation) :
    Prop where
  read : ∀ q ∈ cpus stated, parseCPU q.text = some q.value
  sum : ∃ reservation, computed = some reservation ∧ reservation.cpu = some ((cpus stated).map Quantity.value).sum

/-- **A processor time that can be read**: no digits but zeros behind the
point, and in ones, thousandths or billionths, or nothing at all. -/
def Readable (q : Quantity) : Prop :=
  q.IsWhole ∧ (q.suffix = .none ∨ q.suffix = .milli ∨ q.suffix = .nano ∨ ∀ c ∈ q.whole, c = '0')

/-- All that is stated can be read. -/
structure AllReadable (stated : List (Option (Quantities Quantity))) : Prop where
  cpu : ∀ q ∈ cpus stated, Readable q
  memory : ∀ m ∈ memories stated, (filesizeParser m).isSome

/-! ## One quantity -/

variable {filesizeParser}

theorem text_ne_nil (q : Quantity) : q.text ≠ [] := by
  intro hnil
  rw [Quantity.text, List.append_eq_nil_iff, List.append_eq_nil_iff] at hnil
  obtain ⟨⟨-, hwhole⟩, htail⟩ := hnil
  rw [Quantity.tail, List.append_eq_nil_iff] at htail
  obtain hne | hne := q.ne_nil
  · exact hne hwhole
  · cases hfraction : q.fraction with
    | none =>
      rw [hfraction] at hne
      exact hne rfl
    | some digits =>
      rw [hfraction] at htail
      cases htail.1

/-- The text without the suffix has digits, a sign and a point. -/
theorem mem_front {q : Quantity} {c : Char} (h : q.suffix = .none) (hc : c ∈ q.text) :
    c.isDigit = true ∨ c = '+' ∨ c = '.' := by
  rw [Quantity.text, Quantity.tail, h, Suffix.symbol, List.append_nil, List.mem_append, List.mem_append] at hc
  obtain (hplus | hwhole) | hpoint := hc
  · cases hq : q.plus with
    | true =>
      rw [hq] at hplus
      exact .inr (.inl (List.mem_singleton.mp hplus))
    | false =>
      rw [hq] at hplus
      cases hplus
  · exact .inl (q.isDigit_whole c hwhole)
  · have hdigits := q.isDigit_fraction
    cases hfraction : q.fraction with
    | none =>
      rw [hfraction] at hpoint
      cases hpoint
    | some digits =>
      rw [hfraction] at hpoint hdigits
      obtain rfl | hmem := List.mem_cons.mp hpoint
      · exact .inr (.inr rfl)
      · exact .inl (hdigits c hmem)

/-- The last character is that of the suffix, if there is one. -/
theorem getLast_text (q : Quantity) (c : Char) (hc : c.isDigit = false ∧ c ≠ '+' ∧ c ≠ '.') :
    q.text.getLast? = some c ↔ q.suffix.symbol.getLast? = some c := by
  by_cases hnone : q.suffix = .none
  · refine iff_of_false (fun hlast => ?_) (by rw [hnone]; exact nofun)
    obtain hdigit | hplus | hpoint := mem_front hnone (List.mem_of_getLast? hlast)
    · rw [hc.1] at hdigit
      nomatch hdigit
    · exact hc.2.1 hplus
    · exact hc.2.2 hpoint
  · have hne : q.suffix.symbol ≠ [] := by
      cases hq : q.suffix <;> first | exact absurd hq hnone | exact List.cons_ne_nil _ _
    rw [Quantity.text, Quantity.tail, ← List.append_assoc, List.getLast?_append_of_ne_nil _ hne]

/-- What the digits are divided by. -/
def divisor : Suffix → ℚ
  | .milli => 1000
  | .nano => 1000000000
  | _ => 1

theorem parseCPU_text (q : Quantity) :
    parseCPU q.text = if q.whole = [] then none else some ((digitsValue q.whole : ℚ) / divisor q.suffix) := by
  have hmilli := getLast_text q 'm' (by decide)
  have hnano := getLast_text q 'n' (by decide)
  rw [parseCPU, q.parseInt_text]
  by_cases hwhole : q.whole = []
  · rw [if_pos hwhole, if_pos hwhole]
    rfl
  · rw [if_neg hwhole, if_neg hwhole, Option.map_some, Int.cast_natCast]
    refine congrArg some ?_
    cases hsuffix : q.suffix <;> rw [hsuffix] at hmilli hnano
    case milli => rw [if_pos (hmilli.mpr rfl), divisor]
    case nano => rw [if_neg fun h => (nomatch hmilli.mp h), if_pos (hnano.mpr rfl), divisor]
    all_goals
      rw [if_neg fun h => absurd (hmilli.mp h) (by decide), if_neg fun h => absurd (hnano.mp h) (by decide), divisor]
      · exact (div_one _).symm
      all_goals exact fun h => nomatch h

/-- Another factor is only exact of nothing. -/
theorem eq_mul_iff (q : Quantity) {factor : ℚ} (h : 2 ≤ factor ∨ 0 < factor ∧ factor ≤ 1 / 2) :
    (digitsValue q.whole : ℚ) = q.number * factor ↔
      (digitsValue q.whole : ℚ) = q.number ∧ digitsValue q.whole = 0 := by
  obtain ⟨hle, hlt⟩ := q.number_bounds
  have hnonneg : (0 : ℚ) ≤ digitsValue q.whole := Nat.cast_nonneg _
  have hpos : 0 < factor := by
    obtain h | h := h
    · linarith
    · exact h.1
  constructor
  · intro heq
    have hzero : digitsValue q.whole = 0 := by
      obtain h | ⟨-, h⟩ := h
      · -- a multiple of the number is more than its digits
        have hmul : q.number * 2 ≤ q.number * factor := mul_le_mul_of_nonneg_left h (by linarith)
        have hcast : (digitsValue q.whole : ℚ) = 0 := by linarith
        exact_mod_cast hcast
      · -- a part of the number is less than one
        have hmul : q.number * factor ≤ q.number * (1 / 2) := mul_le_mul_of_nonneg_left h (by linarith)
        have hcast : (digitsValue q.whole : ℚ) < 1 := by linarith
        have hnat : digitsValue q.whole < 1 := by exact_mod_cast hcast
        omega
    rw [hzero, Nat.cast_zero] at heq
    have hnumber : q.number = 0 := (mul_eq_zero.mp heq.symm).resolve_right hpos.ne'
    exact ⟨by rw [hzero, hnumber, Nat.cast_zero], hzero⟩
  · rintro ⟨heq, hzero⟩
    rw [hzero, Nat.cast_zero] at heq
    rw [hzero, Nat.cast_zero, ← heq, zero_mul]

/-- **A processor time is read as its value** exactly if it can be read. -/
theorem parseCPU_iff (q : Quantity) : parseCPU q.text = some q.value ↔ Readable q := by
  rw [parseCPU_text, Readable, Quantity.IsWhole, Quantity.value]
  by_cases hwhole : q.whole = []
  · rw [if_pos hwhole]
    exact iff_of_false (Option.some_ne_none _).symm fun h => h.1.1 hwhole
  · have hfraction := q.number_eq_whole_iff
    have hzero := digitsValue_eq_zero_iff q.isDigit_whole
    rw [if_neg hwhole, Option.some.injEq]
    have hscaled : ∀ factor : ℚ, 2 ≤ factor ∨ 0 < factor ∧ factor ≤ 1 / 2 →
        ((digitsValue q.whole : ℚ) / 1 = q.number * factor ↔
          (q.whole ≠ [] ∧ ∀ c ∈ q.fraction.getD [], c = '0') ∧ ∀ c ∈ q.whole, c = '0') := by
      intro factor hfactor
      rw [div_one, eq_mul_iff q hfactor, hfraction, hzero]
      exact and_congr_left fun _ => (and_iff_right hwhole).symm
    have hunscaled : ∀ d : ℚ, d ≠ 0 → ((digitsValue q.whole : ℚ) / d = q.number * (1 / d) ↔
        q.whole ≠ [] ∧ ∀ c ∈ q.fraction.getD [], c = '0') := by
      intro d hd
      rw [mul_one_div, div_left_inj' hd, hfraction]
      exact (and_iff_right hwhole).symm
    cases hsuffix : q.suffix
    case none =>
      have hone := hunscaled 1 one_ne_zero
      rw [one_div_one] at hone
      exact hone.trans (and_iff_left (.inl rfl)).symm
    case milli =>
      refine Iff.trans ?_ (and_iff_left (.inr (.inl rfl))).symm
      have hmilli := hunscaled 1000 (by norm_num)
      rw [show Suffix.milli.factor = 1 / 1000 by norm_num [Suffix.factor]]
      exact hmilli
    case nano =>
      refine Iff.trans ?_ (and_iff_left (.inr (.inr (.inl rfl)))).symm
      have hnano := hunscaled 1000000000 (by norm_num)
      rw [show Suffix.nano.factor = 1 / 1000000000 by norm_num [Suffix.factor]]
      exact hnano
    all_goals
      refine (hscaled _ (by norm_num [Suffix.factor])).trans (and_congr_right fun _ => ?_)
      refine ⟨fun h => .inr (.inr (.inr h)), fun h => ?_⟩
      rcases h with h | h | h | h
      · cases h
      · cases h
      · cases h
      · exact h

/-! ## The sum -/

/-- What a container states, as texts. -/
def written (stated : Option (Quantities Quantity)) : Option (Quantities Text) :=
  stated.map (Quantities.map Quantity.text)

theorem cpus_cons (r : Option (Quantities Quantity)) (stated : List (Option (Quantities Quantity))) :
    cpus (r :: stated) = (r.bind Quantities.cpu).toList ++ cpus stated := by
  rw [cpus, List.filterMap_cons, cpus]
  cases r.bind Quantities.cpu <;> rfl

theorem memories_cons (r : Option (Quantities Quantity)) (stated : List (Option (Quantities Quantity))) :
    memories (r :: stated) = (r.bind Quantities.memory).toList.filter (· ≠ []) ++ memories stated := by
  rw [memories, memories, List.filterMap_cons]
  cases hmemory : r.bind Quantities.memory with
  | none => rfl
  | some m => exact List.filter_append (p := fun m => decide (m ≠ [])) [m] _

/-- One container: the parser throws or not, and the processor time is
added. -/
theorem addQuantities_written (acc : KubernetesResourceReservation) (r : Option (Quantities Quantity)) :
    ((addQuantities filesizeParser acc (written r)).isSome ↔
      ∀ m ∈ (r.bind Quantities.memory).toList.filter (· ≠ []), (filesizeParser m).isSome) ∧
    ∀ next, addQuantities filesizeParser acc (written r) = some next →
      next.cpu = (r.bind Quantities.cpu).elim acc.cpu fun q => add acc.cpu (parseCPU q.text) := by
  cases r with
  | none =>
    refine ⟨iff_of_true rfl (List.forall_mem_nil _), ?_⟩
    rintro next ⟨⟩
    rfl
  | some requests =>
    refine ⟨?_, fun next hnext => ?_⟩
    · show ((addMemory filesizeParser acc.memory requests.memory).map _).isSome ↔
        ∀ m ∈ requests.memory.toList.filter (· ≠ []), (filesizeParser m).isSome
      rw [Option.isSome_map]
      cases requests.memory with
      | none => exact iff_of_true rfl (List.forall_mem_nil _)
      | some m =>
        rw [addMemory]
        by_cases hne : m = []
        · rw [if_neg (not_not.mpr hne), hne]
          exact iff_of_true rfl (List.forall_mem_nil _)
        · have hfilter : (some m).toList.filter (· ≠ []) = [m] := List.filter_eq_self.mpr fun x hx => by
            rw [List.mem_singleton.mp hx]
            exact decide_eq_true hne
          rw [if_pos hne, hfilter, List.forall_mem_singleton, Option.isSome_map]
    · obtain ⟨memory, -, rfl⟩ := Option.map_eq_some_iff.mp hnext
      show addCpu acc.cpu (requests.cpu.map Quantity.text) = requests.cpu.elim _ _
      cases requests.cpu with
      | none => rfl
      | some q => exact if_pos (text_ne_nil q)

/-- **All containers**: nothing throws exactly if the memory can be read, and
then the processor times are added up. -/
theorem foldlM_written (stated : List (Option (Quantities Quantity))) : ∀ acc : KubernetesResourceReservation,
    (((stated.map written).foldlM (addQuantities filesizeParser) acc).isSome ↔
      ∀ m ∈ memories stated, (filesizeParser m).isSome) ∧
    ∀ x, acc.cpu = some x → (∀ q ∈ cpus stated, parseCPU q.text = some q.value) →
      ∀ last, (stated.map written).foldlM (addQuantities filesizeParser) acc = some last →
        last.cpu = some (x + ((cpus stated).map Quantity.value).sum) := by
  induction stated with
  | nil =>
    intro acc
    refine ⟨iff_of_true rfl (List.forall_mem_nil _), ?_⟩
    rintro x hx - last ⟨⟩
    rw [hx]
    exact congrArg some (add_zero x).symm
  | cons r stated ih =>
    intro acc
    obtain ⟨hsome, hcpu⟩ := @addQuantities_written filesizeParser acc r
    rw [List.map_cons, List.foldlM_cons, memories_cons, cpus_cons, List.forall_mem_append, ← hsome]
    cases hnext : addQuantities filesizeParser acc (written r) with
    | none =>
      refine ⟨iff_of_false nofun fun h => (nomatch h.1), fun x _ _ last hlast => ?_⟩
      nomatch hlast
    | some next =>
      obtain ⟨hrest, hsum⟩ := ih next
      refine ⟨hrest.trans (and_iff_right rfl).symm, fun x hx hread last hlast => ?_⟩
      have hfirst := hcpu next hnext
      cases hq : r.bind Quantities.cpu with
      | none =>
        rw [hq] at hfirst hread
        exact hsum x (hfirst.trans hx) hread last hlast
      | some q =>
        rw [hq] at hfirst hread
        have hparse : parseCPU q.text = some q.value := hread q List.mem_cons_self
        have hadded : next.cpu = some (x + q.value) := by
          rw [hfirst, Option.elim_some, hx, hparse]
          rfl
        rw [hsum _ hadded (fun q' hq' => hread q' (List.mem_cons_of_mem q hq')) last hlast]
        refine congrArg some ?_
        rw [Option.toList_some, List.map_append, List.sum_append, List.map_singleton, List.sum_singleton, add_assoc]

/-- **A sum is exact** exactly if all that is stated can be read. -/
theorem exact_totals_iff (stated : List (Option (Quantities Quantity))) :
    Exact stated ((stated.map written).foldlM (addQuantities filesizeParser) {}) ↔ AllReadable filesizeParser stated := by
  obtain ⟨hsome, hsum⟩ := @foldlM_written filesizeParser stated {}
  constructor
  · rintro ⟨hread, reservation, hreservation, -⟩
    refine ⟨fun q hq => (parseCPU_iff q).mp (hread q hq), hsome.mp ?_⟩
    exact Option.isSome_iff_exists.mpr ⟨reservation, hreservation⟩
  · rintro ⟨hcpu, hmemory⟩
    have hread : ∀ q ∈ cpus stated, parseCPU q.text = some q.value := fun q hq => (parseCPU_iff q).mpr (hcpu q hq)
    obtain ⟨reservation, hreservation⟩ := Option.isSome_iff_exists.mp (hsome.mpr hmemory)
    refine ⟨hread, reservation, hreservation, ?_⟩
    rw [hsum 0 rfl hread reservation hreservation, zero_add]

/-- What the containers of pods request. -/
def podRequests (pods : List (Pod Quantity)) : List (Option (Quantities Quantity)) :=
  (pods.flatMap Pod.containers).map PodContainer.requests

theorem computeResourceReservation_eq (pods : List (Pod Quantity)) :
    computeResourceReservation filesizeParser (pods.map (Pod.map Quantity.text)) =
      ((podRequests pods).map written).foldlM (addQuantities filesizeParser) {} := by
  have hcontainers : (pods.map (Pod.map Quantity.text)).flatMap Pod.containers =
      (pods.flatMap Pod.containers).map (PodContainer.map Quantity.text) := by
    rw [List.flatMap_map, List.map_flatMap]
    rfl
  rw [computeResourceReservation, hcontainers, podRequests, List.foldlM_map, List.foldlM_map, List.foldlM_map]
  rfl

theorem allContainers_map {α β : Type} (f : α → β) (data : Spec α) :
    (data.map f).allContainers = data.allContainers.map (Container.map f) := by
  cases data with
  | template containers initContainers =>
    cases initContainers with
    | none =>
      show containers.map (Container.map f) ++ [] = (containers ++ []).map (Container.map f)
      rw [List.append_nil, List.append_nil]
    | some init => exact List.map_append.symm
  | pod containers => rfl

theorem foldlM_containers (field : ∀ {α : Type}, Container α → Option (Quantities α))
    (hfield : ∀ c : Container Quantity, field (c.map Quantity.text) = written (field c)) (data : Spec Quantity) :
    (data.map Quantity.text).allContainers.foldlM (fun acc item => addQuantities filesizeParser acc (field item)) {} =
      ((data.allContainers.map field).map written).foldlM (addQuantities filesizeParser) {} := by
  rw [allContainers_map, List.foldlM_map, List.foldlM_map, List.foldlM_map]
  simp only [hfield]

/-- **The reservations are exact** exactly if all that is stated can be read:
a quantity, the requests of pods, and the limits and the requests of an
application. -/
theorem exact_reservation_iff (filesizeParser : Text → Option Number) :
    (∀ q : Quantity, parseCPU q.text = some q.value ↔ Readable q) ∧
    (∀ pods : List (Pod Quantity),
      Exact (podRequests pods) (computeResourceReservation filesizeParser (pods.map (Pod.map Quantity.text))) ↔
        AllReadable filesizeParser (podRequests pods)) ∧
    ∀ data : Spec Quantity,
      (Exact (data.allContainers.map Container.limits) (applicationLimits filesizeParser (data.map Quantity.text)) ↔
        AllReadable filesizeParser (data.allContainers.map Container.limits)) ∧
      (Exact (data.allContainers.map Container.requests) (applicationRequests filesizeParser (data.map Quantity.text)) ↔
        AllReadable filesizeParser (data.allContainers.map Container.requests)) := by
  refine ⟨parseCPU_iff, fun pods => ?_, fun data => ⟨?_, ?_⟩⟩
  · rw [computeResourceReservation_eq]
    exact exact_totals_iff _
  · rw [applicationLimits, foldlM_containers Container.limits fun _ => rfl]
    exact exact_totals_iff _
  · rw [applicationRequests, foldlM_containers Container.requests fun _ => rfl]
    exact exact_totals_iff _

/-- A hundred millionths. -/
def hundredMicro : Quantity where
  whole := ['1', '0', '0']
  suffix := .micro
  isDigit_whole := List.all_eq_true.mp rfl
  isDigit_fraction := List.forall_mem_nil _
  ne_nil := .inl (List.cons_ne_nil _ _)

/-- **A hundred millionths are read as a hundred.** -/
theorem misreads_micro : parseCPU hundredMicro.text = some 100 ∧ hundredMicro.value = 1 / 10000 ∧
    ¬ ∀ q : Quantity, parseCPU q.text = some q.value := by
  refine ⟨?_, ?_, fun h => ?_⟩
  · have hdigits : digitsValue hundredMicro.whole = 100 := by decide
    rw [parseCPU_text, if_neg (show hundredMicro.whole ≠ [] from List.cons_ne_nil _ _), hdigits]
    norm_num [hundredMicro, divisor]
  · have hdigits : digitsValue ['1', '0', '0'] = 100 := by decide
    have hnone : digitsValue [] = 0 := rfl
    norm_num [Quantity.value, Quantity.number, hundredMicro, Suffix.factor, hdigits, hnone]
  · obtain ⟨-, hsuffix⟩ := (parseCPU_iff hundredMicro).mp (h hundredMicro)
    obtain h | h | h | hzero := hsuffix
    · cases h
    · cases h
    · cases h
    · exact absurd (hzero '1' List.mem_cons_self) (by decide)

end Reservations

end Portainer
