import Portainer.Common.Collections
import Portainer.Common.Product
import Portainer.Common.Text
/-!
# Services — placement constraints

`matchesServiceConstraints` tells whether the tasks of a service may be placed
on a node. A constraint is recognised by the first of five patterns that occurs
anywhere in its text, values included, and kept in one slot for each pattern,
so that a later one takes the place of an earlier one. The operator of a
constraint on a label is not looked at.

`exactly_matched_iff` says for which lists of constraints every node is matched exactly
if it satisfies them all: in each slot, the constraint that was read last says
what all constraints on the attribute say together.
-/

namespace Portainer

namespace Constraints

open JsText (trim Trimmed isBlank)

abbrev Text := List Char

/-! ## The constraints helper -/

/-- `patterns.op`. -/
inductive Op
  | eq
  | neq
  deriving DecidableEq, Repr

def Op.symbol : Op → Text
  | .eq => ['=', '=']
  | .neq => ['!', '=']

/-- The attributes of a node that are texts. -/
inductive Attribute
  | nodeId
  | nodeHostname
  | nodeRole
  deriving DecidableEq, Repr

/-- The sets of labels of a node. -/
inductive LabelSet
  | nodeLabels
  | engineLabels
  deriving DecidableEq, Repr

/-- `patterns.id`. -/
inductive Slot
  | own (a : Attribute)
  | labels (l : LabelSet)
  deriving DecidableEq, Repr

def Slot.pattern : Slot → Text
  | .own .nodeId => ['n', 'o', 'd', 'e', '.', 'i', 'd']
  | .own .nodeHostname => ['n', 'o', 'd', 'e', '.', 'h', 'o', 's', 't', 'n', 'a', 'm', 'e']
  | .own .nodeRole => ['n', 'o', 'd', 'e', '.', 'r', 'o', 'l', 'e']
  | .labels .nodeLabels => ['n', 'o', 'd', 'e', '.', 'l', 'a', 'b', 'e', 'l', 's', '.']
  | .labels .engineLabels => ['e', 'n', 'g', 'i', 'n', 'e', '.', 'l', 'a', 'b', 'e', 'l', 's', '.']

/-- The cases of the `switch`, in their order. -/
def Slot.cases : List Slot :=
  [.own .nodeId, .own .nodeHostname, .own .nodeRole, .labels .nodeLabels, .labels .engineLabels]

/-- `ConstraintModel`. -/
structure ConstraintModel where
  op : Option Op
  key : Text
  value : Text
  deriving DecidableEq, Repr

/-- What `transformConstraints` makes: an object with a property for each slot. -/
abbrev Transform := Slot → Option ConstraintModel

/-- `constraint.split(op)`: `split(undefined)` is the whole text. -/
def splitAt (constraint : Text) : Option Op → List Text
  | some op => Text.split op.symbol constraint
  | none => [constraint]

def extractValue (constraint : Text) (op : Option Op) : Text := trim ((splitAt constraint op).getLastD [])

def extractCustomLabelKey (constraint : Text) (op : Option Op) (baseLabelKey : Text) : Text :=
  Text.without baseLabelKey (trim ((splitAt constraint op).headD []))

/-- The operator that the text includes. A `var` of a loop keeps its value
from round to round: without an operator, that of the round before stays. -/
def operator (constraint : Text) (op : Option Op) : Option Op :=
  if Op.eq.symbol <:+: constraint then some .eq
  else if Op.neq.symbol <:+: constraint then some .neq
  else op

def extractKey (constraint : Text) (op : Option Op) : Slot → Text
  | .own _ => []
  | .labels l => extractCustomLabelKey constraint op (Slot.labels l).pattern

/-- One round of the loop of `transformConstraints`. -/
def transformConstraint (transform : Option Op × Transform) (constraint : Text) : Option Op × Transform :=
  let op := operator constraint transform.1
  let value := extractValue constraint op
  match Slot.cases.find? fun s => s.pattern <:+: constraint with
  | some s => (op, Function.update transform.2 s (some ⟨op, extractKey constraint op s, value⟩))
  | none => (op, transform.2)

def transformConstraints (constraints : List Text) : Transform :=
  (constraints.foldl transformConstraint (none, fun _ => none)).2

/-- A label of a node. -/
structure Label where
  key : Text
  value : Text
  deriving DecidableEq, Repr

/-- The labels of a node, made from the properties of an object: no two have
the same key. -/
structure Labels where
  toList : List Label
  nodup : (toList.map Label.key).Nodup

structure Node where
  id : Text
  hostname : Text
  role : Text
  labels : Labels
  engineLabels : Labels

def matchesConstraint (value : Text) : Option ConstraintModel → Bool
  | none => true
  | some constraint =>
    (constraint.op = some .eq ∧ value = constraint.value) ∨ (constraint.op = some .neq ∧ value ≠ constraint.value)

def matchesLabel (labels : Labels) : Option ConstraintModel → Bool
  | none => true
  | some constraint =>
    (labels.toList.find? fun label => label.key = constraint.key ∧ label.value = constraint.value).isSome

/-- `matchesServiceConstraints`, with the constraints of the service. -/
def matchesServiceConstraints (constraints : Option (List Text)) (node : Node) : Bool :=
  match constraints with
  | none => true
  | some [] => true
  | some constraints =>
    let transform := transformConstraints constraints
    matchesConstraint node.id (transform (.own .nodeId)) &&
      matchesConstraint node.hostname (transform (.own .nodeHostname)) &&
      matchesConstraint node.role (transform (.own .nodeRole)) &&
      matchesLabel node.labels (transform (.labels .nodeLabels)) &&
      matchesLabel node.engineLabels (transform (.labels .engineLabels))

/-! ## What constraints mean -/

/-- The value that a key has. -/
def Labels.get (labels : Labels) (key : Text) : Option Text :=
  (labels.toList.find? fun label => label.key = key).map Label.value

/-- What a constraint is about. -/
inductive Subject
  | own (a : Attribute)
  | label (l : LabelSet) (key : Text)
  deriving DecidableEq, Repr

def Subject.slot : Subject → Slot
  | .own a => .own a
  | .label l _ => .labels l

def Subject.text : Subject → Text
  | .own a => (Slot.own a).pattern
  | .label l key => (Slot.labels l).pattern ++ key

def Node.own (node : Node) : Attribute → Text
  | .nodeId => node.id
  | .nodeHostname => node.hostname
  | .nodeRole => node.role

def Node.labelSet (node : Node) : LabelSet → Labels
  | .nodeLabels => node.labels
  | .engineLabels => node.engineLabels

/-- What a node has there. -/
def Node.get (node : Node) : Subject → Option Text
  | .own a => some (node.own a)
  | .label l key => (node.labelSet l).get key

/-- The operator holds of what is found, if anything is, and a value. -/
def Op.Holds (found : Option Text) (value : Text) : Op → Prop
  | .eq => found = some value
  | .neq => found ≠ some value

/-- A key or a value: no white space at its ends, and no character of an
operator. -/
structure Plain (t : Text) : Prop where
  trimmed : Trimmed t
  notMem : ∀ op : Op, ∀ c ∈ op.symbol, c ∉ t

/-- A constraint expression. -/
structure Expression where
  subject : Subject
  op : Op
  value : Text
  key : ∀ l key, subject = .label l key → key ≠ [] ∧ Plain key
  plain : Plain value

/-- **The node satisfies the constraint.** -/
def Expression.Satisfied (e : Expression) (node : Node) : Prop := e.op.Holds (node.get e.subject) e.value

/-- An expression as it is written, with white space around its parts. -/
structure Written where
  expression : Expression
  before : Text
  left : Text
  right : Text
  behind : Text
  isBlank_before : ∀ c ∈ before, isBlank c = true
  isBlank_left : ∀ c ∈ left, isBlank c = true
  isBlank_right : ∀ c ∈ right, isBlank c = true
  isBlank_behind : ∀ c ∈ behind, isBlank c = true

def Written.text (w : Written) : Text :=
  w.before ++ w.expression.subject.text ++ w.left ++ w.expression.op.symbol ++
    (w.right ++ w.expression.value ++ w.behind)

/-! ## How expressions are read -/

/-- Where a text with the expression is looked up: the first pattern that the
subject or the value includes. -/
def Expression.recognised (e : Expression) : Option Slot :=
  Slot.cases.find? fun s => s.pattern <:+: e.subject.text ∨ s.pattern <:+: e.value

/-- The key that is read in a slot. -/
def Expression.readKey (e : Expression) : Slot → Text
  | .own _ => []
  | .labels l => Text.without (Slot.labels l).pattern e.subject.text

/-- The expressions about a slot. -/
def about (s : Slot) (expressions : List Expression) : List Expression :=
  expressions.filter fun e => e.subject.slot = s

/-- The last expression that is read into a slot. -/
def lastRead (s : Slot) (expressions : List Expression) : Option Expression :=
  (expressions.filter fun e => e.recognised = some s).getLast?

/-- An attribute's value is the one that an expression asks for, which is said
once at least, and holds of all the others. -/
def Determined (subject : Subject) (value : Text) (about : List Expression) : Prop :=
  (∃ e ∈ about, e.subject = subject ∧ e.op = .eq ∧ e.value = value) ∧
    ∀ e ∈ about, e.subject = subject ∧ e.op.Holds (some value) e.value

/-- **What is read in a slot is what all expressions about it say together.**
An expression that a label has a value is read from `!=` as from `==`. -/
def Faithful (expressions : List Expression) (s : Slot) : Prop :=
  match lastRead s expressions with
  | none => about s expressions = []
  | some e =>
    match s with
    | .own a =>
      match e.op with
      | .eq => Determined (.own a) e.value (about s expressions)
      | .neq => about s expressions ≠ [] ∧ ∀ e' ∈ about s expressions, e'.op = .neq ∧ e'.value = e.value
    | .labels l => Determined (.label l (e.readKey s)) e.value (about s expressions)

/-! ## Patterns and operators -/

theorem pattern_ne_nil (s : Slot) : s.pattern ≠ [] := by
  rcases s with a | l
  · cases a <;> decide
  · cases l <;> decide

/-- No pattern has white space or a character of an operator. -/
theorem all_pattern (s : Slot) : (s.pattern.all fun c => !isBlank c && c ≠ '=' && c ≠ '!') = true := by
  rcases s with a | l
  · cases a <;> decide
  · cases l <;> decide

theorem mem_symbol {op : Op} {c : Char} (h : c ∈ op.symbol) : c = '=' ∨ c = '!' := by
  cases op with
  | eq => exact .inl (by simpa [Op.symbol] using h)
  | neq => exact (List.mem_cons.mp h).symm.imp_left List.mem_singleton.mp

theorem isBlank_of_mem_symbol {op : Op} {c : Char} (h : c ∈ op.symbol) : isBlank c = false := by
  obtain rfl | rfl := mem_symbol h <;> decide

/-- Characters that are neither white space nor in an operator. -/
theorem of_all {t : Text} (h : (t.all fun c => !isBlank c && c ≠ '=' && c ≠ '!') = true) :
    ∀ c ∈ t, isBlank c = false ∧ ∀ op : Op, c ∉ op.symbol := by
  intro c hc
  have hall := List.all_eq_true.mp h c hc
  simp only [Bool.and_eq_true, Bool.not_eq_true', decide_eq_true_eq] at hall
  refine ⟨hall.1.1, fun op hop => ?_⟩
  obtain rfl | rfl := mem_symbol hop
  · exact hall.1.2 rfl
  · exact hall.2 rfl

theorem plain_of_all {t : Text} (h : (t.all fun c => !isBlank c && c ≠ '=' && c ≠ '!') = true) : Plain t where
  trimmed := ⟨fun c hc => (of_all h c (List.mem_of_mem_head? hc)).1,
    fun c hc => (of_all h c (List.mem_of_mem_getLast? hc)).1⟩
  notMem := fun op c hop hc => (of_all h c hc).2 op hop

theorem mem_pattern {s : Slot} {c : Char} (h : c ∈ s.pattern) : isBlank c = false ∧ ∀ op : Op, c ∉ op.symbol :=
  of_all (all_pattern s) c h

theorem plain_pattern (s : Slot) : Plain s.pattern := plain_of_all (all_pattern s)

namespace Expression

variable (e : Expression)

theorem plain_text : Plain e.subject.text := by
  cases hsubject : e.subject with
  | own a => exact plain_pattern _
  | label l key =>
    obtain ⟨hne, hplain⟩ := e.key l key hsubject
    refine ⟨⟨fun c hc => ?_, fun c hc => ?_⟩, fun op c hc hmem => ?_⟩
    · rw [Subject.text, List.head?_append_of_ne_nil _ (pattern_ne_nil _)] at hc
      exact (plain_pattern _).trimmed.head c hc
    · rw [Subject.text, List.getLast?_append_of_ne_nil _ hne] at hc
      exact hplain.trimmed.last c hc
    · obtain hmem | hmem := List.mem_append.mp hmem
      · exact (plain_pattern _).notMem op c hc hmem
      · exact hplain.notMem op c hc hmem

end Expression

/-! ## How the code reads what is written -/

namespace Written

variable (w : Written)

theorem notMem_subject {op : Op} {c : Char} (hc : c ∈ op.symbol) :
    c ∉ w.before ++ w.expression.subject.text ++ w.left := by
  have hblank := isBlank_of_mem_symbol hc
  intro hmem
  obtain hmem | hmem := List.mem_append.mp hmem
  · obtain hmem | hmem := List.mem_append.mp hmem
    · rw [w.isBlank_before c hmem] at hblank
      nomatch hblank
    · exact w.expression.plain_text.notMem op c hc hmem
  · rw [w.isBlank_left c hmem] at hblank
    nomatch hblank

theorem notMem_value {op : Op} {c : Char} (hc : c ∈ op.symbol) :
    c ∉ w.right ++ w.expression.value ++ w.behind := by
  have hblank := isBlank_of_mem_symbol hc
  intro hmem
  obtain hmem | hmem := List.mem_append.mp hmem
  · obtain hmem | hmem := List.mem_append.mp hmem
    · rw [w.isBlank_right c hmem] at hblank
      nomatch hblank
    · exact w.expression.plain.notMem op c hc hmem
  · rw [w.isBlank_behind c hmem] at hblank
    nomatch hblank

/-- The operator occurs once. -/
theorem splitAt_text : splitAt w.text (some w.expression.op) =
    [w.before ++ w.expression.subject.text ++ w.left, w.right ++ w.expression.value ++ w.behind] := by
  obtain ⟨c, rest, hsymbol⟩ : ∃ c rest, w.expression.op.symbol = c :: rest := by
    cases w.expression.op <;> exact ⟨_, _, rfl⟩
  have hc : c ∈ w.expression.op.symbol := hsymbol ▸ List.mem_cons_self
  rw [splitAt, text, hsymbol, Text.split_append (w.notMem_subject hc), Text.split_of_notMem (w.notMem_value hc)]

theorem extractValue_text : extractValue w.text (some w.expression.op) = w.expression.value := by
  rw [extractValue, splitAt_text]
  exact JsText.trim_append w.expression.plain.trimmed w.isBlank_right w.isBlank_behind

theorem extractKey_text (s : Slot) : extractKey w.text (some w.expression.op) s = w.expression.readKey s := by
  cases s with
  | own a => rfl
  | labels l =>
    rw [extractKey, extractCustomLabelKey, splitAt_text, Expression.readKey]
    exact congrArg _ (JsText.trim_append w.expression.plain_text.trimmed w.isBlank_before w.isBlank_left)

theorem operator_text (op : Option Op) : operator w.text op = some w.expression.op := by
  cases hop : w.expression.op with
  | eq =>
    have hinfix : Op.eq.symbol <:+: w.text := by
      rw [text, hop]
      exact List.infix_append _ _ _
    rw [operator, if_pos hinfix]
  | neq =>
    have hinfix : Op.neq.symbol <:+: w.text := by
      rw [text, hop]
      exact List.infix_append _ _ _
    have hmem : '=' ∈ Op.eq.symbol := List.mem_cons_self
    -- there is one `=` only, that of the operator
    have hnone : ¬ Op.eq.symbol <:+: w.text := by
      intro heq
      rw [text, hop, List.append_assoc, show Op.neq.symbol = ['!', '='] from rfl, List.cons_append,
        Text.infix_append_cons_iff (by decide : '!' ∉ Op.eq.symbol), List.cons_append, List.nil_append,
        List.infix_cons_iff] at heq
      obtain hsubject | ⟨rest, hrest⟩ | hvalue := heq
      · exact w.notMem_subject hmem (hsubject.subset hmem)
      · have htail : '=' :: rest = w.right ++ w.expression.value ++ w.behind := (List.cons.inj hrest).2
        exact w.notMem_value hmem (htail ▸ List.mem_cons_self)
      · exact w.notMem_value hmem (hvalue.subset hmem)
    rw [operator, if_neg hnone, if_pos hinfix]

/-- A pattern occurs in the subject or in the value. -/
theorem infix_text_iff (s : Slot) :
    s.pattern <:+: w.text ↔ s.pattern <:+: w.expression.subject.text ∨ s.pattern <:+: w.expression.value := by
  have hne : w.expression.op.symbol ≠ [] := by cases w.expression.op <;> exact List.cons_ne_nil _ _
  have hblank : ∀ {t : Text}, (∀ c ∈ t, isBlank c = true) → ∀ c ∈ t, c ∉ s.pattern := by
    intro t ht c hc hmem
    have hno := (mem_pattern hmem).1
    rw [ht c hc] at hno
    nomatch hno
  rw [text, Text.infix_append_append_iff hne fun c hc hmem => (mem_pattern hmem).2 _ hc,
    Text.infix_append_left_iff (hblank w.isBlank_left), Text.infix_append_left_iff (hblank w.isBlank_behind),
    Text.infix_append_right_iff (hblank w.isBlank_before), Text.infix_append_right_iff (hblank w.isBlank_right)]

end Written

/-- What is kept of an expression that is read into a slot. -/
def Expression.model (e : Expression) (s : Slot) : ConstraintModel := ⟨some e.op, e.readKey s, e.value⟩

theorem transformConstraint_text (w : Written) (transform : Option Op × Transform) :
    transformConstraint transform w.text = (some w.expression.op, match w.expression.recognised with
      | some s => Function.update transform.2 s (some (w.expression.model s))
      | none => transform.2) := by
  have hcases : (Slot.cases.find? fun s => s.pattern <:+: w.text) = w.expression.recognised := by
    refine congrArg (Slot.cases.find? ·) (funext fun s => ?_)
    exact decide_eq_decide.mpr (w.infix_text_iff s)
  rw [transformConstraint, w.operator_text, hcases]
  cases w.expression.recognised with
  | none => rfl
  | some s => simp only [w.extractValue_text, w.extractKey_text, Expression.model]

theorem lastRead_cons (s : Slot) (e : Expression) (expressions : List Expression) :
    lastRead s (e :: expressions) =
      (lastRead s expressions).or (if e.recognised = some s then some e else none) := by
  by_cases hs : e.recognised = some s
  · rw [lastRead, List.filter_cons_of_pos (by simpa using hs), List.getLast?_cons, if_pos hs, lastRead]
    cases (expressions.filter fun e => e.recognised = some s).getLast? <;> rfl
  · rw [lastRead, List.filter_cons_of_neg (by simpa using hs), if_neg hs, Option.or_none, lastRead]

/-- **A slot keeps what was read last.** -/
theorem foldl_transformConstraint (written : List Written) (transform : Option Op × Transform) (s : Slot) :
    ((written.map Written.text).foldl transformConstraint transform).2 s =
      ((lastRead s (written.map Written.expression)).map (Expression.model · s)).or (transform.2 s) := by
  induction written generalizing transform with
  | nil => rfl
  | cons w written ih =>
    rw [List.map_cons, List.foldl_cons, ih, transformConstraint_text, List.map_cons, lastRead_cons]
    cases lastRead s (written.map Written.expression) with
    | some e => rfl
    | none =>
      cases hrecognised : w.expression.recognised with
      | none => rfl
      | some s' =>
        by_cases hs : s' = s
        · subst hs
          simp
        · simp [hs, Function.update_of_ne (Ne.symm hs)]

theorem transformConstraints_text (written : List Written) (s : Slot) :
    transformConstraints (written.map Written.text) s =
      (lastRead s (written.map Written.expression)).map (Expression.model · s) := by
  rw [transformConstraints, foldl_transformConstraint, Option.or_none]

/-! ## What is matched -/

theorem get_eq_some_iff {labels : Labels} {key value : Text} :
    labels.get key = some value ↔ ⟨key, value⟩ ∈ labels.toList := by
  constructor
  · intro h
    obtain ⟨label, hfound, rfl⟩ := Option.map_eq_some_iff.mp h
    obtain rfl : label.key = key := by simpa using List.find?_some hfound
    exact List.mem_of_find?_eq_some hfound
  · intro h
    rw [Labels.get, find?_key labels.nodup h]
    rfl

theorem matchesLabel_iff {labels : Labels} {constraint : ConstraintModel} :
    matchesLabel labels (some constraint) = true ↔ labels.get constraint.key = some constraint.value := by
  rw [get_eq_some_iff, matchesLabel, List.find?_isSome]
  constructor
  · rintro ⟨label, hmem, hlabel⟩
    obtain ⟨hkey, hvalue⟩ := of_decide_eq_true hlabel
    rwa [← hkey, ← hvalue]
  · intro h
    exact ⟨_, h, decide_eq_true ⟨rfl, rfl⟩⟩

theorem matchesConstraint_iff {value : Text} {e : Expression} {s : Slot} :
    matchesConstraint value (some (e.model s)) = true ↔ e.op.Holds (some value) e.value := by
  rw [matchesConstraint, decide_eq_true_iff, Expression.model, Option.some.injEq, Option.some.injEq]
  cases e.op with
  | eq => simp [Op.Holds]
  | neq => simp [Op.Holds]

/-- What the slot of an attribute asks of it. -/
def Asked (expressions : List Expression) (a : Attribute) (value : Text) : Prop :=
  ∀ e ∈ lastRead (.own a) expressions, e.op.Holds (some value) e.value

/-- What a slot of labels asks of them. -/
def LabelAsked (expressions : List Expression) (l : LabelSet) (labels : Labels) : Prop :=
  ∀ e ∈ lastRead (.labels l) expressions, labels.get (e.readKey (.labels l)) = some e.value

theorem asked_iff {expressions : List Expression} {a : Attribute} {value : Text} :
    matchesConstraint value ((lastRead (.own a) expressions).map (Expression.model · (.own a))) = true ↔
      Asked expressions a value := by
  rw [Asked]
  cases lastRead (.own a) expressions with
  | none => exact iff_of_true rfl nofun
  | some e =>
    rw [Option.map_some, matchesConstraint_iff]
    simp

theorem labelAsked_iff {expressions : List Expression} {l : LabelSet} {labels : Labels} :
    matchesLabel labels ((lastRead (.labels l) expressions).map (Expression.model · (.labels l))) = true ↔
      LabelAsked expressions l labels := by
  rw [LabelAsked]
  cases lastRead (.labels l) expressions with
  | none => exact iff_of_true rfl nofun
  | some e =>
    rw [Option.map_some, matchesLabel_iff, Expression.model]
    simp

/-- The constraints of a service, as they are written. -/
abbrev Placement := Option (List Written)

def Placement.texts (constraints : Placement) : Option (List Text) := constraints.map (List.map Written.text)

def Placement.expressions (constraints : Placement) : List Expression :=
  (constraints.getD []).map Written.expression

/-- **A node is matched** if each slot's last constraint is fulfilled as it
was read. -/
theorem matchesServiceConstraints_iff (constraints : Placement) (node : Node) :
    matchesServiceConstraints constraints.texts node = true ↔
      (∀ a, Asked constraints.expressions a (node.own a)) ∧
        ∀ l, LabelAsked constraints.expressions l (node.labelSet l) := by
  match constraints with
  | none => exact iff_of_true rfl ⟨fun _ => nofun, fun _ => nofun⟩
  | some [] => exact iff_of_true rfl ⟨fun _ => nofun, fun _ => nofun⟩
  | some (w :: written) =>
    show (matchesConstraint node.id (transformConstraints ((w :: written).map Written.text) (.own .nodeId)) &&
      matchesConstraint node.hostname (transformConstraints ((w :: written).map Written.text) (.own .nodeHostname)) &&
      matchesConstraint node.role (transformConstraints ((w :: written).map Written.text) (.own .nodeRole)) &&
      matchesLabel node.labels (transformConstraints ((w :: written).map Written.text) (.labels .nodeLabels)) &&
      matchesLabel node.engineLabels
        (transformConstraints ((w :: written).map Written.text) (.labels .engineLabels))) = true ↔ _
    simp only [transformConstraints_text, Bool.and_eq_true, asked_iff, labelAsked_iff]
    constructor
    · rintro ⟨⟨⟨⟨hid, hhostname⟩, hrole⟩, hlabels⟩, hengine⟩
      exact ⟨fun a => by cases a <;> assumption, fun l => by cases l <;> assumption⟩
    · rintro ⟨hown, hlabels⟩
      exact ⟨⟨⟨⟨hown .nodeId, hown .nodeHostname⟩, hown .nodeRole⟩, hlabels .nodeLabels⟩, hlabels .engineLabels⟩

/-! ## What is meant -/

/-- The key of the label. -/
def Subject.key : Subject → Text
  | .own _ => []
  | .label _ key => key

/-- What all constraints on an attribute say. -/
def Meant (expressions : List Expression) (a : Attribute) (value : Text) : Prop :=
  ∀ e ∈ about (.own a) expressions, e.op.Holds (some value) e.value

/-- What all constraints on a set of labels say. -/
def LabelMeant (expressions : List Expression) (l : LabelSet) (labels : Labels) : Prop :=
  ∀ e ∈ about (.labels l) expressions, e.op.Holds (labels.get e.subject.key) e.value

theorem mem_about {e : Expression} {s : Slot} {expressions : List Expression} :
    e ∈ about s expressions ↔ e ∈ expressions ∧ e.subject.slot = s := by
  rw [about, List.mem_filter, decide_eq_true_iff]

theorem eq_own_of_slot {subject : Subject} {a : Attribute} (h : subject.slot = .own a) : subject = .own a := by
  cases subject with
  | own b => exact congrArg Subject.own (Slot.own.inj h)
  | label l key => nomatch h

theorem eq_label_of_slot {subject : Subject} {l : LabelSet} (h : subject.slot = .labels l) :
    subject = .label l subject.key := by
  cases subject with
  | own a => nomatch h
  | label l' key => rw [Slot.labels.inj h, Subject.key]

/-- **The constraints are fulfilled** if those on each attribute are. -/
theorem satisfied_iff (expressions : List Expression) (node : Node) :
    (∀ e ∈ expressions, e.Satisfied node) ↔
      (∀ a, Meant expressions a (node.own a)) ∧ ∀ l, LabelMeant expressions l (node.labelSet l) := by
  constructor
  · intro h
    refine ⟨fun a e he => ?_, fun l e he => ?_⟩
    · obtain ⟨he, hslot⟩ := mem_about.mp he
      have hsatisfied := h e he
      rwa [Expression.Satisfied, eq_own_of_slot hslot] at hsatisfied
    · obtain ⟨he, hslot⟩ := mem_about.mp he
      have hsatisfied := h e he
      rwa [Expression.Satisfied, eq_label_of_slot hslot] at hsatisfied
  · rintro ⟨hown, hlabels⟩ e he
    rw [Expression.Satisfied]
    cases hsubject : e.subject with
    | own a => exact hown a e (mem_about.mpr ⟨he, by rw [hsubject]; rfl⟩)
    | label l key =>
      have hholds := hlabels l e (mem_about.mpr ⟨he, by rw [hsubject]; rfl⟩)
      rwa [hsubject] at hholds

/-! ## When the two agree -/

/-- There is always another text. -/
theorem exists_notMem (l : List Text) : ∃ t, t ∉ l := by
  refine ⟨'x' :: l.flatten, fun hmem => ?_⟩
  have hle := (List.sublist_flatten_of_mem hmem).length_le
  rw [List.length_cons] at hle
  omega

/-- An operator that holds of all texts but one, or of one alone, does not hold
of all. -/
theorem exists_not_holds (op : Op) (value : Text) : ∃ t, ¬ op.Holds (some t) value := by
  cases op with
  | eq =>
    obtain ⟨t, ht⟩ := exists_notMem [value]
    exact ⟨t, fun h => ht (List.mem_singleton.mpr (Option.some.inj h))⟩
  | neq => exact ⟨value, fun h => h rfl⟩

theorem exists_holds (op : Op) (value : Text) : ∃ t, op.Holds (some t) value := by
  cases op with
  | eq => exact ⟨value, rfl⟩
  | neq =>
    obtain ⟨t, ht⟩ := exists_notMem [value]
    exact ⟨t, fun h => ht (List.mem_singleton.mpr (Option.some.inj h))⟩

/-- A set of one label. -/
def Labels.single (key value : Text) : Labels := ⟨[⟨key, value⟩], List.nodup_singleton key⟩

theorem get_single (key value : Text) : (Labels.single key value).get key = some value :=
  get_eq_some_iff.mpr (List.mem_singleton_self _)

/-- A set of two labels. -/
theorem exists_two {key key' : Text} (hne : key ≠ key') (value value' : Text) :
    ∃ labels : Labels, labels.get key = some value ∧ labels.get key' = some value' := by
  refine ⟨⟨[⟨key, value⟩, ⟨key', value'⟩], ?_⟩, ?_, ?_⟩
  · exact List.nodup_cons.mpr ⟨fun hmem => hne (List.mem_singleton.mp hmem), List.nodup_singleton key'⟩
  · exact get_eq_some_iff.mpr List.mem_cons_self
  · exact get_eq_some_iff.mpr (List.mem_cons_of_mem _ List.mem_cons_self)

def Labels.empty : Labels := ⟨[], List.nodup_nil⟩

variable {expressions : List Expression} {a : Attribute} {l : LabelSet}

theorem exists_asked (expressions : List Expression) (a : Attribute) : ∃ value, Asked expressions a value := by
  unfold Asked
  cases lastRead (.own a) expressions with
  | none => exact ⟨[], nofun⟩
  | some e =>
    obtain ⟨value, hvalue⟩ := exists_holds e.op e.value
    exact ⟨value, fun e' he' => Option.some.inj he' ▸ hvalue⟩

theorem exists_labelAsked (expressions : List Expression) (l : LabelSet) :
    ∃ labels, LabelAsked expressions l labels := by
  unfold LabelAsked
  cases lastRead (.labels l) expressions with
  | none => exact ⟨Labels.empty, nofun⟩
  | some e => exact ⟨.single (e.readKey (.labels l)) e.value, fun e' he' => Option.some.inj he' ▸ get_single _ _⟩

/-- Where nothing else holds of a value, it is asked for. -/
theorem exists_eq_of_unique (value : Text) (about : List Expression)
    (h : ∀ t, (∀ e ∈ about, e.op.Holds (some t) e.value) → t = value) :
    ∃ e ∈ about, e.op = .eq ∧ ∀ t, e.op.Holds (some t) e.value → t = e.value := by
  by_contra hnone
  -- a text that no constraint is about fulfils them all
  obtain ⟨t, ht⟩ := exists_notMem (value :: about.map Expression.value)
  refine ht (List.mem_cons.mpr (.inl (h t fun e he => ?_)))
  cases hop : e.op with
  | eq => exact absurd ⟨e, he, hop, fun t h => by rw [hop] at h; exact Option.some.inj h⟩ hnone
  | neq => exact fun heq => ht (List.mem_cons_of_mem _ (List.mem_map.mpr ⟨e, he, (Option.some.inj heq).symm⟩))

/-- **The slot of an attribute.** -/
theorem asked_iff_meant_iff : (∀ value, Asked expressions a value ↔ Meant expressions a value) ↔
    Faithful expressions (.own a) := by
  unfold Asked Meant Faithful
  cases lastRead (.own a) expressions with
  | none =>
    constructor
    · intro h
      refine List.eq_nil_iff_forall_not_mem.mpr fun e he => ?_
      obtain ⟨t, ht⟩ := exists_not_holds e.op e.value
      exact ht ((h t).mp nofun e he)
    · intro h value
      rw [h]
      exact iff_of_true nofun nofun
  | some e =>
    have hlast : ∀ value, (∀ e' ∈ some e, e'.op.Holds (some value) e'.value) ↔ e.op.Holds (some value) e.value :=
      fun value => ⟨fun h => h e rfl, fun h e' he' => Option.some.inj he' ▸ h⟩
    simp only [hlast]
    cases e.op with
    | eq =>
      constructor
      · intro h
        have hall := (h e.value).mp rfl
        obtain ⟨e', he', hop, hunique⟩ := exists_eq_of_unique e.value (about (.own a) expressions)
          fun t ht => Option.some.inj ((h t).mpr ht)
        refine ⟨⟨e', he', eq_own_of_slot (mem_about.mp he').2, hop, (hunique _ (hall e' he')).symm⟩, ?_⟩
        exact fun e'' he'' => ⟨eq_own_of_slot (mem_about.mp he'').2, hall e'' he''⟩
      · rintro ⟨⟨e', he', -, hop, hvalue⟩, hall⟩ value
        constructor
        · intro hvalue
          rw [hvalue]
          exact fun e'' he'' => (hall e'' he'').2
        · intro hholds
          have hheld := hholds e' he'
          rwa [hop, hvalue] at hheld
    | neq =>
      constructor
      · intro h
        have hnot : ¬ ∀ e' ∈ about (.own a) expressions, e'.op.Holds (some e.value) e'.value :=
          fun hall => (h e.value).mpr hall rfl
        refine ⟨fun hnil => hnot (by rw [hnil]; exact nofun), fun e' he' => ?_⟩
        have hothers : ∀ t, t ≠ e.value → e'.op.Holds (some t) e'.value :=
          fun t ht => (h t).mp (fun heq => ht (Option.some.inj heq)) e' he'
        cases hop : e'.op with
        | eq =>
          -- two other texts would both be the value
          rw [hop] at hothers
          obtain ⟨t, ht⟩ := exists_notMem [e.value]
          obtain ⟨t', ht'⟩ := exists_notMem [e.value, t]
          rw [List.mem_singleton] at ht
          rw [List.mem_cons, List.mem_singleton, not_or] at ht'
          have hsame : t' = t := Option.some.inj ((hothers t' ht'.1).trans (hothers t ht).symm)
          exact absurd hsame ht'.2
        | neq =>
          refine ⟨rfl, by_contra fun hne => ?_⟩
          have hheld := hothers e'.value hne
          rw [hop] at hheld
          exact hheld rfl
      · rintro ⟨hne, hall⟩ value
        constructor
        · intro hvalue e' he'
          rw [(hall e' he').1, (hall e' he').2]
          exact hvalue
        · intro hholds
          obtain ⟨e', he'⟩ := List.exists_mem_of_ne_nil _ hne
          have hheld := hholds e' he'
          rwa [(hall e' he').1, (hall e' he').2] at hheld

/-- **A slot of labels.** -/
theorem labelAsked_iff_meant_iff : (∀ labels, LabelAsked expressions l labels ↔ LabelMeant expressions l labels) ↔
    Faithful expressions (.labels l) := by
  unfold LabelAsked LabelMeant Faithful
  cases lastRead (.labels l) expressions with
  | none =>
    constructor
    · intro h
      refine List.eq_nil_iff_forall_not_mem.mpr fun e he => ?_
      obtain ⟨t, ht⟩ := exists_not_holds e.op e.value
      have hheld := (h (.single e.subject.key t)).mp nofun e he
      rw [get_single] at hheld
      exact ht hheld
    · intro h labels
      rw [h]
      exact iff_of_true nofun nofun
  | some e =>
    have hlast : ∀ labels : Labels, (∀ e' ∈ some e, labels.get (e'.readKey (.labels l)) = some e'.value) ↔
        labels.get (e.readKey (.labels l)) = some e.value :=
      fun labels => ⟨fun h => h e rfl, fun h e' he' => Option.some.inj he' ▸ h⟩
    simp only [hlast]
    constructor
    · intro h
      have hkeys : ∀ e' ∈ about (.labels l) expressions, e'.subject.key = e.readKey (.labels l) := by
        intro e' he'
        by_contra hne
        obtain ⟨t, ht⟩ := exists_not_holds e'.op e'.value
        obtain ⟨labels, hread, hother⟩ := exists_two (Ne.symm hne) e.value t
        have hheld := (h labels).mp hread e' he'
        rw [hother] at hheld
        exact ht hheld
      have hall : ∀ e' ∈ about (.labels l) expressions, e'.op.Holds (some e.value) e'.value := by
        intro e' he'
        have hheld := (h (.single (e.readKey (.labels l)) e.value)).mp (get_single _ _) e' he'
        rwa [hkeys e' he', get_single] at hheld
      have hsubject : ∀ e' ∈ about (.labels l) expressions, e'.subject = .label l (e.readKey (.labels l)) :=
        fun e' he' => (eq_label_of_slot (mem_about.mp he').2).trans (by rw [hkeys e' he'])
      refine ⟨by_contra fun hnone => ?_, fun e' he' => ⟨hsubject e' he', hall e' he'⟩⟩
      -- without labels, constraints with `!=` are fulfilled
      have hempty : Labels.empty.get (e.readKey (.labels l)) = some e.value := by
        refine (h Labels.empty).mpr fun e' he' => ?_
        cases hop : e'.op with
        | eq =>
          have hheld := hall e' he'
          rw [hop] at hheld
          exact absurd ⟨e', he', hsubject e' he', hop, (Option.some.inj hheld).symm⟩ hnone
        | neq => exact fun heq => nomatch heq
      nomatch hempty
    · rintro ⟨⟨e', he', hsubject, hop, hvalue⟩, hall⟩ labels
      constructor
      · intro hread e'' he''
        rw [(hall e'' he'').1, Subject.key, hread]
        exact (hall e'' he'').2
      · intro hholds
        have hheld := hholds e' he'
        rwa [hsubject, hop, hvalue] at hheld

/-- The node with these attributes and labels. -/
def Node.of (own : Attribute → Text) (labels : LabelSet → Labels) : Node :=
  ⟨own .nodeId, own .nodeHostname, own .nodeRole, labels .nodeLabels, labels .engineLabels⟩

theorem own_of (own : Attribute → Text) (labels : LabelSet → Labels) : (Node.of own labels).own = own := by
  funext a
  cases a <;> rfl

theorem labelSet_of (own : Attribute → Text) (labels : LabelSet → Labels) :
    (Node.of own labels).labelSet = labels := by
  funext l
  cases l <;> rfl

/-- **Every node is matched exactly if it satisfies the constraints**, if and
only if each slot is read as it is meant. -/
theorem exactly_matched_iff (constraints : Placement) :
    (∀ node, matchesServiceConstraints constraints.texts node = true ↔
      ∀ e ∈ constraints.expressions, e.Satisfied node) ↔ ∀ s, Faithful constraints.expressions s := by
  have hnodes : (∀ node, matchesServiceConstraints constraints.texts node = true ↔
      ∀ e ∈ constraints.expressions, e.Satisfied node) ↔
      ∀ (own : Attribute → Text) (labels : LabelSet → Labels),
        ((∀ a, Asked constraints.expressions a (own a)) ∧ ∀ l, LabelAsked constraints.expressions l (labels l)) ↔
          (∀ a, Meant constraints.expressions a (own a)) ∧ ∀ l, LabelMeant constraints.expressions l (labels l) := by
    simp only [matchesServiceConstraints_iff, satisfied_iff]
    constructor
    · intro h own labels
      have hnode := h (.of own labels)
      rwa [own_of, labelSet_of] at hnode
    · exact fun h node => h node.own node.labelSet
  have hasked : ∃ own : Attribute → Text, ∀ a, Asked constraints.expressions a (own a) :=
    Classical.skolem.mp fun a => exists_asked constraints.expressions a
  have hlabels : ∃ labels : LabelSet → Labels, ∀ l, LabelAsked constraints.expressions l (labels l) :=
    Classical.skolem.mp fun l => exists_labelAsked constraints.expressions l
  rw [hnodes, Product.and_iff_and_iff hasked hlabels, Product.forall_iff_forall_iff (exists_asked _),
    Product.forall_iff_forall_iff (exists_labelAsked _)]
  simp only [asked_iff_meant_iff, labelAsked_iff_meant_iff]
  constructor
  · rintro ⟨hown, hlabels⟩ s
    cases s with
    | own a => exact hown a
    | labels l => exact hlabels l
  · exact fun h => ⟨fun a => h (.own a), fun l => h (.labels l)⟩

/-- `node.labels.env!=prod`. -/
def notProduction : Written where
  expression :=
    { subject := .label .nodeLabels ['e', 'n', 'v']
      op := .neq
      value := ['p', 'r', 'o', 'd']
      key := by
        intro l key h
        obtain rfl := (Subject.label.inj h).2
        exact ⟨List.cons_ne_nil _ _, plain_of_all (by decide)⟩
      plain := plain_of_all (by decide) }
  before := []
  left := []
  right := []
  behind := []
  isBlank_before := List.forall_mem_nil _
  isBlank_left := List.forall_mem_nil _
  isBlank_right := List.forall_mem_nil _
  isBlank_behind := List.forall_mem_nil _

/-- A node without labels. -/
def unlabelled : Node := ⟨['n', '1'], ['h', '1'], ['w', 'o', 'r', 'k', 'e', 'r'], .empty, .empty⟩

/-- **A node without the label is not matched**, though its label has not the
value that is excluded. -/
theorem excludes_unlabelled : notProduction.expression.Satisfied unlabelled ∧
    matchesServiceConstraints (some [notProduction.text]) unlabelled = false ∧
    ¬ ∀ (constraints : Placement) (node : Node), matchesServiceConstraints constraints.texts node = true ↔
      ∀ e ∈ constraints.expressions, e.Satisfied node := by
  have hsatisfied : notProduction.expression.Satisfied unlabelled := fun h => nomatch h
  have hunmatched : matchesServiceConstraints (some [notProduction.text]) unlabelled = false := by decide
  refine ⟨hsatisfied, hunmatched, fun h => ?_⟩
  have hmatched := (h (some [notProduction]) unlabelled).mpr fun e he => List.mem_singleton.mp he ▸ hsatisfied
  exact Bool.false_ne_true (hunmatched.symm.trans hmatched)

end Constraints

end Portainer
