import Mathlib.Data.List.Perm.Basic
import Portainer.Containers.Helpers.PortCombining
/-!
# Containers — port bindings come back

The bindings of a container are combined into the lines of a form and read
back. The lines of an address take the bindings of a container port from one
list, whatever their addresses are, and an address with colons is taken
apart. `comesBack_iff` says for which bindings this is right.
-/

namespace Portainer

namespace Ports

variable {m : PortMap} {k : Key} {s : Combining} {keys : List Key} {protocol : Text}

/-! ## The property -/

/-- Container port, protocol, address and host port of each binding; an
address that is not there is the empty one. -/
def combinations (m : PortMap) : List (Key × Text × Text) :=
  m.flatMap fun e => e.2.map fun b => (e.1, b.hostIp.getD [], b.hostPort)

/-- **The bindings come back**: neither step throws, and the combinations are
the ones that were there. -/
def ComesBack (m : PortMap) : Prop :=
  ∃ lines bindings, sortAndCombinePorts m = some lines ∧ preparePortBindings lines = some bindings ∧
    (combinations bindings).Perm (combinations m)

/-- An address of four numbers, as far as it matters: digits and dots. -/
def FourNumbers (ip : Text) : Prop := '.' ∈ ip ∧ ∀ c ∈ ip, c.isDigit = true ∨ c = '.'

/-- Bindings as Docker reports them: the container ports are ports, each once;
a host port is empty, a port or a range; an address is not there or empty, or
one of four numbers, or one with colons. -/
structure ReportedMap (m : PortMap) : Prop where
  nodup : (m.map Prod.fst).Nodup
  port : ∀ e ∈ m, 0 < e.1.port ∧ e.1.port ≤ 65535
  hostPort : ∀ e ∈ m, ∀ b ∈ e.2, ReportedPort b.hostPort
  hostIp : ∀ e ∈ m, ∀ b ∈ e.2, ∀ ip, b.hostIp = some ip → ip = [] ∨ FourNumbers ip ∨ Colons ip

/-- **A binding that can be shown**: its address is there, and has no colon;
its host port is not 0, and is there if the address is not empty. -/
def Showable (b : Binding) : Prop := ∃ ip, b.hostIp = some ip ∧ ':' ∉ ip ∧ Shown ip b.hostPort

/-- The addresses of the bindings of a protocol, each once, in the order of
their appearance. -/
def addresses (m : PortMap) (protocol : Text) : List String :=
  groupNames Prod.fst (((m.map Prod.fst).filter (·.protocol = protocol)).flatMap fun portKey =>
    (bindingsOf m portKey).map fun b => (String.ofList (propertyName b.hostIp), portKey))

/-- The addresses of a container port, in that order. -/
def labels (m : PortMap) (portKey : Key) : List Text :=
  (addresses m portKey.protocol).flatMap fun ip =>
    List.replicate (((bindingsOf m portKey).map fun b => String.ofList (propertyName b.hostIp)).count ip) ip.toList

/-- **The bindings of a container port, as they are taken**: the addresses in
the order of their appearance, the host ports in their own order. -/
def relabelled (m : PortMap) (portKey : Key) : List (Text × Text) :=
  (labels m portKey).zip ((bindingsOf m portKey).map Binding.hostPort)

/-! ## The bindings of one address after the other -/

/-- The bindings of one address and protocol, as they were taken. -/
structure Group where
  protocol : Text
  ip : Text
  items : List (Key × Binding)

namespace Group

def lines (g : Group) : List PortBinding := merged g.ip g.protocol g.items

def labelled (g : Group) : List (Key × Text × Text) := g.items.map fun item => (item.1, g.ip, item.2.hostPort)

end Group

/-- What a container port has among the bindings that were taken. -/
def takenBy (groups : List Group) (k : Key) : List (Text × Text) :=
  ((groups.flatMap Group.labelled).filter (·.1 = k)).map Prod.snd

theorem takenBy_append (groups groups' : List Group) (k : Key) :
    takenBy (groups ++ groups') k = takenBy groups k ++ takenBy groups' k := by
  rw [takenBy, List.flatMap_append, List.filter_append, List.map_append]
  rfl

/-- One address: its container ports take the first bindings that are left. -/
theorem combineAddress_spec {group : String × List Key} (h : ∀ k, group.2.count k ≤ (s.portBindings k).length) :
    ∃ g s', combineAddress protocol s group = some s' ∧ g.protocol = protocol ∧ g.ip = group.1.toList ∧
      (∀ item ∈ g.items, item.1 ∈ group.2) ∧ s'.bindings = s.bindings ++ g.lines ∧
      (∀ k, s'.portBindings k = (s.portBindings k).drop (group.2.count k)) ∧
      ∀ k, takenBy [g] k = (List.replicate (group.2.count k) group.1.toList).zip
        (((s.portBindings k).take (group.2.count k)).map Binding.hostPort) := by
  have hperm := sortBy_perm Key.port group.2
  have hcount : ∀ k, (sortBy Key.port group.2).count k = group.2.count k := fun k => hperm.count_eq k
  obtain ⟨dealt, hdeal, hlength, htaken⟩ := @deal_spec _ _ _ s.portBindings (sortBy Key.port group.2)
    fun k => (hcount k).le.trans (h k)
  let start : Combining := { s with
    portBindings := fun k => (s.portBindings k).drop ((sortBy Key.port group.2).count k)
    previousHostPort := -1
    previousContainerPort := -1 }
  let items := (sortBy Key.port group.2).zip dealt
  have hbindings : (combineAll group.1.toList protocol start items).bindings =
        start.bindings ++ merged group.1.toList protocol items ∧
      (combineAll group.1.toList protocol start items).portBindings = start.portBindings :=
    bindings_combineAll rfl rfl
  refine ⟨⟨protocol, group.1.toList, items⟩, combineAll group.1.toList protocol start items, ?_, rfl, rfl, ?_,
    hbindings.1, fun k => ?_, fun k => ?_⟩
  · rw [combineAddress, foldlM_takeFirst]
    show (deal s.portBindings (sortBy Key.port group.2)).map _ = _
    rw [hdeal]
    rfl
  · intro item hitem
    exact hperm.mem_iff.mp (List.of_mem_zip hitem).1
  · rw [hbindings.2]
    show (s.portBindings k).drop ((sortBy Key.port group.2).count k) = _
    rw [hcount]
  · have hfilter : (items.filter (·.1 = k)).map Prod.snd = (s.portBindings k).take (group.2.count k) := by
      rw [← hcount]
      exact htaken k
    have hlist : takenBy [⟨protocol, group.1.toList, items⟩] k =
        (items.filter (·.1 = k)).map fun item => (group.1.toList, item.2.hostPort) := by
      rw [takenBy, List.flatMap_cons, List.flatMap_nil, List.append_nil, Group.labelled, List.filter_map, List.map_map]
      rfl
    have hzip : ∀ l : List Binding, (List.replicate l.length group.1.toList).zip (l.map Binding.hostPort) =
        l.map fun b => (group.1.toList, b.hostPort) := by
      intro l
      induction l with
      | nil => rfl
      | cons b l ih => rw [List.length_cons, List.replicate_succ, List.map_cons, List.zip_cons_cons, ih, List.map_cons]
    have hlen : ((s.portBindings k).take (group.2.count k)).length = group.2.count k := by
      rw [List.length_take, Nat.min_eq_left (h k)]
    have hreplicate := hzip ((s.portBindings k).take (group.2.count k))
    rw [hlen] at hreplicate
    rw [hlist, hreplicate, ← hfilter, List.map_map]
    rfl

/-- All the addresses of a protocol. -/
theorem combineAddresses_spec {groups : List (String × List Key)}
    (h : ∀ k, (groups.map fun group => group.2.count k).sum ≤ (s.portBindings k).length) :
    ∃ taken s', groups.foldlM (combineAddress protocol) s = some s' ∧
      (∀ g ∈ taken, g.protocol = protocol ∧ ∀ item ∈ g.items, ∃ group ∈ groups, item.1 ∈ group.2) ∧
      s'.bindings = s.bindings ++ taken.flatMap Group.lines ∧
      (∀ k, s'.portBindings k = (s.portBindings k).drop (groups.map fun group => group.2.count k).sum) ∧
      ∀ k, takenBy taken k = (groups.flatMap fun group => List.replicate (group.2.count k) group.1.toList).zip
        (((s.portBindings k).take (groups.map fun group => group.2.count k).sum).map Binding.hostPort) := by
  induction groups generalizing s with
  | nil => exact ⟨[], s, rfl, fun g hg => (nomatch hg), (List.append_nil _).symm, fun k => rfl, fun k => rfl⟩
  | cons group groups ih =>
    have hfirst : ∀ k, group.2.count k ≤ (s.portBindings k).length := by
      intro k
      have hk := h k
      rw [List.map_cons, List.sum_cons] at hk
      omega
    obtain ⟨g, s₁, hrun, hprotocol, hip, hitems, hlines, hleft, htaken⟩ := @combineAddress_spec s protocol group hfirst
    obtain ⟨taken, s', hrest, hgroups, hlines', hleft', htaken'⟩ := ih (s := s₁) fun k => by
      have hk := h k
      rw [List.map_cons, List.sum_cons] at hk
      rw [hleft k, List.length_drop]
      omega
    refine ⟨g :: taken, s', ?_, ?_, ?_, fun k => ?_, fun k => ?_⟩
    · rw [List.foldlM_cons, hrun]
      exact hrest
    · intro g' hg'
      obtain rfl | hg' := List.mem_cons.mp hg'
      · exact ⟨hprotocol, fun item hitem => ⟨group, List.mem_cons_self, hitems item hitem⟩⟩
      · refine ⟨(hgroups g' hg').1, fun item hitem => ?_⟩
        obtain ⟨group', hgroup', hmem⟩ := (hgroups g' hg').2 item hitem
        exact ⟨group', List.mem_cons_of_mem _ hgroup', hmem⟩
    · rw [hlines', hlines, List.flatMap_cons, List.append_assoc]
    · rw [hleft', hleft, List.drop_drop, List.map_cons, List.sum_cons]
    · have hsplit : takenBy (g :: taken) k = takenBy [g] k ++ takenBy taken k := takenBy_append [g] taken k
      have hlen : (List.replicate (group.2.count k) group.1.toList).length =
          (((s.portBindings k).take (group.2.count k)).map Binding.hostPort).length := by
        rw [List.length_replicate, List.length_map, List.length_take, Nat.min_eq_left (hfirst k)]
      rw [hsplit, htaken, htaken', hleft, List.flatMap_cons, List.map_cons, List.sum_cons, List.take_add, List.map_append,
        List.zip_append hlen]

/-! ## All the protocols -/

/-- The addresses of container ports, each with its port. -/
def addressPairs (portBindings : Key → List Binding) (keys : List Key) : List (String × Key) :=
  keys.flatMap fun portKey => (portBindings portKey).map fun b => (String.ofList (propertyName b.hostIp), portKey)

/-- How often a container port stands with one of some addresses. -/
theorem count_addressPairs {f : Key → List Binding} (hnodup : keys.Nodup) (p : String → Bool) (k : Key) :
    (((addressPairs f keys).filter fun pair => p pair.1).map Prod.snd).count k =
      if k ∈ keys then ((f k).map fun b => String.ofList (propertyName b.hostIp)).countP p else 0 := by
  induction keys with
  | nil => rfl
  | cons key keys ih =>
    obtain ⟨hkey, hnodup⟩ := List.nodup_cons.mp hnodup
    have hfirst : ((((f key).map fun b => (String.ofList (propertyName b.hostIp), key)).filter fun pair => p pair.1).map
        Prod.snd).count k =
        if k = key then ((f key).map fun b => String.ofList (propertyName b.hostIp)).countP p else 0 := by
      induction f key with
      | nil => exact (ite_self 0).symm
      | cons b l ihl =>
        rw [List.map_cons, List.map_cons, List.countP_cons]
        by_cases hp : p (String.ofList (propertyName b.hostIp)) = true
        · rw [List.filter_cons_of_pos (p := fun pair : String × Key => p pair.1) hp, List.map_cons, if_pos hp]
          by_cases hk : k = key
          · rw [if_pos hk] at ihl ⊢
            rw [hk] at ihl ⊢
            rw [List.count_cons_self, ihl]
          · rw [if_neg hk] at ihl ⊢
            rw [List.count_cons_of_ne (Ne.symm hk), ihl]
        · rw [List.filter_cons_of_neg (p := fun pair : String × Key => p pair.1) hp, ihl, if_neg hp, Nat.add_zero]
    rw [addressPairs, List.flatMap_cons, List.filter_append, List.map_append, List.count_append, hfirst]
    have hrest := ih hnodup
    rw [addressPairs] at hrest
    rw [hrest]
    by_cases hk : k = key
    · subst hk
      rw [if_pos rfl, if_neg hkey, if_pos List.mem_cons_self, Nat.add_zero]
    · rw [if_neg hk, Nat.zero_add]
      by_cases hmem : k ∈ keys
      · rw [if_pos hmem, if_pos (List.mem_cons_of_mem key hmem)]
      · rw [if_neg hmem, if_neg fun h => (List.mem_cons.mp h).elim hk hmem]

/-- One protocol: each of its container ports is taken from until nothing is
left. -/
theorem combineProtocol_spec {group : String × List Key} (hnodup : group.2.Nodup) :
    ∃ taken s', combineProtocol s group = some s' ∧
      (∀ g ∈ taken, g.protocol = group.1.toList ∧ ∀ item ∈ g.items, item.1 ∈ group.2) ∧
      s'.bindings = s.bindings ++ taken.flatMap Group.lines ∧
      (∀ k ∉ group.2, s'.portBindings k = s.portBindings k) ∧
      ∀ k ∈ group.2, takenBy taken k =
        ((groupNames Prod.fst (addressPairs s.portBindings group.2)).flatMap fun ip => List.replicate
          (((s.portBindings k).map fun b => String.ofList (propertyName b.hostIp)).count ip) ip.toList).zip
            ((s.portBindings k).map Binding.hostPort) := by
  let pairs := addressPairs s.portBindings group.2
  have hgroups : keysByHostIp s.portBindings group.2 =
      (groupNames Prod.fst pairs).map fun ip => (ip, (pairs.filter (·.1 = ip)).map Prod.snd) := by
    rw [keysByHostIp, groupBy, List.map_map]
    rfl
  have hone : ∀ k ip, ((pairs.filter (·.1 = ip)).map Prod.snd).count k =
      if k ∈ group.2 then ((s.portBindings k).map fun b => String.ofList (propertyName b.hostIp)).count ip else 0 := by
    intro k ip
    rw [count_addressPairs hnodup (fun name => decide (name = ip)) k, List.count_eq_countP]
    rfl
  have hall : ∀ k, ((keysByHostIp s.portBindings group.2).map fun g => g.2.count k).sum =
      if k ∈ group.2 then (s.portBindings k).length else 0 := by
    intro k
    have hperm : (((groupBy Prod.fst pairs).flatMap Prod.snd).map Prod.snd).count k = (pairs.map Prod.snd).count k :=
      ((groupBy_perm Prod.fst pairs).map Prod.snd).count_eq k
    have htotal := count_addressPairs (f := s.portBindings) hnodup (fun _ => true) k
    rw [List.countP_true, List.length_map] at htotal
    have hpairs : (addressPairs s.portBindings group.2).filter (fun _ => true) = pairs := List.filter_true pairs
    rw [hpairs] at htotal
    rw [← htotal, ← hperm, List.map_flatMap, List.count_flatMap, keysByHostIp, List.map_map]
    rfl
  obtain ⟨taken, s', hrun, htaken, hlines, hleft, hby⟩ := @combineAddresses_spec s group.1.toList
    (keysByHostIp s.portBindings group.2) fun k => by
      rw [hall]
      split
      · exact le_rfl
      · exact Nat.zero_le _
  refine ⟨taken, s', hrun, fun g hg => ⟨(htaken g hg).1, fun item hitem => ?_⟩, hlines, fun k hk => ?_, fun k hk => ?_⟩
  · obtain ⟨g', hg', hmem⟩ := (htaken g hg).2 item hitem
    rw [hgroups] at hg'
    obtain ⟨ip, -, rfl⟩ := List.mem_map.mp hg'
    by_contra hnot
    have hcount := hone item.1 ip
    rw [if_neg hnot] at hcount
    exact List.count_eq_zero.mp hcount hmem
  · rw [hleft, hall, if_neg hk, List.drop_zero]
  · rw [hby, hall, if_pos hk, List.take_length, hgroups, List.flatMap_map]
    refine congrArg (fun l => List.zip l _) (List.flatMap_congr fun ip _ => ?_)
    show List.replicate (((pairs.filter (·.1 = ip)).map Prod.snd).count k) ip.toList = _
    rw [hone, if_pos hk]

theorem takenBy_eq_nil {groups : List Group} (h : ∀ g ∈ groups, ∀ item ∈ g.items, item.1 ≠ k) : takenBy groups k = [] := by
  rw [takenBy, List.map_eq_nil_iff, List.filter_eq_nil_iff]
  intro entry hentry
  obtain ⟨g, hg, hentry⟩ := List.mem_flatMap.mp hentry
  obtain ⟨item, hitem, rfl⟩ := List.mem_map.mp hentry
  simpa using h g hg item hitem

theorem ofList_injective {t t' : Text} (h : String.ofList t = String.ofList t') : t = t' := by
  have hlist := congrArg String.toList h
  rwa [String.toList_ofList, String.toList_ofList] at hlist

/-- **What is taken**: the lines are those of some groups, which have the
bindings of all container ports, relabelled. -/
structure Splits (m : PortMap) (groups : List Group) : Prop where
  lines : sortAndCombinePorts m = some (groups.flatMap Group.lines)
  items : ∀ g ∈ groups, ∀ item ∈ g.items, item.1.protocol = g.protocol ∧ item.1 ∈ m.map Prod.fst
  taken : ∀ k ∈ m.map Prod.fst, takenBy groups k = relabelled m k

theorem exists_splits (hnodup : (m.map Prod.fst).Nodup) : ∃ groups, Splits m groups := by
  let name := fun portKey : Key => String.ofList portKey.protocol
  -- the protocols that are still to come have all their bindings
  have hrun : ∀ (names : List String) (s : Combining), names.Nodup →
      (∀ k ∈ m.map Prod.fst, name k ∈ names → s.portBindings k = bindingsOf m k) →
      ∃ groups s', (names.map fun g => (g, (m.map Prod.fst).filter (name · = g))).foldlM combineProtocol s = some s' ∧
        s'.bindings = s.bindings ++ groups.flatMap Group.lines ∧
        (∀ g ∈ groups, ∀ item ∈ g.items, item.1.protocol = g.protocol ∧ item.1 ∈ m.map Prod.fst ∧ name item.1 ∈ names) ∧
        ∀ k ∈ m.map Prod.fst, name k ∈ names → takenBy groups k = relabelled m k := by
    intro names
    induction names with
    | nil => exact fun s _ _ => ⟨[], s, rfl, (List.append_nil _).symm, fun g hg => (nomatch hg), fun k _ hk => (nomatch hk)⟩
    | cons g names ih =>
      intro s hnames hstock
      obtain ⟨hg, hnames⟩ := List.nodup_cons.mp hnames
      obtain ⟨taken, s₁, hfirst, htaken, hlines, hleft, hby⟩ :=
        @combineProtocol_spec s (g, (m.map Prod.fst).filter (name · = g)) (hnodup.filter _)
      have hmem : ∀ k, k ∈ (m.map Prod.fst).filter (name · = g) ↔ k ∈ m.map Prod.fst ∧ name k = g := by
        intro k
        rw [List.mem_filter, decide_eq_true_iff]
      obtain ⟨groups, s', hrest, hlines', hgroups, hby'⟩ := ih s₁ hnames fun k hk hname => by
        rw [hleft k fun h => hg (((hmem k).mp h).2 ▸ hname)]
        exact hstock k hk (List.mem_cons_of_mem _ hname)
      refine ⟨taken ++ groups, s', ?_, ?_, ?_, fun k hk hname => ?_⟩
      · rw [List.map_cons, List.foldlM_cons, hfirst]
        exact hrest
      · rw [hlines', hlines, List.flatMap_append, List.append_assoc]
      · intro g' hg' item hitem
        obtain hg' | hg' := List.mem_append.mp hg'
        · obtain ⟨hkey, hname⟩ := (hmem _).mp ((htaken g' hg').2 item hitem)
          refine ⟨?_, hkey, hname ▸ List.mem_cons_self⟩
          rw [(htaken g' hg').1, ← hname]
          exact String.toList_ofList.symm
        · obtain ⟨hprotocol, hkey, hname⟩ := hgroups g' hg' item hitem
          exact ⟨hprotocol, hkey, List.mem_cons_of_mem _ hname⟩
      · rw [takenBy_append]
        obtain hname | hname := List.mem_cons.mp hname
        · have hnone : takenBy groups k = [] := takenBy_eq_nil fun g' hg' item hitem heq => by
            obtain ⟨-, -, hlater⟩ := hgroups g' hg' item hitem
            exact hg (hname ▸ heq ▸ hlater)
          have hkeys : ∀ k' ∈ (m.map Prod.fst).filter (name · = g), s.portBindings k' = bindingsOf m k' := by
            intro k' hk'
            obtain ⟨hk', hname'⟩ := (hmem k').mp hk'
            exact hstock k' hk' (hname' ▸ List.mem_cons_self)
          have hfilter : (m.map Prod.fst).filter (name · = g) = (m.map Prod.fst).filter (·.protocol = k.protocol) := by
            refine List.filter_congr fun k' _ => ?_
            rw [decide_eq_decide, ← hname]
            exact ⟨ofList_injective, fun h => congrArg String.ofList h⟩
          have hpairs : addressPairs s.portBindings ((m.map Prod.fst).filter (name · = g)) =
              addressPairs (bindingsOf m) ((m.map Prod.fst).filter (·.protocol = k.protocol)) := by
            rw [addressPairs, addressPairs, ← hfilter]
            exact List.flatMap_congr fun k' hk' => by rw [hkeys k' hk']
          have hin := (hmem k).mpr ⟨hk, hname⟩
          rw [hnone, List.append_nil, hby k hin, hpairs, hkeys k hin]
          rfl
        · have hnone : takenBy taken k = [] := takenBy_eq_nil fun g' hg' item hitem heq => by
            obtain ⟨-, hfirst⟩ := (hmem _).mp ((htaken g' hg').2 item hitem)
            exact hg (hfirst ▸ heq ▸ hname)
          rw [hnone, List.nil_append]
          exact hby' k hk hname
  obtain ⟨groups, s', hfold, hlines, hgroups, hby⟩ := hrun (groupNames name (m.map Prod.fst))
    { portBindings := bindingsOf m } nodup_groupNames fun k _ _ => rfl
  refine ⟨groups, ?_, fun g hg item hitem => ?_, fun k hk => hby k hk (mem_groupNames.mpr ⟨k, hk, rfl⟩)⟩
  · have hsort : sortAndCombinePorts m =
        ((((groupNames name (m.map Prod.fst)).map fun g => (g, (m.map Prod.fst).filter (name · = g))).foldlM
          combineProtocol { portBindings := bindingsOf m }).map Combining.bindings) := rfl
    rw [hsort, hfold]
    exact congrArg some hlines
  · obtain ⟨hprotocol, hkey, -⟩ := hgroups g hg item hitem
    exact ⟨hprotocol, hkey⟩

/-! ## Reading all lines -/

/-- Container port, protocol, address and host port of a binding. -/
def combinationOf (e : Key × Binding) : Key × Text × Text := (e.1, e.2.hostIp.getD [], e.2.hostPort)

theorem combinations_cons (e : Key × List Binding) :
    combinations (e :: m) = (e.2.map fun b => (e.1, b.hostIp.getD [], b.hostPort)) ++ combinations m := List.flatMap_cons

/-- A binding that is pushed is one combination more. -/
theorem combinations_push (hnodup : (m.map Prod.fst).Nodup) (e : Key × Binding) :
    (combinations (push m e)).Perm (combinationOf e :: combinations m) ∧ ((push m e).map Prod.fst).Nodup := by
  rw [push]
  split
  · next hmem =>
    constructor
    · induction m with
      | nil => nomatch hmem
      | cons first m ih =>
        obtain ⟨hfirst, hnodup⟩ := List.nodup_cons.mp hnodup
        rw [List.map_cons, combinations_cons, combinations_cons]
        by_cases heq : first.1 = e.1
        · have hrest : (m.map fun x => if x.1 = e.1 then (x.1, x.2 ++ [e.2]) else x) = m := by
            refine (List.map_congr_left fun x hx => if_neg fun h => hfirst ?_).trans (List.map_id m)
            rw [heq, ← h]
            exact List.mem_map_of_mem hx
          rw [hrest, if_pos heq, List.map_append, List.map_singleton, heq, List.append_assoc]
          exact List.perm_middle
        · rw [if_neg heq]
          obtain hmem | hmem := List.mem_cons.mp hmem
          · exact absurd hmem.symm heq
          · exact ((ih hnodup hmem).append_left _).trans List.perm_middle
    · have hkeys : (m.map fun x => if x.1 = e.1 then (x.1, x.2 ++ [e.2]) else x).map Prod.fst = m.map Prod.fst := by
        rw [List.map_map]
        refine List.map_congr_left fun x _ => ?_
        rw [Function.comp_apply]
        split
        · rfl
        · rfl
      rw [hkeys]
      exact hnodup
  · next hmem =>
    constructor
    · rw [combinations, List.flatMap_append]
      exact List.perm_append_singleton (combinationOf e) (combinations m)
    · rw [List.map_append, List.map_singleton]
      exact hnodup.append (List.nodup_singleton _) fun k hk hk' => hmem (List.mem_singleton.mp hk' ▸ hk)

theorem combinations_foldl_push (hnodup : (m.map Prod.fst).Nodup) (entries : List (Key × Binding)) :
    (combinations (entries.foldl push m)).Perm (entries.map combinationOf ++ combinations m) := by
  induction entries generalizing m with
  | nil => exact .refl _
  | cons e entries ih =>
    obtain ⟨hperm, hkeys⟩ := combinations_push hnodup e
    rw [List.foldl_cons, List.map_cons, List.cons_append]
    exact (ih hkeys).trans ((hperm.append_left _).trans List.perm_middle)

theorem preparePortBindings_eq (lines : List PortBinding) :
    preparePortBindings lines = (expandAll lines).map fun entries => entries.foldl push [] := by
  have hrun : ∀ m : PortMap, lines.foldlM (fun bindings portBinding =>
      (expand portBinding).map fun entries => entries.foldl push bindings) m =
        (expandAll lines).map fun entries => entries.foldl push m := by
    induction lines with
    | nil => exact fun m => rfl
    | cons l lines ih =>
      intro m
      have hfirst := expandAll_append [l] lines
      rw [expandAll_singleton, List.singleton_append] at hfirst
      rw [List.foldlM_cons, hfirst]
      cases expand l with
      | none => rfl
      | some entries =>
        rw [Option.map_some, Option.bind_eq_bind, Option.bind_some, Option.bind_some, ih, Option.map_map]
        refine congrArg (fun f => Option.map f _) (funext fun rest => ?_)
        rw [Function.comp_apply, List.foldl_append]
  exact hrun []

/-- The bindings come back if the lines are read as what was there. -/
theorem comesBack_iff_expandAll {lines : List PortBinding} (h : sortAndCombinePorts m = some lines) :
    ComesBack m ↔ ∃ entries, expandAll lines = some entries ∧ (entries.map combinationOf).Perm (combinations m) := by
  have hperm : ∀ entries : List (Key × Binding),
      (combinations (entries.foldl push [])).Perm (entries.map combinationOf) := by
    intro entries
    have hfold := combinations_foldl_push (m := []) List.nodup_nil entries
    rwa [show combinations [] = [] from rfl, List.append_nil] at hfold
  constructor
  · rintro ⟨lines', bindings, hlines, hbindings, hback⟩
    obtain rfl := Option.some.inj (h.symm.trans hlines)
    rw [preparePortBindings_eq] at hbindings
    obtain ⟨entries, hentries, rfl⟩ := Option.map_eq_some_iff.mp hbindings
    exact ⟨entries, hentries, (hperm entries).symm.trans hback⟩
  · rintro ⟨entries, hentries, hback⟩
    refine ⟨lines, entries.foldl push [], h, ?_, (hperm entries).trans hback⟩
    rw [preparePortBindings_eq, hentries]
    rfl

theorem expandAll_flatMap {groups : List Group} {f : Group → List (Key × Binding)}
    (h : ∀ g ∈ groups, expandAll g.lines = some (f g)) : expandAll (groups.flatMap Group.lines) = some (groups.flatMap f) := by
  induction groups with
  | nil => rfl
  | cons g groups ih =>
    rw [List.flatMap_cons, List.flatMap_cons, expandAll_append, h g List.mem_cons_self,
      ih fun g' hg' => h g' (List.mem_cons_of_mem _ hg')]
    rfl

/-- The lines of each address are read if all are. -/
theorem exists_expandAll {groups : List Group} {entries : List (Key × Binding)}
    (h : expandAll (groups.flatMap Group.lines) = some entries) :
    ∀ g ∈ groups, ∃ part, expandAll g.lines = some part ∧ part ⊆ entries := by
  induction groups generalizing entries with
  | nil => exact fun g hg => nomatch hg
  | cons g groups ih =>
    rw [List.flatMap_cons, expandAll_append] at h
    obtain ⟨first, hfirst, h⟩ := Option.bind_eq_some_iff.mp h
    obtain ⟨rest, hrest, rfl⟩ := Option.map_eq_some_iff.mp h
    intro g' hg'
    obtain rfl | hg' := List.mem_cons.mp hg'
    · exact ⟨first, hfirst, List.subset_append_left _ _⟩
    · obtain ⟨part, hpart, hsub⟩ := ih hrest g' hg'
      exact ⟨part, hpart, fun e he => List.mem_append_right _ (hsub he)⟩

/-! ## Addresses and labels -/

theorem bindingsOf_eq (hnodup : (m.map Prod.fst).Nodup) {e : Key × List Binding} (he : e ∈ m) : bindingsOf m e.1 = e.2 := by
  have hfind : m.find? (fun e' => decide (e'.1 = e.1)) = some e := find?_key hnodup he
  rw [bindingsOf, hfind]
  rfl

/-- The labels of a container port are its addresses, in another order. -/
theorem labels_perm (hk : k ∈ m.map Prod.fst) :
    (labels m k).Perm ((bindingsOf m k).map fun b => propertyName b.hostIp) := by
  let names := (bindingsOf m k).map fun b => String.ofList (propertyName b.hostIp)
  have hall : ∀ name ∈ names, id name ∈ addresses m k.protocol := by
    intro name hname
    obtain ⟨b, hb, rfl⟩ := List.mem_map.mp hname
    refine mem_groupNames.mpr ⟨(String.ofList (propertyName b.hostIp), k), ?_, rfl⟩
    refine List.mem_flatMap.mpr ⟨k, ?_, List.mem_map_of_mem hb⟩
    rw [List.mem_filter, decide_eq_true_iff]
    exact ⟨hk, rfl⟩
  have hperm := flatMap_filter_perm (f := id) (nodup_groupNames : (addresses m k.protocol).Nodup) hall
  have hlabels : labels m k = ((addresses m k.protocol).flatMap fun ip => names.filter (id · = ip)).map String.toList := by
    rw [labels, List.map_flatMap]
    refine List.flatMap_congr fun ip _ => ?_
    have hfilter : names.filter (id · = ip) = List.replicate (names.count ip) ip := List.filter_eq ip
    rw [hfilter, List.map_replicate]
  rw [hlabels]
  refine (hperm.map String.toList).trans (.of_eq ?_)
  rw [List.map_map]
  exact List.map_congr_left fun b _ => String.toList_ofList

theorem map_fst_relabelled (hk : k ∈ m.map Prod.fst) : (relabelled m k).map Prod.fst = labels m k := by
  refine List.map_fst_zip ?_
  rw [(labels_perm hk).length_eq, List.length_map, List.length_map]

theorem mem_takenBy {groups : List Group} {ip hostPort : Text} :
    (ip, hostPort) ∈ takenBy groups k ↔
      ∃ g ∈ groups, ∃ item ∈ g.items, item.1 = k ∧ g.ip = ip ∧ item.2.hostPort = hostPort := by
  rw [takenBy, List.mem_map]
  constructor
  · rintro ⟨entry, hentry, heq⟩
    obtain ⟨hentry, hkey⟩ := List.mem_filter.mp hentry
    obtain ⟨g, hg, hentry⟩ := List.mem_flatMap.mp hentry
    obtain ⟨item, hitem, rfl⟩ := List.mem_map.mp hentry
    exact ⟨g, hg, item, hitem, of_decide_eq_true hkey, congrArg Prod.fst heq, congrArg Prod.snd heq⟩
  · rintro ⟨g, hg, item, hitem, rfl, rfl, rfl⟩
    refine ⟨(item.1, g.ip, item.2.hostPort), List.mem_filter.mpr ⟨?_, decide_eq_true rfl⟩, rfl⟩
    exact List.mem_flatMap.mpr ⟨g, hg, List.mem_map_of_mem hitem⟩

/-! ## When they come back -/

/-- What a container port has among the combinations. -/
theorem filter_combinations (hnodup : (m.map Prod.fst).Nodup) {e : Key × List Binding} (he : e ∈ m) :
    ((combinations m).filter (·.1 = e.1)).map Prod.snd = e.2.map fun b => (b.hostIp.getD [], b.hostPort) := by
  induction m with
  | nil => nomatch he
  | cons first m ih =>
    obtain ⟨hfirst, hnodup⟩ := List.nodup_cons.mp hnodup
    have hown : ∀ (k : Key) (l : List Binding),
        ((l.map fun b => (k, b.hostIp.getD [], b.hostPort)).filter fun c => decide (c.1 = k)).map Prod.snd =
          l.map fun b => (b.hostIp.getD [], b.hostPort) := by
      intro k l
      rw [List.filter_eq_self.mpr, List.map_map]
      · rfl
      · intro c hc
        obtain ⟨b, -, rfl⟩ := List.mem_map.mp hc
        exact decide_eq_true rfl
    have hother : ∀ (k : Key), k ≠ e.1 → ∀ l : List Binding,
        (l.map fun b => (k, b.hostIp.getD [], b.hostPort)).filter (fun c => decide (c.1 = e.1)) = [] := by
      intro k hk l
      rw [List.filter_eq_nil_iff]
      intro c hc
      obtain ⟨b, -, rfl⟩ := List.mem_map.mp hc
      simpa using hk
    rw [combinations_cons, List.filter_append, List.map_append]
    obtain rfl | he := List.mem_cons.mp he
    · have hrest : (combinations m).filter (fun c => decide (c.1 = e.1)) = [] := by
        rw [List.filter_eq_nil_iff]
        intro c hc heq
        obtain ⟨e', he', hc⟩ := List.mem_flatMap.mp hc
        obtain ⟨b, -, rfl⟩ := List.mem_map.mp hc
        have hkey : e'.1 = e.1 := by simpa using heq
        exact hfirst (hkey ▸ List.mem_map_of_mem he')
      rw [hown, hrest, List.map_nil, List.append_nil]
    · have hne : first.1 ≠ e.1 := fun heq => hfirst (heq ▸ List.mem_map_of_mem he)
      rw [hother first.1 hne, List.map_nil, List.nil_append]
      exact ih hnodup he

/-- A list whose elements all have a key is sorted out by the keys. -/
theorem perm_of_filters {β : Type} {l l' : List (Key × β)} (hnodup : keys.Nodup) (hl : ∀ c ∈ l, c.1 ∈ keys)
    (hl' : ∀ c ∈ l', c.1 ∈ keys)
    (h : ∀ k ∈ keys, ((l.filter (·.1 = k)).map Prod.snd).Perm ((l'.filter (·.1 = k)).map Prod.snd)) : l.Perm l' := by
  have hback : ∀ (l : List (Key × β)) (k : Key),
      ((l.filter (·.1 = k)).map Prod.snd).map (Prod.mk k) = l.filter (·.1 = k) := by
    intro l k
    rw [List.map_map]
    refine (List.map_congr_left fun c hc => ?_).trans (List.map_id _)
    have hkey : c.1 = k := of_decide_eq_true (List.mem_filter.mp hc).2
    exact Prod.ext hkey.symm rfl
  refine (flatMap_filter_perm hnodup hl).symm.trans (.trans ?_ (flatMap_filter_perm hnodup hl'))
  refine List.Perm.flatMap_left keys fun k hk => ?_
  rw [← hback l k, ← hback l' k]
  exact (h k hk).map _

theorem plain_of_fourNumbers {ip : Text} (h : FourNumbers ip) : Plain ip := by
  have hnot : ∀ c : Char, c.isDigit = false → c ≠ '.' → c ∉ ip := by
    intro c hc hne hmem
    obtain hdigit | hdot := h.2 c hmem
    · rw [hdigit] at hc
      nomatch hc
    · exact hne hdot
  exact ⟨hnot ':' (by decide) (by decide), hnot '[' (by decide) (by decide)⟩

theorem getD_hostOption (ip : Text) : (hostOption ip).getD [] = ip := by
  rw [hostOption]
  split
  · next h => exact h.symm
  · rfl

/-- An address that is no address: not empty, no dots and no colons. -/
theorem not_reported {ip : Text} (hne : ip ≠ []) (hcolon : ':' ∉ ip) (hdot : '.' ∉ ip) :
    ¬ (ip = [] ∨ FourNumbers ip ∨ Colons ip) := by
  rintro (h | h | ⟨-, ⟨x, rest, rfl, -⟩ | ⟨rest, rfl⟩⟩)
  · exact hne h
  · exact hdot h.1
  · exact hcolon (List.mem_append_right _ List.mem_cons_self)
  · exact hcolon List.mem_cons_self

/-! ## The groups of reported bindings -/

namespace Splits

variable {groups : List Group} (hm : ReportedMap m) (h : Splits m groups)

include hm h

/-- A binding of a group has an address and a host port of its container
port. -/
theorem exists_item {g : Group} (hg : g ∈ groups) {item : Key × Binding} (hitem : item ∈ g.items) :
    ∃ e ∈ m, e.1 = item.1 ∧ (g.ip, item.2.hostPort) ∈ relabelled m e.1 ∧
      (∃ b ∈ e.2, propertyName b.hostIp = g.ip) ∧ ∃ b ∈ e.2, b.hostPort = item.2.hostPort := by
  obtain ⟨-, hkey⟩ := h.items g hg item hitem
  obtain ⟨e, he, heq⟩ := List.mem_map.mp hkey
  have hmem : (g.ip, item.2.hostPort) ∈ relabelled m e.1 := by
    rw [heq, ← h.taken item.1 hkey]
    exact mem_takenBy.mpr ⟨g, hg, item, hitem, rfl, rfl, rfl⟩
  obtain ⟨hip, hport⟩ := List.of_mem_zip hmem
  rw [← heq] at hkey
  obtain ⟨b, hb, hname⟩ := List.mem_map.mp ((labels_perm hkey).mem_iff.mp hip)
  obtain ⟨b', hb', hport⟩ := List.mem_map.mp hport
  rw [bindingsOf_eq hm.nodup he] at hb hb'
  exact ⟨e, he, heq, hmem, ⟨b, hb, hname⟩, b', hb', hport⟩

theorem reported {g : Group} (hg : g ∈ groups) : ∀ item ∈ g.items, Reported g.protocol item := by
  intro item hitem
  obtain ⟨e, he, heq, -, -, b, hb, hport⟩ := h.exists_item hm hg hitem
  obtain ⟨hpos, hle⟩ := hm.port e he
  exact ⟨(h.items g hg item hitem).1, heq ▸ hpos, heq ▸ hle, hport ▸ hm.hostPort e he b hb⟩

/-- The address of a binding is the address of a group. -/
theorem exists_group {e : Key × List Binding} (he : e ∈ m) {b : Binding} (hb : b ∈ e.2) :
    ∃ g ∈ groups, g.items ≠ [] ∧ g.ip = propertyName b.hostIp := by
  have hk : e.1 ∈ m.map Prod.fst := List.mem_map_of_mem he
  have hmem : propertyName b.hostIp ∈ (relabelled m e.1).map Prod.fst := by
    rw [map_fst_relabelled hk, (labels_perm hk).mem_iff, bindingsOf_eq hm.nodup he]
    exact List.mem_map_of_mem hb
  obtain ⟨⟨ip, hostPort⟩, hpair, rfl⟩ := List.mem_map.mp hmem
  rw [← h.taken e.1 hk] at hpair
  obtain ⟨g, hg, item, hitem, -, hip, -⟩ := mem_takenBy.mp hpair
  exact ⟨g, hg, List.ne_nil_of_mem hitem, hip⟩

/-- The address of a group is the address of a binding. -/
theorem exists_binding {g : Group} (hg : g ∈ groups) (hne : g.items ≠ []) :
    ∃ e ∈ m, ∃ b ∈ e.2, propertyName b.hostIp = g.ip := by
  obtain ⟨item, items, hlist⟩ := List.exists_cons_of_ne_nil hne
  obtain ⟨e, he, -, -, hb, -⟩ := h.exists_item hm hg (hlist ▸ List.mem_cons_self : item ∈ g.items)
  exact ⟨e, he, hb⟩

/-- **The lines are read as what was taken**, if the addresses keep to their
places and the lines are shown. -/
theorem exists_entries (hplain : ∀ g ∈ groups, g.items ≠ [] → Plain g.ip)
    (hshown : ∀ g ∈ groups, ∀ item ∈ g.items, Shown g.ip item.2.hostPort) :
    ∃ entries, expandAll (groups.flatMap Group.lines) = some entries ∧
      entries.map combinationOf = groups.flatMap Group.labelled := by
  refine ⟨_, expandAll_flatMap (f := fun g => g.items.map fun item => (item.1, ⟨hostOption g.ip, item.2.hostPort⟩))
    fun g hg => ?_, ?_⟩
  · by_cases hnil : g.items = []
    · rw [Group.lines, hnil]
      rfl
    · exact expandAll_merged_of_shown (hplain g hg hnil) (h.reported hm hg) (hshown g hg)
  · rw [List.map_flatMap]
    refine List.flatMap_congr fun g _ => ?_
    rw [List.map_map, Group.labelled]
    refine List.map_congr_left fun item _ => ?_
    rw [Function.comp_apply, combinationOf, getD_hostOption]

/-- No address has colons, if the lines are read as the bindings: it would be
read as an address that nobody has. -/
theorem not_colons {entries : List (Key × Binding)} (hentries : expandAll (groups.flatMap Group.lines) = some entries)
    (hperm : (entries.map combinationOf).Perm (combinations m)) {g : Group} (hg : g ∈ groups) (hne : g.items ≠ []) :
    ¬ Colons g.ip := by
  intro hcolons
  obtain ⟨hbad, hlines⟩ := bad_merged hcolons (h.reported hm hg)
  obtain ⟨l, lines, hl⟩ := List.exists_cons_of_ne_nil (hlines hne)
  obtain ⟨part, hpart, hsub⟩ := exists_expandAll hentries g hg
  rw [Group.lines, hl, ← List.singleton_append, expandAll_append, expandAll_singleton] at hpart
  obtain ⟨first, hfirst, hpart⟩ := Option.bind_eq_some_iff.mp hpart
  obtain ⟨rest, -, rfl⟩ := Option.map_eq_some_iff.mp hpart
  obtain ⟨e, he, x, hx, hxne, hcolon, hdot⟩ := expand_bad (hbad l (hl ▸ List.mem_cons_self)) hfirst
  have hmem : combinationOf e ∈ combinations m :=
    hperm.mem_iff.mp (List.mem_map_of_mem (hsub (List.mem_append_left _ he)))
  obtain ⟨e', he', hmem⟩ := List.mem_flatMap.mp hmem
  obtain ⟨b, hb, heq⟩ := List.mem_map.mp hmem
  have haddress : b.hostIp.getD [] = x := by
    have hsecond := congrArg (fun c : Key × Text × Text => c.2.1) heq
    simpa [combinationOf, hx] using hsecond
  cases hip : b.hostIp with
  | none =>
    rw [hip] at haddress
    exact hxne haddress.symm
  | some ip =>
    rw [hip, Option.getD_some] at haddress
    exact not_reported hxne hcolon hdot (haddress ▸ hm.hostIp e' he' b hb ip hip)

end Splits

/-- **What comes back was shown**, and fell to its own addresses. -/
theorem showable_of_comesBack (hm : ReportedMap m) (hback : ComesBack m) :
    (∀ e ∈ m, ∀ b ∈ e.2, Showable b) ∧
      ∀ e ∈ m, (relabelled m e.1).Perm (e.2.map fun b => (propertyName b.hostIp, b.hostPort)) := by
  obtain ⟨groups, h⟩ := exists_splits hm.nodup
  obtain ⟨entries, hentries, hperm⟩ := (comesBack_iff_expandAll h.lines).mp hback
  have hplain : ∀ g ∈ groups, g.items ≠ [] → Plain g.ip := by
    intro g hg hne
    obtain ⟨e, he, b, hb, hip⟩ := h.exists_binding hm hg hne
    have hnot := h.not_colons hm hentries hperm hg hne
    rw [← hip] at hnot ⊢
    cases haddress : b.hostIp with
    | none => exact ⟨by decide, by decide⟩
    | some ip =>
      rw [haddress] at hnot
      obtain rfl | hnumbers | hcolon := hm.hostIp e he b hb ip haddress
      · exact ⟨List.not_mem_nil, List.not_mem_nil⟩
      · exact plain_of_fourNumbers hnumbers
      · exact absurd hcolon hnot
  have hshown : ∀ g ∈ groups, ∀ item ∈ g.items, Shown g.ip item.2.hostPort := by
    intro g hg item hitem
    obtain ⟨part, hpart, -⟩ := exists_expandAll hentries g hg
    exact shown_of_expandAll (hplain g hg (List.ne_nil_of_mem hitem)) (h.reported hm hg) hpart item hitem
  obtain ⟨entries', hentries', hlabelled⟩ := h.exists_entries hm hplain hshown
  obtain rfl := Option.some.inj (hentries.symm.trans hentries')
  rw [hlabelled] at hperm
  have hby : ∀ e ∈ m, (relabelled m e.1).Perm (e.2.map fun b => (b.hostIp.getD [], b.hostPort)) := by
    intro e he
    have hfilter := (hperm.filter fun c => decide (c.1 = e.1)).map Prod.snd
    rw [filter_combinations hm.nodup he] at hfilter
    rw [← h.taken e.1 (List.mem_map_of_mem he)]
    exact hfilter
  -- an absent address would be written as a word
  have hpresent : ∀ e ∈ m, ∀ b ∈ e.2, b.hostIp ≠ none := by
    intro e he b hb hnone
    have hk : e.1 ∈ m.map Prod.fst := List.mem_map_of_mem he
    have hmem : propertyName none ∈ (relabelled m e.1).map Prod.fst := by
      rw [map_fst_relabelled hk, (labels_perm hk).mem_iff, bindingsOf_eq hm.nodup he, ← hnone]
      exact List.mem_map_of_mem hb
    rw [((hby e he).map Prod.fst).mem_iff, List.map_map] at hmem
    obtain ⟨b', hb', heq⟩ := List.mem_map.mp hmem
    rw [Function.comp_apply] at heq
    cases hip : b'.hostIp with
    | none =>
      rw [hip] at heq
      nomatch heq
    | some ip =>
      rw [hip, Option.getD_some] at heq
      have hword : ip = propertyName none := heq
      have hform := hm.hostIp e he b' hb' ip hip
      rw [hword] at hform
      exact not_reported (by decide) (by decide) (by decide) hform
  have hown : ∀ e ∈ m, (relabelled m e.1).Perm (e.2.map fun b => (propertyName b.hostIp, b.hostPort)) := by
    intro e he
    refine (hby e he).trans (.of_eq (List.map_congr_left fun b hb => ?_))
    cases hip : b.hostIp with
    | none => exact absurd hip (hpresent e he b hb)
    | some ip => rfl
  refine ⟨fun e he b hb => ?_, hown⟩
  obtain ⟨ip, hip⟩ := Option.ne_none_iff_exists'.mp (hpresent e he b hb)
  obtain ⟨g, hg, hne, hlabel⟩ := h.exists_group hm he hb
  rw [hip] at hlabel
  refine ⟨ip, hip, ?_, ?_⟩
  · have hcolon := (hplain g hg hne).1
    rwa [hlabel] at hcolon
  · have hmem : (ip, b.hostPort) ∈ relabelled m e.1 := by
      rw [(hown e he).mem_iff]
      refine List.mem_map.mpr ⟨b, hb, ?_⟩
      rw [hip]
      rfl
    rw [← h.taken e.1 (List.mem_map_of_mem he)] at hmem
    obtain ⟨g', hg', item, hitem, -, hip', hport⟩ := mem_takenBy.mp hmem
    have hitemShown := hshown g' hg' item hitem
    rwa [hip', hport] at hitemShown

/-- **What can be shown, and falls to its own addresses, comes back.** -/
theorem comesBack_of_showable (hm : ReportedMap m) (hshowable : ∀ e ∈ m, ∀ b ∈ e.2, Showable b)
    (hown : ∀ e ∈ m, (relabelled m e.1).Perm (e.2.map fun b => (propertyName b.hostIp, b.hostPort))) : ComesBack m := by
  obtain ⟨groups, h⟩ := exists_splits hm.nodup
  have hplain : ∀ g ∈ groups, g.items ≠ [] → Plain g.ip := by
    intro g hg hne
    obtain ⟨e, he, b, hb, hip⟩ := h.exists_binding hm hg hne
    obtain ⟨ip, haddress, hcolon, -⟩ := hshowable e he b hb
    rw [haddress] at hip
    obtain rfl : ip = g.ip := hip
    obtain hnil | hnumbers | ⟨hbracket, -⟩ := hm.hostIp e he b hb _ haddress
    · rw [hnil]
      exact ⟨List.not_mem_nil, List.not_mem_nil⟩
    · exact plain_of_fourNumbers hnumbers
    · exact ⟨hcolon, hbracket⟩
  have hshown : ∀ g ∈ groups, ∀ item ∈ g.items, Shown g.ip item.2.hostPort := by
    intro g hg item hitem
    obtain ⟨e, he, -, hmem, -, -⟩ := h.exists_item hm hg hitem
    rw [(hown e he).mem_iff] at hmem
    obtain ⟨b, hb, hpair⟩ := List.mem_map.mp hmem
    obtain ⟨ip, haddress, -, hshown⟩ := hshowable e he b hb
    rw [haddress] at hpair
    obtain ⟨hip, hport⟩ := Prod.mk.inj hpair
    obtain rfl : ip = g.ip := hip
    rw [← hport]
    exact hshown
  obtain ⟨entries, hentries, hlabelled⟩ := h.exists_entries hm hplain hshown
  refine (comesBack_iff_expandAll h.lines).mpr ⟨entries, hentries, ?_⟩
  rw [hlabelled]
  refine perm_of_filters hm.nodup (fun c hc => ?_) (fun c hc => ?_) fun k hk => ?_
  · obtain ⟨g, hg, hc⟩ := List.mem_flatMap.mp hc
    obtain ⟨item, hitem, rfl⟩ := List.mem_map.mp hc
    exact (h.items g hg item hitem).2
  · obtain ⟨e, he, hc⟩ := List.mem_flatMap.mp hc
    obtain ⟨b, -, rfl⟩ := List.mem_map.mp hc
    exact List.mem_map_of_mem he
  · obtain ⟨e, he, rfl⟩ := List.mem_map.mp hk
    rw [filter_combinations hm.nodup he]
    refine (List.Perm.of_eq (h.taken e.1 hk)).trans ((hown e he).trans (.of_eq (List.map_congr_left fun b hb => ?_)))
    obtain ⟨ip, hip, -⟩ := hshowable e he b hb
    rw [hip]
    rfl

/-- **The bindings come back** exactly if each can be shown, and for each
container port the host ports, taken in order, fall to their own addresses,
taken by their first appearance. -/
theorem comesBack_iff (hm : ReportedMap m) : ComesBack m ↔
    (∀ e ∈ m, ∀ b ∈ e.2, Showable b) ∧
      ∀ e ∈ m, (relabelled m e.1).Perm (e.2.map fun b => (propertyName b.hostIp, b.hostPort)) :=
  ⟨showable_of_comesBack hm, fun h => comesBack_of_showable hm h.1 h.2⟩

/-! ## Two ports, and one -/

/-- Two container ports: one on a port and a range of two addresses, one on
a port of the first and on any. -/
def twoPorts : PortMap :=
  [(⟨80, "tcp".toList⟩, [⟨some "10.0.0.2".toList, "8080".toList⟩, ⟨some "10.0.0.1".toList, "9000-9005".toList⟩]),
    (⟨443, "tcp".toList⟩, [⟨some "10.0.0.2".toList, "8443".toList⟩, ⟨some [], []⟩])]

theorem reportedMap_twoPorts : ReportedMap twoPorts := by
  have hnumbers : ∀ ip : Text, ip.all (fun c => c.isDigit || c == '.') = true → '.' ∈ ip → FourNumbers ip :=
    fun ip hall hdot => ⟨hdot, fun c hc => by simpa using List.all_eq_true.mp hall c hc⟩
  refine ⟨by decide, by decide, ?_, ?_⟩
  · simp only [twoPorts, List.forall_mem_cons]
    refine ⟨⟨.inr ⟨8080, 8080, ?_⟩, .inr ⟨9000, 9005, ?_⟩, ?_⟩, ⟨.inr ⟨8443, 8443, ?_⟩, .inl rfl, ?_⟩, ?_⟩
    · decide
    · decide
    · exact List.forall_mem_nil _
    · decide
    · exact List.forall_mem_nil _
    · exact List.forall_mem_nil _
  · simp only [twoPorts, List.forall_mem_cons]
    refine ⟨⟨?_, ?_, List.forall_mem_nil _⟩, ⟨?_, ?_, List.forall_mem_nil _⟩, List.forall_mem_nil _⟩
    · rintro ip ⟨⟩
      exact .inr (.inl (hnumbers _ rfl (by decide)))
    · rintro ip ⟨⟩
      exact .inr (.inl (hnumbers _ rfl (by decide)))
    · rintro ip ⟨⟩
      exact .inr (.inl (hnumbers _ rfl (by decide)))
    · rintro ip ⟨⟩
      exact .inl rfl

theorem showable_twoPorts : ∀ e ∈ twoPorts, ∀ b ∈ e.2, Showable b := by
  have hshown : ∀ e ∈ twoPorts, ∀ b ∈ e.2, ∃ ip ∈ b.hostIp, ':' ∉ ip ∧ Shown ip b.hostPort := by decide
  exact hshown

theorem relabelled_twoPorts : ∀ e ∈ twoPorts,
    relabelled twoPorts e.1 = e.2.map fun b => (propertyName b.hostIp, b.hostPort) := by decide +kernel

theorem comesBack_iff_twoPorts : ComesBack twoPorts :=
  (comesBack_iff reportedMap_twoPorts).mpr
    ⟨showable_twoPorts, fun e he => .of_eq (relabelled_twoPorts e he)⟩

/-- A container port with one binding, to a port or to any. -/
def oneBinding (ip hostPort : Text) : PortMap := [(⟨80, ['t', 'c', 'p']⟩, [⟨some ip, hostPort⟩])]

theorem reportedMap_oneBinding {ip hostPort : Text} (hip : ip = [] ∨ FourNumbers ip ∨ Colons ip)
    (hport : ReportedPort hostPort) : ReportedMap (oneBinding ip hostPort) := by
  constructor
  · exact List.nodup_singleton _
  · rintro e (_ | ⟨_, ⟨⟩⟩)
    show 0 < 80 ∧ 80 ≤ 65535
    omega
  · rintro e (_ | ⟨_, ⟨⟩⟩) b (_ | ⟨_, ⟨⟩⟩)
    exact hport
  · rintro e (_ | ⟨_, ⟨⟩⟩) b (_ | ⟨_, ⟨⟩⟩) address ⟨⟩
    exact hip

/-- **A binding to `::1` does not come back.** -/
theorem not_comesBack_of_colons : ¬ ∀ m : PortMap, ReportedMap m → ComesBack m := by
  intro hall
  have hcolons : Colons [':', ':', '1'] := ⟨by decide, .inr ⟨['1'], rfl⟩⟩
  have hm : ReportedMap (oneBinding [':', ':', '1'] ['8', '0']) :=
    reportedMap_oneBinding (.inr (.inr hcolons)) (.inr ⟨80, 80, le_rfl, by decide, by decide⟩)
  obtain ⟨ip, hip, hcolon, -⟩ := (showable_of_comesBack hm (hall _ hm)).1 _ List.mem_cons_self _ List.mem_cons_self
  obtain rfl := Option.some.inj hip
  exact hcolon (by decide)

end Ports

end Portainer
