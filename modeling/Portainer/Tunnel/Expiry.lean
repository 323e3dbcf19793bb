import Portainer.Common.Decimal
import Portainer.Tunnel.Helpers.Service
import Portainer.Tunnel.Model.Monitoring
/-!
# The expiry of tunnels

After `checkTunnels` no tunnel is left that has been inactive for its
timeout: one with jobs is idle, one without is gone, and the others are as
they were, whatever the snapshots do. `expiry` says so of every map, as long
as the overdue tunnels with jobs are under keys that the service writes. A
tunnel whose last activity is the zero time is passed over, whatever its
status is, and so is one with jobs under another key (`not_checksOut`).
No run of the service makes a tunnel of either kind, and the loop does to
the map what `Service.checkTunnels` does: `checkTunnels_of_run`.
-/

namespace Portainer

open Std

namespace Tunnel

variable {S : Type} [ChiselServer S]

variable {rounds : Rounds} {m m' : Monitor S} {key key' : String}
  {t : TunnelDetails}

/-! ## Expiry -/

/-- A key that the service writes: the text of an identifier. -/
def Canonical (key : String) : Prop :=
  ∃ e : EndpointID, (-2 ^ 63 ≤ e ∧ e < 2 ^ 63) ∧ key = Path.itoa e

/-- **The tunnel has been inactive for its timeout** since the activity that
is recorded. -/
def Overdue (t : TunnelDetails) (now : Time) : Prop :=
  ∃ last, t.lastActivity = some last ∧ (t.status = .active ∧ activeTimeout ≤ now - last ∨
    t.status = .required ∧ requiredTimeout ≤ now - last)

/-- A tunnel with jobs that is overdue is under a key that the service
writes. -/
def Settable (rounds : Rounds) (key : String) (t : TunnelDetails) : Prop :=
  Overdue t (rounds.check key) → t.jobs ≠ [] → Canonical key

/-- **What the check of all tunnels makes of them**: each that is overdue is
idle with its jobs, or gone where it has none, and the others are kept. -/
structure Expires (overdue : TunnelDetails → Time → Prop) (rounds : Rounds) (m m' : Monitor S) : Prop where
  none_left : ∀ key t, m'.tunnelDetailsMap[key]? = some t → ¬ overdue t (rounds.check key)
  idle : ∀ key t, m.tunnelDetailsMap[key]? = some t → overdue t (rounds.check key) → t.jobs ≠ [] →
    ∃ t', m'.tunnelDetailsMap[key]? = some t' ∧ t'.status = .idle ∧ t'.jobs = t.jobs
  gone : ∀ key t, m.tunnelDetailsMap[key]? = some t → overdue t (rounds.check key) → t.jobs = [] →
    m'.tunnelDetailsMap[key]? = none
  kept : ∀ key t, m.tunnelDetailsMap[key]? = some t → ¬ overdue t (rounds.check key) →
    m'.tunnelDetailsMap[key]? = some t

theorem expired_iff {now : Time} : t.expired now = true ↔ Overdue t now := by
  unfold TunnelDetails.expired Overdue
  cases t.lastActivity with
  | none => simp
  | some last => cases t.status <;> simp

/-- What the check makes of one tunnel. -/
def atExpiry (rounds : Rounds) (key : String) (t : TunnelDetails) : Option TunnelDetails :=
  if t.expired (rounds.check key) then
    if t.jobs.length > 0 then some (Service.idleTunnel t (rounds.idle key)) else none
  else some t

/-! ## One turn -/

/-- The tunnel of a key is replaced, and no other. -/
def Replaces (m m' : Monitor S) (key : String) (t : Option TunnelDetails) : Prop :=
  ∀ key', m'.tunnelDetailsMap[key']? = if key = key' then t else m.tunnelDetailsMap[key']?

omit [ChiselServer S] in
theorem replaces_self : Replaces m m key m.tunnelDetailsMap[key]? := by
  intro key'
  split
  · rename_i hkey
    rw [hkey]
  · rfl

omit [ChiselServer S] in
theorem replaces_set {e : EndpointID} : Replaces m (m.set e t) (Path.itoa e) (some t) := by
  intro key'
  simp [Monitor.set, ExtTreeMap.getElem?_insert]

omit [ChiselServer S] in
theorem replaces_remove : Replaces m (m.remove key) key none := by
  intro key'
  simp [Monitor.remove, ExtTreeMap.getElem?_erase]

theorem replaces_setTunnelStatusToIdle {e : EndpointID} {now : Time}
    (ht : m.tunnelDetailsMap[Path.itoa e]? = some t) :
    Replaces m (m.setTunnelStatusToIdle e now) (Path.itoa e) (some (Service.idleTunnel t now)) := by
  have hget : m.getTunnelDetails e = t := by rw [Monitor.getTunnelDetails, ht, Option.getD_some]
  unfold Monitor.setTunnelStatusToIdle
  dsimp only
  rw [hget]
  by_cases hcredentials : t.credentials = ""
  · have hidle : { t with status := .idle, port := 0, lastActivity := some now } =
        Service.idleTunnel t now := by rw [Service.idleTunnel, ← hcredentials]
    rw [if_neg (not_not.mpr hcredentials), hidle]
    exact replaces_set
  · rw [if_pos hcredentials]
    exact replaces_set

omit [ChiselServer S] in
/-- **The snapshot step** touches no tunnel, and does not stop the loop. -/
theorem snapshotExpired_run (rounds : Rounds) (key : String) (t : TunnelDetails) (elapsed : Time)
    (w : Sys Callee (Monitor S)) :
    ∃ w', (snapshotExpired rounds key t elapsed).run w = (.ok (), w') ∧
      w'.store.tunnelDetailsMap = w.store.tunnelDetailsMap := by
  unfold snapshotExpired
  split
  · exact ⟨_, rfl, rfl⟩
  · exact ⟨_, rfl, rfl⟩

/-- An expired tunnel. -/
theorem expireTunnel_run (rounds : Rounds) (hkey : t.jobs ≠ [] → Canonical key) (w : Sys Callee (Monitor S))
    (ht : w.store.tunnelDetailsMap[key]? = some t) :
    ∃ w', (expireTunnel rounds key t).run w = (.ok (), w') ∧ Replaces w.store w'.store key
      (if t.jobs.length > 0 then some (Service.idleTunnel t (rounds.idle key)) else none) := by
  unfold expireTunnel
  by_cases hjobs : t.jobs.length > 0
  · obtain ⟨e, ⟨hlow, hhigh⟩, rfl⟩ := hkey (List.length_pos_iff.mp hjobs)
    rw [if_pos hjobs, if_pos hjobs, Path.atoi_itoa hlow hhigh]
    exact ⟨_, rfl, replaces_setTunnelStatusToIdle ht⟩
  · rw [if_neg hjobs, if_neg hjobs]
    exact ⟨_, rfl, replaces_remove⟩

theorem checkActivity_run {last : Time} (hkey : Settable rounds key t) (w : Sys Callee (Monitor S))
    (ht : w.store.tunnelDetailsMap[key]? = some t) (hlast : t.lastActivity = some last) :
    ∃ w', (checkActivity rounds key t last).run w = (.ok (), w') ∧
      Replaces w.store w'.store key (atExpiry rounds key t) := by
  have hkept : Replaces w.store w.store key (some t) := ht ▸ replaces_self
  have hexpired : t.expired (rounds.check key) = true ↔ Overdue t (rounds.check key) := expired_iff
  unfold checkActivity atExpiry
  by_cases hdue : t.expired (rounds.check key) = true
  · rw [if_pos hdue]
    obtain ⟨last', hlast', hcases⟩ := hexpired.mp hdue
    obtain rfl := Option.some.inj (hlast.symm.trans hlast')
    have hidle : t.status ≠ .idle := by
      rintro hidle
      rcases hcases with ⟨hstatus, -⟩ | ⟨hstatus, -⟩ <;> rw [hidle] at hstatus <;> nomatch hstatus
    have hrequired : ¬ (t.status = .required ∧ rounds.check key - last < requiredTimeout) := by
      rintro ⟨hstatus, hearly⟩
      rcases hcases with ⟨hactive, -⟩ | ⟨-, hlate⟩
      · rw [hstatus] at hactive
        nomatch hactive
      · exact absurd hearly (Int.not_lt.mpr hlate)
    have hactive : ¬ (t.status = .active ∧ rounds.check key - last < activeTimeout) := by
      rintro ⟨hstatus, hearly⟩
      rcases hcases with ⟨-, hlate⟩ | ⟨hrequired, -⟩
      · exact absurd hearly (Int.not_lt.mpr hlate)
      · rw [hstatus] at hrequired
        nomatch hrequired
    simp only [if_neg hidle, if_neg hrequired, if_neg hactive]
    obtain ⟨w₁, hsnapshot, hmap⟩ := snapshotExpired_run rounds key t (rounds.check key - last) w
    obtain ⟨w₂, hexpire, hreplaces⟩ := expireTunnel_run rounds (hkey (hexpired.mp hdue)) w₁ (hmap ▸ ht)
    refine ⟨w₂, (Action.bind_run_of_ok hsnapshot).trans hexpire, fun key' => ?_⟩
    rw [hreplaces key', hmap]
  · rw [if_neg hdue]
    refine ⟨w, ?_, hkept⟩
    have hnot : ¬ Overdue t (rounds.check key) := fun h => hdue (hexpired.mpr h)
    by_cases hidle : t.status = .idle
    · simp only [if_pos hidle]
      rfl
    by_cases hrequired : t.status = .required
    · have hearly : rounds.check key - last < requiredTimeout :=
        Int.not_le.mp fun hlate => hnot ⟨last, hlast, .inr ⟨hrequired, hlate⟩⟩
      simp only [if_neg hidle, if_pos (And.intro hrequired hearly)]
      rfl
    · have hactive : t.status = .active := by
        cases hstatus : t.status with
        | idle => exact absurd hstatus hidle
        | required => exact absurd hstatus hrequired
        | active => rfl
      have hearly : rounds.check key - last < activeTimeout :=
        Int.not_le.mp fun hlate => hnot ⟨last, hlast, .inl ⟨hactive, hlate⟩⟩
      simp only [if_neg hidle, if_neg fun h : _ ∧ _ => hrequired h.1, if_pos (And.intro hactive hearly)]
      rfl

/-- **One turn of the loop** deals with the tunnel of its key, and ends. -/
theorem checkTunnel_run (w : Sys Callee (Monitor S))
    (hkey : ∀ t, w.store.tunnelDetailsMap[key]? = some t → Settable rounds key t) :
    ∃ w', (checkTunnel rounds key).run w = (.ok (), w') ∧ Replaces w.store w'.store key
      (w.store.tunnelDetailsMap[key]?.bind (atExpiry rounds key)) := by
  unfold checkTunnel
  have hget : ∀ item, w.store.tunnelDetailsMap[key]? = item →
      (Action.get (fun m : Monitor S => m.tunnelDetailsMap[key]?) :
        Action Callee (Monitor S) String (Option TunnelDetails)).run w = (.ok item, w) := by
    rintro item rfl
    rfl
  cases ht : w.store.tunnelDetailsMap[key]? with
  | none =>
    have hnone : Replaces w.store w.store key none := ht ▸ replaces_self
    exact ⟨w, Action.bind_run_of_ok (hget _ ht), hnone⟩
  | some t =>
    cases hlast : t.lastActivity with
    | none =>
      have hnot : atExpiry rounds key t = some t := by
        simp [atExpiry, TunnelDetails.expired, hlast]
      refine ⟨w, (Action.bind_run_of_ok (hget _ ht)).trans ?_, ?_⟩
      · simp only [Option.bind_some, hlast]
        rfl
      · rw [Option.bind_some, hnot, ← ht]
        exact replaces_self
    | some last =>
      obtain ⟨w', hrun, hreplaces⟩ := checkActivity_run (hkey t ht) w ht hlast
      refine ⟨w', (Action.bind_run_of_ok (hget _ ht)).trans ?_, hreplaces⟩
      simp only [Option.bind_some, hlast, Option.map_some]
      exact hrun

/-! ## The loop -/

theorem forM_checkTunnel_run {keys : List String} (hnodup : keys.Nodup) (w : Sys Callee (Monitor S))
    (hkeys : ∀ key ∈ keys, ∀ t, w.store.tunnelDetailsMap[key]? = some t → Settable rounds key t) :
    ∃ w', (keys.forM (checkTunnel rounds)).run w = (.ok (), w') ∧
      ∀ key, w'.store.tunnelDetailsMap[key]? = if key ∈ keys then
        w.store.tunnelDetailsMap[key]?.bind (atExpiry rounds key) else w.store.tunnelDetailsMap[key]? := by
  induction keys generalizing w with
  | nil => exact ⟨w, rfl, fun _ => by simp⟩
  | cons first keys ih =>
    obtain ⟨hfirst, hnodup⟩ := List.nodup_cons.mp hnodup
    obtain ⟨w₁, hturn, hreplaces⟩ := checkTunnel_run w (hkeys first List.mem_cons_self)
    -- the turn leaves the tunnels of the other keys
    have hrest : ∀ key ∈ keys, ∀ t, w₁.store.tunnelDetailsMap[key]? = some t → Settable rounds key t := by
      intro key hkey t ht
      have hne : first ≠ key := fun heq => hfirst (heq ▸ hkey)
      rw [hreplaces key, if_neg hne] at ht
      exact hkeys key (List.mem_cons_of_mem first hkey) t ht
    obtain ⟨w₂, hrun, hloop⟩ := ih hnodup w₁ hrest
    refine ⟨w₂, (Action.bind_run_of_ok hturn).trans hrun, fun key => ?_⟩
    rw [hloop key, hreplaces key]
    by_cases hkey : first = key
    · subst hkey
      simp [hfirst]
    · have hmem : key ∈ first :: keys ↔ key ∈ keys := by simp [Ne.symm hkey]
      simp only [if_neg hkey, hmem]

/-- **`checkTunnels` returns, and treats every tunnel on its own**, whatever
the calls of the snapshots answer. -/
theorem checkTunnels_run {r : Rounds} (w : Sys Callee (Monitor S))
    (hkeys : ∀ key t, w.store.tunnelDetailsMap[key]? = some t → Settable r key t) :
    ∃ w', (checkTunnels r).run w = (.ok (), w') ∧ ∀ key, w'.store.tunnelDetailsMap[key]? =
      w.store.tunnelDetailsMap[key]?.bind (atExpiry r key) := by
  obtain ⟨w', hrun, hloop⟩ := forM_checkTunnel_run ExtTreeMap.nodup_keys w
    fun key (_ : key ∈ w.store.tunnelDetailsMap.keys) => hkeys key
  refine ⟨w', hrun, fun key => ?_⟩
  rw [hloop key]
  by_cases hkey : key ∈ w.store.tunnelDetailsMap.keys
  · rw [if_pos hkey]
  · rw [if_neg hkey]
    rw [ExtTreeMap.mem_keys] at hkey
    rw [ExtTreeMap.getElem?_eq_none hkey, Option.bind_none]

/-- **After the check no tunnel is overdue**: each that was is idle with its
jobs or gone, and the others are kept. -/
theorem expiry (w : Sys Callee (Monitor S))
    (hkeys : ∀ key t, w.store.tunnelDetailsMap[key]? = some t → Settable rounds key t) :
    ∃ w', (checkTunnels rounds).run w = (.ok (), w') ∧ Expires Overdue rounds w.store w'.store := by
  obtain ⟨w', hrun, hafter⟩ := checkTunnels_run w hkeys
  refine ⟨w', hrun, ?_, ?_, ?_, ?_⟩
  · intro key t ht hoverdue
    rw [hafter key, Option.bind_eq_some_iff] at ht
    obtain ⟨before, -, hbefore⟩ := ht
    unfold atExpiry at hbefore
    split at hbefore
    · split at hbefore
      · -- an idle tunnel is not overdue
        obtain rfl := Option.some.inj hbefore
        obtain ⟨last, -, ⟨hstatus, -⟩ | ⟨hstatus, -⟩⟩ := hoverdue <;> nomatch hstatus
      · nomatch hbefore
    · rename_i hnot
      obtain rfl := Option.some.inj hbefore
      exact hnot (expired_iff.mpr hoverdue)
  · intro key t ht hoverdue hjobs
    refine ⟨Service.idleTunnel t (rounds.idle key), ?_, rfl, rfl⟩
    rw [hafter key, ht, Option.bind_some, atExpiry, if_pos (expired_iff.mpr hoverdue),
      if_pos (List.length_pos_iff.mpr hjobs)]
  · intro key t ht hoverdue hjobs
    rw [hafter key, ht, Option.bind_some, atExpiry, if_pos (expired_iff.mpr hoverdue), hjobs]
    rfl
  · intro key t ht hnot
    rw [hafter key, ht, Option.bind_some, atExpiry, if_neg fun hdue => hnot (expired_iff.mp hdue)]

/-- Two environments with active tunnels, the first with a job. -/
def monitored : Monitor (ExtTreeMap String ChiselUser) where
  tunnelDetailsMap := ((∅ : ExtTreeMap String TunnelDetails).insert "1"
    { status := .active, lastActivity := some 0, port := 50000, jobs := [{ id := 1 }] }).insert "2"
    { status := .active, lastActivity := some 0, port := 50001 }
  chiselServer := ∅

/-- Five minutes later. -/
def laterRounds : Rounds := ⟨fun _ => 300 * second, fun _ => 300 * second, fun _ => none⟩

theorem expiry_monitored : ∃ w', (checkTunnels laterRounds).run (.faultless monitored) = (.ok (), w') ∧
    Expires Overdue laterRounds monitored w'.store := by
  refine expiry (.faultless monitored) fun key t ht _ _ => ?_
  have hkey : key ∈ monitored.tunnelDetailsMap := by
    rw [ExtTreeMap.mem_iff_isSome_getElem?, show monitored.tunnelDetailsMap[key]? = some t from ht]
    rfl
  have hor : compare "2" key = .eq ∨ compare "1" key = .eq := by
    simpa [monitored] using hkey
  rcases hor with htwo | hone
  · exact ⟨2, by decide, (Std.compare_eq_iff_eq.mp htwo).symm⟩
  · exact ⟨1, by decide, (Std.compare_eq_iff_eq.mp hone).symm⟩

/-! ## The zero time -/

/-- `time.Since`: since the zero time it is as long as a duration can be. -/
def since (t : TunnelDetails) (now : Time) : Time :=
  match t.lastActivity with
  | some last => now - last
  | none => 2 ^ 63 - 1

/-- The tunnel has been inactive for its timeout, the zero time included. -/
def Inactive (t : TunnelDetails) (now : Time) : Prop :=
  t.status = .active ∧ activeTimeout ≤ since t now ∨ t.status = .required ∧ requiredTimeout ≤ since t now

/-- An active tunnel without a last activity. -/
def neverActive : Monitor (ExtTreeMap String ChiselUser) where
  tunnelDetailsMap := (∅ : ExtTreeMap String TunnelDetails).insert "1" { status := .active, port := 50000 }
  chiselServer := ∅

/-- An active tunnel with a job, under a key that is no number. -/
def misnamed : Monitor (ExtTreeMap String ChiselUser) where
  tunnelDetailsMap := (∅ : ExtTreeMap String TunnelDetails).insert "one"
    { status := .active, lastActivity := some 0, port := 50000, jobs := [{ id := 1 }] }
  chiselServer := ∅

/-- After the check the tunnels are as the timeouts demand. -/
def ChecksOut (m : Monitor S) (rounds : Rounds) : Prop :=
  ∀ w', (checkTunnels rounds).run (.faultless m) = (.ok (), w') → Expires Inactive rounds m w'.store

/-- **The check passes over a tunnel with the zero time**, and over one with
jobs whose key is no number. -/
theorem not_checksOut : ¬ ChecksOut neverActive laterRounds ∧ ¬ ChecksOut misnamed laterRounds := by
  constructor
  · intro hexpires
    have hkept : ((checkTunnels laterRounds).run (.faultless neverActive)).2.store.tunnelDetailsMap["1"]? =
        some { status := .active, port := 50000 } := by decide
    exact (hexpires _ rfl).none_left "1" _ hkept (.inl ⟨rfl, by decide⟩)
  · intro hexpires
    have hkept : ((checkTunnels laterRounds).run (.faultless misnamed)).2.store.tunnelDetailsMap["one"]? =
        some { status := .active, lastActivity := some 0, port := 50000, jobs := [{ id := 1 }] } := by
      decide
    exact (hexpires _ rfl).none_left "one" _ hkept (.inl ⟨rfl, by decide⟩)

/-! ## The service -/

/-- The clock of the rounds, by the identifiers of the endpoints. -/
def Rounds.clock (rounds : Rounds) : Service.Clock where
  check e := rounds.check (Path.itoa e)
  idle e := rounds.idle (Path.itoa e)

/-- A tunnel that is not idle has been active at some time. -/
def TunnelDetails.Recorded (t : TunnelDetails) : Prop := t.status ≠ .idle → t.lastActivity ≠ none

namespace Service

variable {s s' : Service S} {e : EndpointID}

/-- Every tunnel of the service has its last activity recorded. -/
def Recorded (s : Service S) : Prop := ∀ e t, s.tunnel? e = some t → t.Recorded

omit [ChiselServer S] in
theorem recorded_getTunnelDetails (h : s.Recorded) : (s.getTunnelDetails e).Recorded := by
  cases ht : s.tunnel? e with
  | none =>
    rw [getTunnelDetails_of_none ht]
    exact fun hstatus => absurd rfl hstatus
  | some t => exact getTunnelDetails_of_some ht ▸ h e t ht

omit [ChiselServer S] in
/-- One record is replaced. -/
theorem Recorded.replace {t' : TunnelDetails} (h : s.Recorded) (ht' : t'.Recorded)
    (hs : ∀ e', s'.tunnel? e' = if e = e' then some t' else s.tunnel? e') : s'.Recorded := by
  intro e' t ht
  rw [hs e'] at ht
  split at ht
  · exact Option.some.inj ht ▸ ht'
  · exact h e' t ht

omit [ChiselServer S] in
theorem Recorded.touch {t' : TunnelDetails} (h : s.Recorded) (ht' : t'.Recorded) :
    (s.touch e t').Recorded := by
  cases ht : s.tunnel? e with
  | none => rwa [touch_of_none ht]
  | some t =>
    rw [touch_of_some ht]
    exact h.replace ht' fun _ => tunnel?_set

theorem Recorded.required {c : RequiredCall} {r : Except String Unit} (h : s.Recorded)
    (hr : s.setTunnelStatusToRequired e c = some (r, s')) : s'.Recorded := by
  have htouch : ∀ port, (s.touch e (requiredTunnel (s.getTunnelDetails e) port c.now)).Recorded :=
    fun _ => h.touch fun _ => Option.some_ne_none c.now
  rcases setTunnelStatusToRequired_cases hr with ⟨-, -, rfl⟩ | ⟨-, -, rfl⟩ |
    ⟨endpoint, port, -, -, -, ⟨-, -, -, rfl⟩ | ⟨-, -, ⟨-, -, -, hmap⟩ | ⟨credentials, -, -, hs'⟩⟩⟩
  · exact h
  · exact h
  · exact htouch port
  · intro e' t ht
    refine htouch port e' t ?_
    rw [← ht, tunnel?, tunnel?, hmap]
  · exact h.replace (fun _ => Option.some_ne_none c.now) hs'

theorem Recorded.checkTunnels {clock : Clock} (h : s.Recorded) : (s.checkTunnels clock).Recorded := by
  intro e t ht
  rw [tunnel?_checkTunnels, Option.bind_eq_some_iff] at ht
  obtain ⟨before, hbefore, hafter⟩ := ht
  unfold afterCheck at hafter
  split at hafter
  · split at hafter
    · obtain rfl := Option.some.inj hafter
      exact fun hstatus => absurd rfl hstatus
    · nomatch hafter
  · exact Option.some.inj hafter ▸ h e before hbefore

/-- **One operation.** -/
theorem Recorded.step {op : Op} (h : s.Recorded) (hstep : (machine S).step s op = some s') :
    s'.Recorded := by
  cases op with
  | required e c =>
    obtain ⟨⟨r, s₁⟩, hr, rfl⟩ := Option.map_eq_some_iff.mp hstep
    exact h.required hr
  | active e now =>
    obtain rfl := Option.some.inj hstep
    exact h.replace (fun _ => Option.some_ne_none now) fun _ => tunnel?_active
  | idle e now =>
    obtain rfl := Option.some.inj hstep
    exact h.replace (fun hstatus => absurd rfl hstatus) fun _ => tunnel?_idle
  | addEdgeJob e job =>
    obtain rfl := Option.some.inj hstep
    have hjob : TunnelDetails.Recorded { s.getTunnelDetails e with
        jobs := upsert (s.getTunnelDetails e).jobs job } := recorded_getTunnelDetails (e := e) h
    exact h.replace hjob fun _ => tunnel?_addEdgeJob
  | removeEdgeJob id =>
    obtain rfl := Option.some.inj hstep
    intro e t ht
    rw [tunnel?_removeEdgeJob] at ht
    obtain ⟨before, hbefore, rfl⟩ := Option.map_eq_some_iff.mp ht
    exact h e before hbefore
  | checkTunnels clock =>
    obtain rfl := Option.some.inj hstep
    exact h.checkTunnels

theorem Recorded.run {ops : List Op} (h : s.Recorded) (hrun : (machine S).run s ops = some s') :
    s'.Recorded := by
  induction ops generalizing s with
  | nil => exact Option.some.inj hrun ▸ h
  | cons op ops ih =>
    obtain ⟨s₁, hstep, hrest⟩ := Machine.run_cons.mp hrun
    exact ih (h.step hstep) hrest

/-- **No run of the service makes a tunnel that the check passes over.** -/
theorem recorded_of_run {server : S} {ops : List Op}
    (hrun : (machine S).run ⟨∅, server⟩ ops = some s) : s.Recorded := by
  have hempty : (⟨∅, server⟩ : Service S).Recorded := by
    intro e t ht
    simp [tunnel?] at ht
  exact hempty.run hrun

end Service

/-- **After any run of the service the check refines the service's**, under
the texts of the identifiers, and leaves no tunnel inactive, not even since
the zero time. -/
theorem checkTunnels_of_run {server : S} {ops : List Op} {s : Service S} {w : Sys Callee (Monitor S)}
    (hs : (machine S).run ⟨∅, server⟩ ops = some s)
    (hkeys : ∀ key t, w.store.tunnelDetailsMap[key]? = some t → Canonical key)
    (hsame : ∀ e, w.store.tunnelDetailsMap[Path.itoa e]? = s.tunnel? e) :
    ∃ w', (checkTunnels rounds).run w = (.ok (), w') ∧
      (∀ e, w'.store.tunnelDetailsMap[Path.itoa e]? = (s.checkTunnels rounds.clock).tunnel? e) ∧
      ∀ key t, w'.store.tunnelDetailsMap[key]? = some t → ¬ Inactive t (rounds.check key) := by
  obtain ⟨w', hrun, hafter⟩ := checkTunnels_run (r := rounds) w fun key t ht _ _ => hkeys key t ht
  have hloop : ∀ e, w'.store.tunnelDetailsMap[Path.itoa e]? = (s.checkTunnels rounds.clock).tunnel? e := by
    intro e
    rw [hafter, hsame, Service.tunnel?_checkTunnels]
    rfl
  refine ⟨w', hrun, hloop, fun key t ht hinactive => ?_⟩
  have hbefore := ht
  rw [hafter key, Option.bind_eq_some_iff] at hbefore
  obtain ⟨before, hbefore, hexpiry⟩ := hbefore
  obtain ⟨e, -, rfl⟩ := hkeys key before hbefore
  have hbusy : t.status ≠ .idle := by
    rcases hinactive with ⟨hstatus, -⟩ | ⟨hstatus, -⟩ <;> rw [hstatus] <;> decide
  rw [hloop e] at ht
  obtain ⟨last, hlast⟩ := Option.ne_none_iff_exists'.mp ((Service.recorded_of_run hs).checkTunnels e t ht hbusy)
  have hdue : Overdue t (rounds.check (Path.itoa e)) := ⟨last, hlast, by simpa [Inactive, since, hlast] using hinactive⟩
  unfold atExpiry at hexpiry
  split at hexpiry
  · split at hexpiry
    · obtain rfl := Option.some.inj hexpiry
      exact hbusy rfl
    · cases hexpiry
  · rename_i hnot
    obtain rfl := Option.some.inj hexpiry
    exact hnot (expired_iff.mpr hdue)

/-- Environment 1 with a tunnel that was activated once. -/
def activatedOnce : Monitor (ExtTreeMap String ChiselUser) where
  tunnelDetailsMap := (∅ : ExtTreeMap String TunnelDetails).insert "1" { status := .active, lastActivity := some 0 }
  chiselServer := ∅

theorem checkTunnels_of_run_activatedOnce : ∃ w' : Sys Callee (Monitor (ExtTreeMap String ChiselUser)),
    (checkTunnels laterRounds).run (.faultless activatedOnce) = (Except.ok (), w') ∧
    ∀ key t, w'.store.tunnelDetailsMap[key]? = some t → ¬ Inactive t (laterRounds.check key) := by
  have hkeys : ∀ key t, activatedOnce.tunnelDetailsMap[key]? = some t → Canonical key := by
    intro key t ht
    by_cases hkey : "1" = key
    · exact ⟨1, by decide, hkey.symm⟩
    · simp [activatedOnce, hkey] at ht
  have hsame : ∀ e, activatedOnce.tunnelDetailsMap[Path.itoa e]? =
      (Service.setTunnelStatusToActive (⟨∅, ∅⟩ : Service (ExtTreeMap String ChiselUser)) 1 0).tunnel? e := by
    intro e
    have hkey : "1" = Path.itoa e ↔ 1 = e := ⟨fun h => Path.itoa_injective h, congrArg Path.itoa⟩
    rw [Service.tunnel?_active, if_congr hkey.symm rfl rfl]
    simp [activatedOnce, ExtTreeMap.getElem?_insert, Service.tunnel?, Service.activeTunnel, Service.getTunnelDetails]
  obtain ⟨w', hcheck, -, hinactive⟩ := @checkTunnels_of_run _ _ laterRounds ∅ [.active 1 0] _ (.faultless activatedOnce)
    rfl hkeys hsame
  exact ⟨w', hcheck, hinactive⟩

end Tunnel

end Portainer
