import Portainer.AzureProxy.Authentication
/-!
# The Azure proxy — tokens that have expired

A token is renewed five minutes after it has expired, where it should be
five minutes before: the margin is taken from the clock and not added. A
request within these minutes goes out with the expired token, and so does
one at the very instant of expiry.

`forwarded_fresh` is what does hold: where no request comes within the five
minutes that follow an expiry, every token that is attached is good, however
the requests interleave.
-/

namespace Portainer

namespace AzureProxy

/-- Requests come in the order of time, and a token is issued for five
minutes at least. -/
def Timely (s : TokenState) : TokenOp → Prop
  | .retrieve _ now answer =>
    s.now ≤ now ∧ ∀ token, authenticate answer = .ok token → now + fiveMinutes ≤ token.expirationTime
  | .attach _ => True

/-- The request does not come in the five minutes from the expiry of the
token that is there. -/
def OutOfMargin (s : TokenState) : TokenOp → Prop
  | .retrieve _ now _ => ∀ token ∈ s.token,
      now < token.expirationTime ∨ token.expirationTime + fiveMinutes < now
  | .attach _ => True

/-- The token is good for every request that may still read it, and those
attached were good. -/
structure Fresh (s : TokenState) : Prop where
  pending : ∀ r time, s.pending r = some time → time ≤ s.now ∧
    ∃ token, s.token = some token ∧ time < token.expirationTime
  forwarded : ∀ f ∈ s.forwarded, f.time < f.token.expirationTime

variable {s s' : TokenState} {op : TokenOp}

theorem fresh_empty : Fresh {} where
  pending _ _ h := nomatch h
  forwarded _ hf := absurd hf List.not_mem_nil

/-- **What a request finds**: a token that is good for it, and which does
not expire before the one there was. -/
theorem retrieve_fresh {token token' : AzureAPIToken} {now : Int}
    {answer : Except String AzureAuthenticationResponse}
    (hissue : ∀ t, authenticate answer = .ok t → now + fiveMinutes ≤ t.expirationTime)
    (hmargin : now < token.expirationTime ∨ token.expirationTime + fiveMinutes < now)
    (h : retrieveAuthenticationToken (some token) now answer = .ok token') :
    now < token'.expirationTime ∧ token.expirationTime ≤ token'.expirationTime := by
  have hpos : 0 < fiveMinutes := by decide
  unfold retrieveAuthenticationToken at h
  by_cases hold : token.expirationTime < now - fiveMinutes
  · simp only [if_pos hold] at h
    have := hissue token' h
    omega
  · simp only [if_neg hold] at h
    obtain rfl := Except.ok.inj h
    omega

/-- The first token is good for the request that asks for it. -/
theorem retrieve_fresh_first {token : AzureAPIToken} {now : Int}
    {answer : Except String AzureAuthenticationResponse}
    (hissue : ∀ t, authenticate answer = .ok t → now + fiveMinutes ≤ t.expirationTime)
    (h : retrieveAuthenticationToken none now answer = .ok token) : now < token.expirationTime := by
  have hpos : 0 < fiveMinutes := by decide
  have := hissue token h
  omega

/-- **A step keeps the tokens fresh.** -/
theorem Fresh.step (h : Fresh s) (htimely : Timely s op) (hmargin : OutOfMargin s op)
    (hstep : tokenMachine.step s op = some s') : Fresh s' := by
  cases op with
  | retrieve request now answer =>
    obtain ⟨hclock, hissue⟩ := htimely
    simp only [tokenMachine] at hstep
    cases hretrieve : retrieveAuthenticationToken s.token now answer with
    | error err =>
      rw [hretrieve] at hstep
      obtain rfl := Option.some.inj hstep
      refine ⟨fun r time hr => ?_, h.forwarded⟩
      obtain ⟨hle, hgood⟩ := h.pending r time hr
      exact ⟨Int.le_trans hle hclock, hgood⟩
    | ok token =>
      rw [hretrieve] at hstep
      obtain rfl := Option.some.inj hstep
      refine ⟨fun r time hr => ?_, h.forwarded⟩
      by_cases hself : r = request
      · -- the request itself
        subst hself
        have htime : now = time := by simpa using hr
        subst htime
        refine ⟨Int.le_refl _, token, rfl, ?_⟩
        cases hs : s.token with
        | none =>
          rw [hs] at hretrieve
          exact retrieve_fresh_first hissue hretrieve
        | some old =>
          rw [hs] at hretrieve
          exact (retrieve_fresh hissue (hmargin old hs) hretrieve).1
      · -- a request that waits: its token is replaced by one that lasts longer
        have hr : s.pending r = some time := by simpa [hself] using hr
        obtain ⟨hle, old, hold, hgood⟩ := h.pending r time hr
        refine ⟨Int.le_trans hle hclock, token, rfl, ?_⟩
        rw [hold] at hretrieve
        have := (retrieve_fresh hissue (hmargin old hold) hretrieve).2
        omega
  | attach request =>
    simp only [tokenMachine] at hstep
    cases hpending : s.pending request with
    | none =>
      rw [hpending] at hstep
      nomatch hstep
    | some time =>
      obtain ⟨-, token, htoken, hgood⟩ := h.pending request time hpending
      rw [hpending, htoken] at hstep
      obtain rfl := Option.some.inj hstep
      refine ⟨fun r t hr => ?_, fun f hf => ?_⟩
      · by_cases hself : r = request
        · subst hself
          simp at hr
        · have hr : s.pending r = some t := by simpa [hself] using hr
          obtain ⟨hle, hrest⟩ := h.pending r t hr
          exact ⟨hle, htoken ▸ hrest⟩
      · obtain hf | hf := List.mem_append.mp hf
        · exact h.forwarded f hf
        · obtain rfl := List.mem_singleton.mp hf
          exact hgood

/-- **Every request goes out with a good token**, in every run in which
requests come in the order of time, the service issues tokens for five
minutes or more, and no request comes in the five minutes from an expiry. -/
theorem forwarded_fresh {ops : List TokenOp}
    (hops : tokenMachine.Along (fun s op => Timely s op ∧ OutOfMargin s op) {} ops)
    (hrun : tokenMachine.run {} ops = some s) : ∀ f ∈ s.forwarded, f.time < f.token.expirationTime := by
  have hfresh : Fresh s := Machine.run_invariant
    (fun _ _ _ h hop hstep => h.step hop.1 hop.2 hstep) fresh_empty hops hrun
  exact hfresh.forwarded

/-! ## A token of five minutes -/

/-- A token that expires at the given second. -/
def tokenUntil (expiresOn : String) : Except String AzureAuthenticationResponse :=
  .ok ⟨"token", expiresOn⟩

theorem authenticate_tokenUntil (n : Int) {now : Int} {expiresOn : String}
    (hn : Path.atoi expiresOn.toList = some n) (hlong : now + fiveMinutes ≤ n * second) :
    ∀ token, authenticate (tokenUntil expiresOn) = .ok token → now + fiveMinutes ≤ token.expirationTime := by
  intro token htoken
  simp only [tokenUntil, authenticate, hn] at htoken
  obtain rfl := Except.ok.inj htoken
  exact hlong

theorem forwarded_fresh_renewed : ∃ s,
    tokenMachine.run {} [.retrieve 1 0 (tokenUntil "300"), .attach 1,
      .retrieve 2 (700 * second) (tokenUntil "1000"), .attach 2] = some s ∧
    s.forwarded.length = 2 ∧ ∀ f ∈ s.forwarded, f.time < f.token.expirationTime := by
  have hops : tokenMachine.Along (fun s op => Timely s op ∧ OutOfMargin s op) {}
      [.retrieve 1 0 (tokenUntil "300"), .attach 1,
        .retrieve 2 (700 * second) (tokenUntil "1000"), .attach 2] := by
    refine ⟨⟨⟨by decide, authenticate_tokenUntil 300 (by decide) (by decide)⟩, nofun⟩, ?_⟩
    rintro s₁ ⟨⟩
    refine ⟨⟨trivial, trivial⟩, ?_⟩
    rintro s₂ ⟨⟩
    refine ⟨⟨⟨by decide, authenticate_tokenUntil 1000 (by decide) (by decide)⟩, ?_⟩, fun _ _ =>
      ⟨⟨trivial, trivial⟩, fun _ _ => trivial⟩⟩
    rintro token ⟨⟩
    exact .inr (by decide)
  exact ⟨_, rfl, rfl, forwarded_fresh hops rfl⟩

/-- **A request goes out with a token that expired before it came**: the
token is good for five minutes, and the second request comes after six. -/
theorem not_forwarded_fresh : ¬ ∀ (ops : List TokenOp) (s : TokenState),
    tokenMachine.Along Timely {} ops → tokenMachine.run {} ops = some s →
    ∀ f ∈ s.forwarded, f.time < f.token.expirationTime := by
  intro h
  have htimely : tokenMachine.Along Timely {} [.retrieve 1 0 (tokenUntil "300"), .attach 1,
      .retrieve 2 (360 * second) (.error "unreachable"), .attach 2] := by
    refine ⟨⟨by decide, authenticate_tokenUntil 300 (by decide) (by decide)⟩, ?_⟩
    rintro s₁ ⟨⟩
    refine ⟨trivial, ?_⟩
    rintro s₂ ⟨⟩
    refine ⟨⟨by decide, nofun⟩, fun _ _ => ⟨trivial, fun _ _ => trivial⟩⟩
  have hfresh := h _ _ htimely rfl ⟨2, 360 * second, ⟨"token", 300 * second⟩⟩ (by decide)
  exact absurd hfresh (by decide)

end AzureProxy

end Portainer
