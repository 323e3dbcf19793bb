import Portainer.Common.Bucket
/-!
# Two buckets in step

Records of two buckets that belong together are often tied by a key that
both can be asked for, and by nothing else: the identifiers are drawn apart.
The buckets are *in step* if each has a key once at most and both have the
same keys. This is kept where a record of either is created, removed or
given another key together with its counterpart.
-/

namespace Portainer

namespace Bucket

variable {α β γ : Type} [Record α] [Record β] {f : α → Option γ} {g : β → Option γ}
variable {b : Bucket α} {c : Bucket β} {x x₀ : α} {y y₀ : β} {i j : Int} {k k₀ : γ}

/-- Two records with one key. -/
def SameKey (f : α → Option γ) (x y : α) : Prop := ∃ k, f x = some k ∧ f y = some k

/-- A record of the bucket has the key. -/
def HasKey (f : α → Option γ) (b : Bucket α) (k : γ) : Prop := ∃ i x, b.get? i = some x ∧ f x = some k

/-- **Each key is there once at most, and both buckets have the same keys.** -/
structure InStep (f : α → Option γ) (g : β → Option γ) (b : Bucket α) (c : Bucket β) : Prop where
  left : b.Unique (SameKey f)
  right : c.Unique (SameKey g)
  keys : ∀ k, b.HasKey f k ↔ c.HasKey g k

omit [Record α] in
theorem SameKey.symm {x y : α} (h : SameKey f x y) : SameKey f y x := by
  obtain ⟨k, hx, hy⟩ := h
  exact ⟨k, hy, hx⟩

theorem hasKey_of_get? (hx : b.get? i = some x) (hk : f x = some k) : b.HasKey f k := ⟨i, x, hx, hk⟩

/-! ## One bucket -/

/-- Only what is found matters. -/
theorem hasKey_congr {b' : Bucket α} (h : ∀ i, b'.get? i = b.get? i) : b'.HasKey f k ↔ b.HasKey f k := by
  unfold HasKey
  simp only [h]

/-- A record other than the one at `i` has the key. -/
def Elsewhere (f : α → Option γ) (b : Bucket α) (i : Int) (k : γ) : Prop :=
  ∃ j y, j ≠ i ∧ b.get? j = some y ∧ f y = some k

theorem hasKey_put : (b.put x).HasKey f k ↔ f x = some k ∨ b.Elsewhere f (key x) k := by
  constructor
  · rintro ⟨i, y, hy, hk⟩
    rw [get?_put] at hy
    split at hy
    · exact .inl (Option.some.inj hy ▸ hk)
    · rename_i hne
      exact .inr ⟨i, y, Ne.symm hne, hy, hk⟩
  · rintro (hk | ⟨i, y, hne, hy, hk⟩)
    · exact ⟨key x, x, get?_put_self, hk⟩
    · exact ⟨i, y, by rw [get?_put_of_ne (Ne.symm hne)]; exact hy, hk⟩

theorem hasKey_delete : (b.delete i).HasKey f k ↔ b.Elsewhere f i k := by
  constructor
  · rintro ⟨j, y, hy, hk⟩
    rw [get?_delete] at hy
    split at hy
    · cases hy
    · rename_i hne
      exact ⟨j, y, Ne.symm hne, hy, hk⟩
  · rintro ⟨j, y, hne, hy, hk⟩
    exact ⟨j, y, by rw [get?_delete_of_ne (Ne.symm hne)]; exact hy, hk⟩

/-- What is there has its own key, and what the others have. -/
theorem hasKey_iff_of_some (hsome : b.get? i = some x₀) : b.HasKey f k ↔ f x₀ = some k ∨ b.Elsewhere f i k := by
  constructor
  · rintro ⟨j, y, hy, hk⟩
    by_cases hj : j = i
    · rw [hj, hsome] at hy
      exact .inl (Option.some.inj hy ▸ hk)
    · exact .inr ⟨j, y, hj, hy, hk⟩
  · rintro (hk | ⟨j, y, -, hy, hk⟩)
    · exact ⟨i, x₀, hsome, hk⟩
    · exact ⟨j, y, hy, hk⟩

/-- Where the record itself has not the key, others have it or none. -/
theorem elsewhere_iff (h : ∀ x₀, b.get? i = some x₀ → f x₀ ≠ some k) : b.Elsewhere f i k ↔ b.HasKey f k := by
  cases hget : b.get? i with
  | none =>
    constructor
    · rintro ⟨j, y, -, hy, hk⟩
      exact ⟨j, y, hy, hk⟩
    · rintro ⟨j, y, hy, hk⟩
      refine ⟨j, y, ?_, hy, hk⟩
      rintro rfl
      exact Option.some_ne_none y (hy.symm.trans hget)
  | some x₀ => rw [hasKey_iff_of_some hget, or_iff_right (h x₀ hget)]

theorem elsewhere_of_some (hb : b.Unique (SameKey f)) (hsome : b.get? i = some x₀) (hk₀ : f x₀ = some k₀) :
    b.Elsewhere f i k ↔ k ≠ k₀ ∧ b.HasKey f k := by
  by_cases hne : k = k₀
  · subst hne
    refine iff_of_false ?_ fun h => h.1 rfl
    rintro ⟨j, y, hji, hy, hk⟩
    exact hji (hb _ _ _ _ hy hsome ⟨k, hk, hk₀⟩)
  · rw [and_iff_right hne]
    refine elsewhere_iff fun x hx hk => hne ?_
    obtain rfl := Option.some.inj (hsome.symm.trans hx)
    exact Option.some.inj (hk.symm.trans hk₀)

theorem elsewhere_of_none (hnone : b.get? i = none) : b.Elsewhere f i k ↔ b.HasKey f k :=
  elsewhere_iff fun x hx => absurd (hx.symm.trans hnone) (Option.some_ne_none x)

/-- A record is stored whose key nothing else has. -/
theorem unique_put_of_free (hb : b.Unique (SameKey f))
    (hfree : ∀ k, f x = some k → ∀ j y, b.get? j = some y → f y = some k → j = key x) :
    (b.put x).Unique (SameKey f) := by
  refine hb.put (fun _ _ => SameKey.symm) fun j y hy hsame => ?_
  obtain ⟨k, hx, hk⟩ := hsame
  exact hfree k hx j y hy hk

theorem unique_put_of_same (hb : b.Unique (SameKey f)) (hsome : b.get? (key x) = some x₀)
    (hsame : f x = f x₀) : (b.put x).Unique (SameKey f) :=
  unique_put_of_free hb fun k hx j y hy hk => hb j _ y x₀ hy hsome ⟨k, hk, hsame ▸ hx⟩

/-- A key that is not there is free, and so is the key of the record that is
replaced. -/
theorem free_of_not_hasKey (hb : b.Unique (SameKey f)) (hsome : b.get? (key x) = some x₀)
    (hk₀ : f x₀ = some k₀) (hnot : k ≠ k₀ → ¬ b.HasKey f k) {j : Int} {z : α} (hz : b.get? j = some z)
    (hk : f z = some k) : j = key x := by
  by_cases hne : k = k₀
  · exact hb j _ z x₀ hz hsome ⟨k, hk, hne ▸ hk₀⟩
  · exact absurd (hasKey_of_get? hz hk) (hnot hne)

/-! ## Two buckets -/

namespace InStep

/-- The counters do not matter. -/
theorem congr {b' : Bucket α} {c' : Bucket β} (h : InStep f g b c) (hb : ∀ i, b'.get? i = b.get? i)
    (hc : ∀ i, c'.get? i = c.get? i) : InStep f g b' c' where
  left := h.left.of_sub fun i x hx => (hb i).symm.trans hx
  right := h.right.of_sub fun i y hy => (hc i).symm.trans hy
  keys k := by rw [hasKey_congr hb, hasKey_congr hc, h.keys]

/-- A record is replaced by one with the same key, or by one without a key
as it was. -/
theorem put_same (h : InStep f g b c) (hsome : b.get? (key x) = some x₀) (hsame : f x = f x₀) :
    InStep f g (b.put x) c where
  left := unique_put_of_same h.left hsome hsame
  right := h.right
  keys k := by rw [hasKey_put, hsame, ← hasKey_iff_of_some hsome, h.keys]

/-- A record without a key is created. -/
theorem put_none (h : InStep f g b c) (hnone : b.get? (key x) = none) (hkey : f x = none) :
    InStep f g (b.put x) c where
  left := unique_put_of_free h.left fun k hx => by rw [hkey] at hx; cases hx
  right := h.right
  keys k := by
    rw [hasKey_put, elsewhere_of_none hnone, ← h.keys, hkey]
    exact or_iff_right (Option.some_ne_none k).symm

/-- **Two records with one new key are created.** -/
theorem create (h : InStep f g b c) (hb : b.get? (key x) = none) (hc : c.get? (key y) = none)
    (hx : f x = some k₀) (hy : g y = some k₀) (hnot : ¬ b.HasKey f k₀) :
    InStep f g (b.put x) (c.put y) where
  left := by
    refine unique_put_of_free h.left fun k hk j z hz hkz => ?_
    obtain rfl := Option.some.inj (hx.symm.trans hk)
    exact absurd (hasKey_of_get? hz hkz) hnot
  right := by
    refine unique_put_of_free h.right fun k hk j z hz hkz => ?_
    obtain rfl := Option.some.inj (hy.symm.trans hk)
    exact absurd ((h.keys _).mpr (hasKey_of_get? hz hkz)) hnot
  keys k := by rw [hasKey_put, hasKey_put, elsewhere_of_none hb, elsewhere_of_none hc, h.keys, hx, hy]

/-- **Two records with one key are removed.** -/
theorem remove (h : InStep f g b c) (hb : b.get? i = some x₀) (hc : c.get? j = some y₀) (hx : f x₀ = some k₀)
    (hy : g y₀ = some k₀) : InStep f g (b.delete i) (c.delete j) where
  left := h.left.delete
  right := h.right.delete
  keys k := by rw [hasKey_delete, hasKey_delete, elsewhere_of_some h.left hb hx, elsewhere_of_some h.right hc hy, h.keys]

/-- A record without a key is removed. -/
theorem remove_none (h : InStep f g b c) (hb : b.get? i = some x₀) (hkey : f x₀ = none) :
    InStep f g (b.delete i) c where
  left := h.left.delete
  right := h.right
  keys k := by
    rw [hasKey_delete, ← h.keys]
    refine elsewhere_iff fun x hx hk => Option.some_ne_none k (hk.symm.trans ?_)
    rw [← Option.some.inj (hb.symm.trans hx), hkey]

/-- **Two records with one key are given another** that nothing has. -/
theorem rekey (h : InStep f g b c) (hb : b.get? (key x) = some x₀) (hc : c.get? (key y) = some y₀)
    (hx₀ : f x₀ = some k₀) (hy₀ : g y₀ = some k₀) {k₁ : γ} (hx : f x = some k₁) (hy : g y = some k₁)
    (hnot : k₁ ≠ k₀ → ¬ b.HasKey f k₁) : InStep f g (b.put x) (c.put y) where
  left := by
    refine unique_put_of_free h.left fun k hk j z hz hkz => ?_
    obtain rfl := Option.some.inj (hx.symm.trans hk)
    exact free_of_not_hasKey h.left hb hx₀ hnot hz hkz
  right := by
    refine unique_put_of_free h.right fun k hk j z hz hkz => ?_
    obtain rfl := Option.some.inj (hy.symm.trans hk)
    exact free_of_not_hasKey h.right hc hy₀ (fun hne hc' => hnot hne ((h.keys k₁).mpr hc')) hz hkz
  keys k := by
    rw [hasKey_put, hasKey_put, elsewhere_of_some h.left hb hx₀, elsewhere_of_some h.right hc hy₀, h.keys, hx, hy]

end InStep

end Bucket

end Portainer
