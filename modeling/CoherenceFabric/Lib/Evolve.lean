import Mathlib.Data.List.Sort

/-!
How a finite map changes when its values only change by a relation.

`Evolves R N m m'` says that `m'` keeps every key of `m` and that each of its values is
derived: it was reached by `R` from the old value of its key, or from a value that `N` admits
at a new key. It is closed under the updates of a map.
-/

namespace FiniteMap

open Std Relation

export ExtTreeMap (getElem?_insert_self getElem?_insert getElem?_map mem_insert
  mem_iff_isSome_getElem? mem_toList_iff_getElem?_eq_some)

variable {κ α β : Type} [Ord κ] [TransOrd κ]

/-- Every entry satisfies `P`. -/
def All (P : κ → α → Prop) (m : ExtTreeMap κ α) : Prop :=
  ∀ (k : κ) (a : α), m[k]? = some a → P k a

section All

variable {P Q : κ → α → Prop} {m : ExtTreeMap κ α}

@[simp] lemma all_empty : All P (∅ : ExtTreeMap κ α) := by
  intro k a h
  simp at h

lemma All.mono (h : All P m) (hPQ : ∀ k a, P k a → Q k a) : All Q m :=
  fun k a hk => hPQ k a (h k a hk)

lemma All.erase (h : All P m) (k : κ) : All P (m.erase k) := by
  intro k' b hb
  simp only [ExtTreeMap.getElem?_erase] at hb
  split at hb
  · cases hb
  · exact h k' b hb

variable [LawfulEqOrd κ]

lemma All.insert (h : All P m) {k a} (ha : P k a) : All P (m.insert k a) := by
  intro k' b hb
  by_cases hk : k = k'
  · subst hk
    simp only [getElem?_insert_self, Option.some.injEq] at hb
    exact hb ▸ ha
  · simp only [getElem?_insert, LawfulEqOrd.compare_eq_iff_eq, hk, if_false] at hb
    exact h k' b hb

lemma All.filter (h : All P m) (p : κ → α → Bool) : All P (m.filter p) := by
  intro k b hb
  simp only [ExtTreeMap.getElem?_filter', Option.filter_eq_some_iff] at hb
  exact h k b hb.1

lemma All.map {Q} (h : All P m) {f : κ → α → β}
    (hf : ∀ k a, P k a → Q k (f k a)) : All Q (m.map f) := by
  intro k b hb
  simp only [getElem?_map, Option.map_eq_some_iff] at hb
  obtain ⟨a, ha, rfl⟩ := hb
  exact hf k a (h k a ha)

lemma All.of_mem_toList (h : All P m) {e} (he : e ∈ m.toList) : P e.1 e.2 :=
  h e.1 e.2 (mem_toList_iff_getElem?_eq_some.mp he)

instance All.decidable [∀ k a, Decidable (P k a)] : Decidable (All P m) :=
  decidable_of_iff (∀ e ∈ m.toList, P e.1 e.2)
    ⟨fun h k a hk => h (k, a) (mem_toList_iff_getElem?_eq_some.mpr hk),
      fun h _ he => h.of_mem_toList he⟩

end All

/-! ### Updates of single entries -/

section Update

lemma erase_found {m : ExtTreeMap κ α} {k k' : κ} {a} (h : (m.erase k)[k']? = some a) :
    m[k']? = some a := by
  rw [ExtTreeMap.getElem?_erase] at h
  split at h
  · cases h
  · exact h

variable [LawfulEqOrd κ]

lemma getElem?_insert_ne {m : ExtTreeMap κ α} {k k' a} (h : k ≠ k') :
    (m.insert k a)[k']? = m[k']? := by
  simp [getElem?_insert, h]

lemma getElem?_erase_ne {m : ExtTreeMap κ α} {k k'} (h : k ≠ k') : (m.erase k)[k']? = m[k']? := by
  rw [ExtTreeMap.getElem?_erase, if_neg fun heq => h (LawfulEqOrd.eq_of_compare heq)]

/-- Where an entry comes from after an insertion. -/
lemma insert_cases {m : ExtTreeMap κ α} {k k' a b}
    (h : (m.insert k a)[k']? = some b) : k' = k ∧ b = a ∨ k' ≠ k ∧ m[k']? = some b := by
  by_cases hk : k = k'
  · subst hk
    exact .inl ⟨rfl, (Option.some.inj (getElem?_insert_self.symm.trans h)).symm⟩
  · exact .inr ⟨fun heq => hk heq.symm, getElem?_insert_ne hk ▸ h⟩

lemma insertIfNew_eq_insert {m : ExtTreeMap κ α} {k} (h : m[k]? = none) (a : α) :
    m.insertIfNew k a = m.insert k a := by
  have habsent : k ∉ m := fun hmem => by
    have hsome := mem_iff_isSome_getElem?.mp hmem
    rw [h] at hsome
    cases hsome
  refine ExtTreeMap.ext_getElem? fun k' => ?_
  rw [ExtTreeMap.getElem?_insertIfNew, getElem?_insert]
  by_cases hk : compare k k' = .eq
  · rw [if_pos ⟨hk, habsent⟩, if_pos hk]
  · rw [if_neg fun h => hk h.1, if_neg hk]

lemma insert_insert (m : ExtTreeMap κ α) (k : κ) (a b : α) :
    (m.insert k a).insert k b = m.insert k b := by
  refine ExtTreeMap.ext_getElem? fun k' => ?_
  by_cases hk : k = k' <;> simp [getElem?_insert, hk]

lemma insert_eq_modify {m : ExtTreeMap κ α} {k a} (f : α → α) (h : m[k]? = some a) :
    m.insert k (f a) = m.modify k f := by
  refine ExtTreeMap.ext_getElem? fun k' => ?_
  by_cases hk : k = k'
  · subst hk
    simp [h]
  · simp [getElem?_insert, ExtTreeMap.getElem?_modify, hk]

/-- A replaced entry is not seen through `f` exactly if `f` takes both entries to one value. -/
lemma map_insert_eq_iff {m : ExtTreeMap κ α} {f : κ → α → β} {k a b}
    (h : m[k]? = some a) : (m.insert k b).map f = m.map f ↔ f k b = f k a := by
  constructor
  · intro heq
    have hk := congrArg (fun m : ExtTreeMap κ β => m[k]?) heq
    simpa [h] using hk
  intro heq
  refine ExtTreeMap.ext_getElem? fun k' => ?_
  by_cases hk : k = k'
  · subst hk
    simp [h, heq]
  · simp [getElem?_insert_ne hk]

lemma modify_eq_self {m : ExtTreeMap κ α} {k f}
    (h : ∀ a, m[k]? = some a → f a = a) : m.modify k f = m := by
  refine ExtTreeMap.ext_getElem? fun k' => ?_
  rw [ExtTreeMap.getElem?_modify]
  split
  · rename_i hk
    cases LawfulEqOrd.eq_of_compare hk
    cases hm : m[k]? with
    | none => rfl
    | some a => exact congrArg some (h a hm)
  · rfl

/-- A loop over keys that updates the entry of each of them: if the second update of an
entry changes nothing, the order and the repetitions do not matter. -/
lemma foldl_modify [DecidableEq κ] {f : κ → α → α} (hf : ∀ k a, f k (f k a) = f k a)
    (ks : List κ) : ∀ m : ExtTreeMap κ α, ks.foldl (fun m k => m.modify k (f k)) m =
      m.map fun k a => if k ∈ ks then f k a else a := by
  induction ks with
  | nil => intro m; exact ExtTreeMap.ext_getElem? fun k => by simp
  | cons k ks ih =>
    intro m
    refine (ih _).trans (ExtTreeMap.ext_getElem? fun k' => ?_)
    by_cases hk : k = k'
    · subst hk
      simp only [getElem?_map, ExtTreeMap.getElem?_modify_self, Option.map_map,
        List.mem_cons, true_or, if_true]
      refine congrArg (Option.map · m[k]?) (funext fun a => ?_)
      by_cases hmem : k ∈ ks <;> simp [hmem, hf]
    · simp [ExtTreeMap.getElem?_modify, hk, Ne.symm hk]

end Update

/-- The value `b` at key `k` comes from the map `m`. -/
inductive Derives (R : κ → α → α → Prop) (N : κ → α → Prop) (m : ExtTreeMap κ α) (k : κ)
    (b : α) : Prop where
  | old {a : α} (found : m[k]? = some a) (steps : ReflTransGen (R k) a b)
  | new {a : α} (absent : m[k]? = none) (admitted : N k a) (steps : ReflTransGen (R k) a b)

/-- The map `m'` keeps the keys of `m` and its values are derived from `m`. -/
structure Evolves (R : κ → α → α → Prop) (N : κ → α → Prop) (m m' : ExtTreeMap κ α) :
    Prop where
  kept : ∀ k : κ, k ∈ m → k ∈ m'
  origin : All (Derives R N m) m'

variable {R : κ → α → α → Prop} {N : κ → α → Prop} {m m' : ExtTreeMap κ α}

lemma Derives.of_new {k b} (h : N k b) (hreplace : ∀ a, R k a b) : Derives R N m k b := by
  cases hold : m[k]? with
  | none => exact .new hold h .refl
  | some old => exact .old hold (.single (hreplace old))

lemma Derives.trans {k a b} (h : Derives R N m k a) (hab : ReflTransGen (R k) a b) :
    Derives R N m k b := by
  cases h with
  | old found steps => exact .old found (steps.trans hab)
  | new absent admitted steps => exact .new absent admitted (steps.trans hab)

lemma Derives.tail {k a b} (h : Derives R N m k a) (hab : R k a b) : Derives R N m k b :=
  h.trans (.single hab)

/-- A property that the steps keep holds of a derived value. -/
lemma Derives.induction {P : α → Prop} {k b} (h : Derives R N m k b)
    (hold : ∀ a, m[k]? = some a → P a) (hnew : ∀ a, N k a → P a)
    (hstep : ∀ a b, P a → R k a b → P b) : P b := by
  have key : ∀ a c, P a → ReflTransGen (R k) a c → P c := by
    intro a c ha hac
    induction hac with
    | refl => exact ha
    | tail _ hbc ih => exact hstep _ _ ih hbc
  cases h with
  | old found steps => exact key _ _ (hold _ found) steps
  | new _ admitted steps => exact key _ _ (hnew _ admitted) steps

lemma Derives.sat {P : κ → α → Prop} {k b} (h : Derives R N m k b) (hm : All P m)
    (hR : ∀ k a b, P k a → R k a b → P k b) (hN : ∀ k a, N k a → P k a) : P k b :=
  h.induction (fun _ found => hm _ _ found) (fun _ hnew => hN _ _ hnew) fun _ _ => hR k _ _

namespace Evolves

lemma refl (m : ExtTreeMap κ α) : Evolves R N m m where
  kept _ h := h
  origin _ _ h := .old h .refl

/-- An old value only changes by the relation. -/
lemma forward (h : Evolves R N m m') {k a} (ha : m[k]? = some a) :
    ∃ b, m'[k]? = some b ∧ ReflTransGen (R k) a b := by
  have hk := h.kept k (mem_iff_isSome_getElem?.mpr (by simp [ha]))
  obtain ⟨b, hb⟩ := Option.isSome_iff_exists.mp (mem_iff_isSome_getElem?.mp hk)
  cases h.origin k b hb with
  | old found steps =>
    cases ha.symm.trans found
    exact ⟨b, hb, steps⟩
  | new absent => cases ha.symm.trans absent

variable [LawfulEqOrd κ]

lemma put (h : Evolves R N m m') {k b} (hb : Derives R N m k b) :
    Evolves R N m (m'.insert k b) where
  kept k' hk' := by simp [h.kept k' hk']
  origin := h.origin.insert hb

lemma set (h : Evolves R N m m') {k a b} (ha : m'[k]? = some a) (hab : R k a b) :
    Evolves R N m (m'.insert k b) :=
  h.put ((h.origin k a ha).tail hab)

lemma add (h : Evolves R N m m') {k b} (hb : m[k]? = none → N k b) :
    Evolves R N m (m'.insertIfNew k b) where
  kept k' hk' := by simp [h.kept k' hk']
  origin k' c hc := by
    rw [ExtTreeMap.getElem?_insertIfNew] at hc
    split at hc
    · rename_i hk
      obtain ⟨hkk, hk⟩ := hk
      cases LawfulEqOrd.eq_of_compare hkk
      cases hc
      have hm := ExtTreeMap.getElem?_eq_none fun hmem => hk (h.kept k hmem)
      exact .new hm (hb hm) .refl
    · exact h.origin k' c hc

lemma map (h : Evolves R N m m') {f}
    (hf : ∀ k a, m'[k]? = some a → ReflTransGen (R k) a (f k a)) : Evolves R N m (m'.map f) where
  kept k hk := by simp [h.kept k hk]
  origin k c hc := by
    simp only [getElem?_map, Option.map_eq_some_iff] at hc
    obtain ⟨a, ha, rfl⟩ := hc
    exact (h.origin k a ha).trans (hf k a ha)

end Evolves

/-! ### One change of every entry -/

/-- Every entry of `m` has changed by `R`, and every other entry of `m'` is one that `N`
admits. -/
structure Changes (R : κ → α → α → Prop) (N : κ → α → Prop) (m m' : ExtTreeMap κ α) :
    Prop where
  forward : ∀ {k : κ} {a : α}, m[k]? = some a → ∃ b, m'[k]? = some b ∧ R k a b
  origin : ∀ {k : κ} {b : α}, m'[k]? = some b →
    (∃ a, m[k]? = some a ∧ R k a b) ∨ m[k]? = none ∧ N k b

namespace Changes

lemma refl (hR : ∀ k a, R k a a) (m : ExtTreeMap κ α) : Changes R N m m where
  forward h := ⟨_, h, hR _ _⟩
  origin h := .inl ⟨_, h, hR _ _⟩

variable [LawfulEqOrd κ]

lemma insert (hR : ∀ k a, R k a a) {k a b} (ha : m[k]? = some a) (hab : R k a b) :
    Changes R N m (m.insert k b) where
  forward {k' a'} h := by
    by_cases hk : k = k'
    · subst hk
      cases ha.symm.trans h
      exact ⟨b, getElem?_insert_self, hab⟩
    · exact ⟨a', by simp [getElem?_insert, hk, h], hR _ _⟩
  origin {k' b'} h := by
    by_cases hk : k = k'
    · subst hk
      cases getElem?_insert_self.symm.trans h
      exact .inl ⟨a, ha, hab⟩
    · simp only [getElem?_insert, LawfulEqOrd.compare_eq_iff_eq, hk, if_false] at h
      exact .inl ⟨b', h, hR _ _⟩

lemma put (hR : ∀ k a, R k a a) {k b} (hold : ∀ a, m[k]? = some a → R k a b)
    (hnew : m[k]? = none → N k b) : Changes R N m (m.insert k b) := by
  cases hk : m[k]? with
  | some a => exact .insert hR hk (hold a hk)
  | none =>
    refine ⟨fun {k' a'} h => ?_, fun {k' b'} h => ?_⟩
    · have hne : k ≠ k' := by
        rintro rfl
        cases hk.symm.trans h
      exact ⟨a', by simp [getElem?_insert, hne, h], hR _ _⟩
    by_cases hne : k = k'
    · subst hne
      cases getElem?_insert_self.symm.trans h
      exact .inr ⟨hk, hnew hk⟩
    · simp only [getElem?_insert, LawfulEqOrd.compare_eq_iff_eq, hne,
        if_false] at h
      exact .inl ⟨b', h, hR _ _⟩

lemma insertIfNew (hR : ∀ k a, R k a a) {k : κ} {b} (hnew : m[k]? = none → N k b) :
    Changes R N m (m.insertIfNew k b) := by
  cases hk : m[k]? with
  | some a =>
    have hsame : m.insertIfNew k b = m := by
      refine ExtTreeMap.ext_getElem? fun k' => ?_
      rw [ExtTreeMap.getElem?_insertIfNew, if_neg]
      rintro ⟨-, habsent⟩
      exact habsent (mem_iff_isSome_getElem?.mpr (by simp [hk]))
    rw [hsame]
    exact .refl hR m
  | none =>
    rw [insertIfNew_eq_insert hk]
    exact .put hR (fun a ha => by cases hk.symm.trans ha) hnew

lemma map {f} (hf : ∀ k a, m[k]? = some a → R k a (f k a)) : Changes R N m (m.map f) where
  forward {k a} h := ⟨f k a, by simp [h], hf k a h⟩
  origin {k b} h := by
    simp only [getElem?_map, Option.map_eq_some_iff] at h
    obtain ⟨a, ha, rfl⟩ := h
    exact .inl ⟨a, ha, hf k a ha⟩

end Changes

end FiniteMap
