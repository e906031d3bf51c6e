import CoherenceFabric.Lib.Evolve

/-!
Finite maps built from a list of records that carry their own keys.
-/

namespace FiniteMap

open Std

variable {κ α : Type} [Ord κ] [TransOrd κ]

/-- A map built from records under their keys; of two records with one key the first stays. -/
def index (key : α → κ) (records : List α) (m : ExtTreeMap κ α) : ExtTreeMap κ α :=
  records.foldl (fun m record => m.insertIfNew (key record) record) m

variable {key : α → κ}

lemma size_index_le {records} : ∀ {m : ExtTreeMap κ α},
    (index key records m).size ≤ m.size + records.length := by
  induction records with
  | nil => exact Nat.le_refl _
  | cons record rest ih =>
    intro m
    refine Nat.le_trans ih ?_
    have := ExtTreeMap.size_insertIfNew_le (t := m) (k := key record) (v := record)
    simp only [List.length_cons]
    omega

variable [LawfulEqOrd κ]

lemma index_origin {records} : ∀ {m : ExtTreeMap κ α} {k : κ} {a : α},
    (index key records m)[k]? = some a → m[k]? = some a ∨ a ∈ records ∧ key a = k := by
  induction records with
  | nil => exact fun h => .inl h
  | cons record rest ih =>
    intro m k a h
    rcases ih h with hm | ⟨hmem, hkey⟩
    · rw [ExtTreeMap.getElem?_insertIfNew] at hm
      split at hm
      · rename_i hnew
        cases hm
        exact .inr ⟨List.mem_cons_self, LawfulEqOrd.eq_of_compare hnew.1⟩
      · exact .inl hm
    · exact .inr ⟨List.mem_cons_of_mem _ hmem, hkey⟩

lemma index_keeps {records} : ∀ {m : ExtTreeMap κ α} {k : κ} {a : α},
    m[k]? = some a → (index key records m)[k]? = some a := by
  induction records with
  | nil => exact fun h => h
  | cons record rest ih =>
    intro m k a h
    refine ih ?_
    rw [ExtTreeMap.getElem?_insertIfNew, if_neg]
    · exact h
    · rintro ⟨hk, habsent⟩
      cases LawfulEqOrd.eq_of_compare hk
      exact habsent (mem_iff_isSome_getElem?.mpr (h ▸ rfl))

lemma index_found {records a} : ∀ {m : ExtTreeMap κ α}, a ∈ records →
    (∀ b ∈ records, key b = key a → b = a) → m[key a]? = none →
    (index key records m)[key a]? = some a := by
  induction records with
  | nil => exact fun h => absurd h List.not_mem_nil
  | cons record rest ih =>
    intro m hmem hunique habsent
    by_cases hkey : key record = key a
    · obtain rfl := hunique record List.mem_cons_self hkey
      change (index key rest (m.insertIfNew (key record) record))[key record]? = _
      rw [insertIfNew_eq_insert habsent]
      exact index_keeps getElem?_insert_self
    · refine ih ?_ (fun b hb => hunique b (List.mem_cons_of_mem _ hb)) ?_
      · exact (List.mem_cons.mp hmem).resolve_left fun h => hkey (h ▸ rfl)
      · rw [ExtTreeMap.getElem?_insertIfNew, if_neg fun h => hkey (LawfulEqOrd.eq_of_compare h.1)]
        exact habsent

/-- A map of records under their own keys is built from its records. -/
lemma index_toList {m} (h : All (fun k a => key a = k) m) :
    index key (m.toList.map Prod.snd) ∅ = m := by
  refine ExtTreeMap.ext_getElem? fun k => Option.ext fun a => ?_
  have hfound : ∀ b ∈ m.toList.map Prod.snd, m[key b]? = some b := by
    intro b hb
    obtain ⟨entry, hentry, rfl⟩ := List.mem_map.mp hb
    have hget := mem_toList_iff_getElem?_eq_some.mp hentry
    rw [h _ _ hget]
    exact hget
  constructor
  · intro hindex
    rcases index_origin hindex with hempty | ⟨hmem, rfl⟩
    · simp at hempty
    · exact hfound a hmem
  intro hget
  cases h k a hget
  refine index_found ?_ (fun b hb hkey => ?_) (by simp)
  · exact List.mem_map.mpr ⟨(key a, a), mem_toList_iff_getElem?_eq_some.mpr hget, rfl⟩
  · have hb := hfound b hb
    rw [hkey, hget] at hb
    exact (Option.some.inj hb).symm

end FiniteMap
