import Mathlib.Data.List.DropRight

/-!
A sliding window over a sequence.

The window holds the last entries of the sequence, at most a fixed number of them. A sequence whose
entries are never among those in the window when they arrive has no repetition within any stretch of
the window's size and one more.
-/

namespace Window

variable {α : Type} {w : Nat}

/-- No entry is equal to one of the `w` entries before it. -/
def Spaced (w : Nat) (l : List α) : Prop :=
  ∀ front x back, l = front ++ x :: back → x ∉ front.rtake w

lemma spaced_nil (w : Nat) : Spaced w ([] : List α) := by
  intro front x back h
  cases front <;> cases h

lemma rtake_rtake_concat (w : Nat) (l : List α) (x : α) :
    (l.rtake w ++ [x]).rtake w = (l ++ [x]).rtake w := by
  cases w with
  | zero => simp
  | succ w =>
    rw [List.rtake_concat_succ, List.rtake_concat_succ, List.rtake, List.rtake, List.rtake,
      List.drop_drop, List.length_drop]
    congr 2
    omega

lemma suffix_rtake {front back : List α} (h : back.length ≤ w) :
    back <:+ (front ++ back).rtake w := by
  rw [List.rtake, List.length_append, List.drop_append_of_le_length (by omega)]
  exact List.suffix_append ..

lemma Spaced.concat {l} {x : α} (h : Spaced w l) (hx : x ∉ l.rtake w) : Spaced w (l ++ [x]) := by
  intro front y back heq
  -- the entry is the new one, or one of the sequence before
  rcases List.eq_nil_or_concat back with rfl | ⟨back, z, rfl⟩
  · obtain ⟨rfl, hy⟩ := List.append_inj' heq rfl
    cases hy
    exact hx
  · rw [List.concat_eq_append, ← List.cons_append, ← List.append_assoc] at heq
    exact h front y back (List.append_inj' heq rfl).1

/-- A stretch of the window's size and one more has no repetition. -/
lemma Spaced.nodup {l chunk : List α} (h : Spaced w l) (hchunk : chunk <:+: l)
    (hlength : chunk.length ≤ w + 1) : chunk.Nodup := by
  obtain ⟨before, behind, rfl⟩ := hchunk
  induction chunk using List.reverseRecOn generalizing behind with
  | nil => exact .nil
  | append_singleton chunk x ih =>
    rw [List.length_append, List.length_singleton] at hlength
    have hrest := ih (by omega) (x :: behind) (by simpa using h)
    have hx : x ∉ (before ++ chunk).rtake w := h _ x behind (by simp)
    refine List.nodup_append.mpr ⟨hrest, List.pairwise_singleton _ x, ?_⟩
    rintro y hy z hz rfl
    cases List.mem_singleton.mp hz
    exact hx ((suffix_rtake (by omega)).subset hy)

lemma Spaced.nodup_rtake {l : List α} (h : Spaced w l) : (l.rtake (w + 1)).Nodup := by
  refine h.nodup (List.drop_suffix ..).isInfix ?_
  rw [List.rtake, List.length_drop]
  omega

end Window
