import Mathlib.Data.List.Induction

/-!
Runs of a transition function whose steps all meet a condition.

An invariant that one step keeps holds at the end of every run, and a property of steps
that the invariant gives holds of every step of the run. What the steps yield is collected in
order.
-/

namespace Transition

variable {S A : Type*}

/-- Every step of the run from `s` meets `ok`. -/
def RunOk (step : S → A → S) (ok : S → A → Prop) : S → List A → Prop
  | _, [] => True
  | s, a :: as => ok s a ∧ RunOk step ok (step s a) as

variable {step : S → A → S} {ok ok' : S → A → Prop} {I : S → Prop} {as : List A}

@[simp] lemma runOk_nil (s : S) : RunOk step ok s [] := trivial

@[simp] lemma runOk_cons (s : S) (a : A) (as : List A) :
    RunOk step ok s (a :: as) ↔ ok s a ∧ RunOk step ok (step s a) as := Iff.rfl

instance RunOk.decidable [h : ∀ s a, Decidable (ok s a)] :
    ∀ (s : S) (as : List A), Decidable (RunOk step ok s as)
  | _, [] => .isTrue trivial
  | s, a :: as => @instDecidableAnd _ _ (h s a) (RunOk.decidable (step s a) as)

lemma runOk_append {bs} : ∀ {s : S},
    RunOk step ok s (as ++ bs) ↔ RunOk step ok s as ∧ RunOk step ok (as.foldl step s) bs := by
  induction as with
  | nil => simp
  | cons a as ih => intro s; simp [ih, and_assoc]

lemma runOk_true : ∀ {s : S}, RunOk step (fun _ _ => True) s as := by
  induction as with
  | nil => exact trivial
  | cons a as ih => exact ⟨trivial, ih⟩

lemma runOk_of_forall : ∀ {s : S}, (∀ s, ∀ a ∈ as, ok s a) → RunOk step ok s as := by
  induction as with
  | nil => exact fun _ => trivial
  | cons a as ih =>
    exact fun h => ⟨h _ a List.mem_cons_self, ih fun s b hb => h s b (List.mem_cons_of_mem a hb)⟩

lemma RunOk.and_mem {q : A → Prop} : ∀ {s : S}, RunOk step ok s as →
    (∀ a ∈ as, q a) → RunOk step (fun s a => ok s a ∧ q a) s as := by
  induction as with
  | nil => exact fun _ _ => trivial
  | cons a as ih =>
    exact fun h hq => ⟨⟨h.1, hq a List.mem_cons_self⟩,
      ih h.2 fun b hb => hq b (List.mem_cons_of_mem a hb)⟩

lemma RunOk.and : ∀ {s : S}, RunOk step ok s as → RunOk step ok' s as →
    RunOk step (fun s a => ok s a ∧ ok' s a) s as := by
  induction as with
  | nil => exact fun _ _ => trivial
  | cons a as ih => exact fun h h' => ⟨⟨h.1, h'.1⟩, ih h.2 h'.2⟩

/-- What one step keeps, a run keeps. -/
theorem run_invariant (hstep : ∀ s a, ok s a → I s → I (step s a)) :
    ∀ {s : S}, I s → RunOk step ok s as → I (as.foldl step s) := by
  induction as with
  | nil => exact fun h _ => h
  | cons a as ih => exact fun h hok => ih (hstep _ a hok.1 h) hok.2

theorem foldl_invariant (hstep : ∀ s a, I s → I (step s a)) {s} (h : I s) : I (as.foldl step s) :=
  run_invariant (fun s a _ => hstep s a) h runOk_true

theorem runOk_of_invariant (hstep : ∀ s a, ok s a → I s → I (step s a))
    (hok : ∀ s a, ok s a → I s → ok' s a) :
    ∀ {s : S}, I s → RunOk step ok s as → RunOk step ok' s as := by
  induction as with
  | nil => exact fun _ _ => trivial
  | cons a as ih => exact fun h hrun => ⟨hok _ a hrun.1 h, ih (hstep _ a hrun.1 h) hrun.2⟩

/-! ### Histories -/

section History

variable {H : Type*} {note : S → A → H → H} {ok₂ : S × H → A → Prop} {J : S × H → Prop}

/-- A step together with what a history notes of it. -/
def noting (step : S → A → S) (note : S → A → H → H) (p : S × H) (a : A) : S × H :=
  (step p.1 a, note p.1 a p.2)

lemma runOk_noting : ∀ {p : S × H},
    RunOk (noting step note) (fun p a => ok p.1 a) p as ↔ RunOk step ok p.1 as := by
  induction as with
  | nil => exact Iff.rfl
  | cons a as ih => exact fun {p} => and_congr_right fun _ => ih

theorem history_invariant (hstep : ∀ p a, ok p.1 a → J p → J (noting step note p a)) {p}
    (h : J p) (hrun : RunOk step ok p.1 as) : J (as.foldl (noting step note) p) :=
  run_invariant hstep h (runOk_noting.mpr hrun)

theorem runOk_of_history (hstep : ∀ p a, ok p.1 a → J p → J (noting step note p a))
    (hok : ∀ p a, ok p.1 a → J p → ok₂ p a) {p} (h : J p) (hrun : RunOk step ok p.1 as) :
    RunOk (noting step note) ok₂ p as :=
  runOk_of_invariant hstep hok h (runOk_noting.mpr hrun)

end History

/-! ### What the steps yield -/

section Yields

variable {B C : Type*} {f f' : S → A → List B} {bs : List A} {b : B}

/-- What the steps of a run yield, in order. -/
def yields (step : S → A → S) (f : S → A → List B) : S → List A → List B
  | _, [] => []
  | s, a :: as => f s a ++ yields step f (step s a) as

lemma yields_cons (s : S) (a : A) (as : List A) :
    yields step f s (a :: as) = f s a ++ yields step f (step s a) as := rfl

lemma yields_append : ∀ {s : S},
    yields step f s (as ++ bs) = yields step f s as ++ yields step f (as.foldl step s) bs := by
  induction as with
  | nil => exact fun {_} => rfl
  | cons a as ih =>
    intro s
    rw [List.cons_append, yields_cons, ih, yields_cons, List.append_assoc, List.foldl_cons]

lemma map_yields (g : B → C) : ∀ {s : S},
    (yields step f s as).map g = yields step (fun s a => (f s a).map g) s as := by
  induction as with
  | nil => exact fun {_} => rfl
  | cons a as ih => intro s; rw [yields_cons, List.map_append, ih, yields_cons]

lemma yields_eq_nil (h : ∀ s, ∀ a ∈ as, f s a = []) : ∀ {s : S}, yields step f s as = [] := by
  induction as with
  | nil => exact fun {_} => rfl
  | cons a as ih =>
    intro s
    rw [yields_cons, h s a List.mem_cons_self, List.nil_append,
      ih fun s b hb => h s b (List.mem_cons_of_mem a hb)]

lemma yields_congr : ∀ {s : S}, RunOk step (fun s a => f s a = f' s a) s as →
    yields step f s as = yields step f' s as := by
  induction as with
  | nil => exact fun _ => rfl
  | cons a as ih => intro s h; rw [yields_cons, yields_cons, h.1, ih h.2]

/-- What an invariant says of the yield of one step holds of the yield of a run. -/
theorem forall_mem_yields {P : B → Prop} (hstep : ∀ s a, ok s a → I s → I (step s a))
    (hyield : ∀ s a, ok s a → I s → ∀ b ∈ f s a, P b) :
    ∀ {s : S}, I s → RunOk step ok s as → ∀ b ∈ yields step f s as, P b := by
  induction as with
  | nil => exact fun _ _ _ h => absurd h List.not_mem_nil
  | cons a as ih =>
    intro s h hrun b hmem
    rcases List.mem_append.mp hmem with hnow | hlater
    · exact hyield s a hrun.1 h b hnow
    · exact ih (hstep s a hrun.1 h) hrun.2 b hlater

/-- The step that yields a value, where every step yields at most one. -/
lemma yields_split {f : S → A → Option B} {after} : ∀ {s : S} {before : List B},
    yields step (fun s a => (f s a).toList) s as = before ++ b :: after →
    ∃ as₁ a as₂, as = as₁ ++ a :: as₂ ∧ f (as₁.foldl step s) a = some b ∧
      yields step (fun s a => (f s a).toList) (step (as₁.foldl step s) a) as₂ = after := by
  induction as with
  | nil => exact fun heq => by simp [yields] at heq
  | cons a as ih =>
    intro s before heq
    rw [yields_cons] at heq
    have hlater : ∀ {before' : List B},
        yields step (fun s a => (f s a).toList) (step s a) as = before' ++ b :: after →
        ∃ as₁ c as₂, a :: as = as₁ ++ c :: as₂ ∧ f (as₁.foldl step s) c = some b ∧
          yields step (fun s a => (f s a).toList) (step (as₁.foldl step s) c) as₂ = after := by
      intro before' heq
      obtain ⟨as₁, c, as₂, rfl, hyield, hafter⟩ := ih heq
      exact ⟨a :: as₁, c, as₂, rfl, hyield, hafter⟩
    cases hyield : f s a with
    | none =>
      rw [hyield, Option.toList_none, List.nil_append] at heq
      exact hlater heq
    | some now =>
      rw [hyield, Option.toList_some, List.singleton_append] at heq
      cases before with
      | nil =>
        obtain ⟨rfl, hafter⟩ := List.cons.inj heq
        exact ⟨[], a, as, rfl, hyield, hafter⟩
      | cons first before => exact hlater (List.cons.inj heq).2

/-- A history that collects what the steps yield. -/
lemma foldl_noting_yields : ∀ {s : S} {past : List B},
    as.foldl (noting step fun s a past => past ++ f s a) (s, past) =
      (as.foldl step s, past ++ yields step f s as) := by
  induction as with
  | nil => intro s past; simp [yields]
  | cons a as ih =>
    intro s past
    rw [List.foldl_cons, List.foldl_cons, yields_cons, ← List.append_assoc, ← ih]
    rfl

end Yields

/-! ### Logs whose entries override one another -/

section

variable (h : ∀ s a b, step (step (step s a) b) a = step (step s b) a)
  (hidle : ∃ b, ∀ s, step s b = s)
include h hidle

lemma step_foldl_step (a : A) : ∀ s : S,
    step (as.foldl step (step s a)) a = step (as.foldl step s) a := by
  induction as with
  | nil =>
    obtain ⟨b, hb⟩ := hidle
    exact fun s => by simpa [hb] using h s a b
  | cons b as ih =>
    intro s
    rw [List.foldl_cons, List.foldl_cons, ← ih, h, ih]

/-- Replaying such a log again changes nothing. -/
lemma foldl_again (s : S) : as.foldl step (as.foldl step s) = as.foldl step s := by
  induction as using List.reverseRecOn with
  | nil => rfl
  | append_singleton as a ih => simp [step_foldl_step h hidle, ih]

end

end Transition
