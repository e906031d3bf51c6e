import CoherenceFabric.Lib.Run
import Mathlib.Order.Lattice

/-!
Terms of office.

Each key has a generation that only grows, and at most one holder at a time. A step that leaves
the generation may remove the holder but not install one. Acts are done by the holder of the
current generation, or redeem a pledge that such a holder made. Then all acts under one
generation of a key are done by one and the same holder.
-/

namespace Tenure

open Transition

variable {S A K N H : Type*} [LinearOrder N]

/-- What is recorded of the terms of office in a state, and what is done in a step. -/
structure Office (S A K N H : Type*) where
  /-- The current generation of a key. -/
  generation : S → K → Option N
  /-- Who holds the current generation. -/
  holder : S → K → Option H
  /-- A holder has announced an act under a generation. -/
  pledged : S → K → N → H → Prop
  /-- The act a step does. -/
  act : S → A → Option (K × N × H)

variable (o : Office S A K N H) (step : S → A → S)

/-- A step keeps the rules of the office. -/
structure Lawful (s : S) (a : A) : Prop where
  grows : ∀ {k n}, o.generation s k = some n → ∃ n', o.generation (step s a) k = some n' ∧ n ≤ n'
  installs : ∀ {k n h}, o.generation s k = some n → o.generation (step s a) k = some n →
    o.holder (step s a) k = some h → o.holder s k = some h
  pledges : ∀ {k n h}, o.pledged (step s a) k n h → o.pledged s k n h ∨
    o.generation s k = some n ∧ o.holder s k = some h
  acts : ∀ {k n h}, o.act s a = some (k, n, h) → o.generation s k = some n ∧
    (o.holder s k = some h ∨ o.pledged s k n h)

def acts (s : S) (as : List A) : List (K × N × H) :=
  yields step (fun s a => (o.act s a).toList) s as

variable {o step} {s : S} {a : A} {as : List A} {k : K} {n m : N} {h : H}

def Reached (o : Office S A K N H) (s : S) (k : K) (n : N) : Prop :=
  ∃ m, o.generation s k = some m ∧ n ≤ m

lemma Reached.after (hlawful : Lawful o step s a) (hreached : Reached o s k n) :
    Reached o (step s a) k n := by
  obtain ⟨m, hm, hle⟩ := hreached
  obtain ⟨m', hm', hle'⟩ := hlawful.grows hm
  exact ⟨m', hm', hle.trans hle'⟩

theorem le_of_mem_acts : ∀ {s : S}, RunOk step (Lawful o step) s as →
    Reached o s k n → (k, m, h) ∈ acts o step s as → n ≤ m := by
  induction as with
  | nil => exact fun _ _ hmem => absurd hmem List.not_mem_nil
  | cons a as ih =>
    intro s hrun hreached hmem
    rcases List.mem_append.mp hmem with hnow | hlater
    · obtain ⟨hcurrent, -⟩ := hrun.1.acts (Option.mem_toList.mp hnow)
      obtain ⟨m', hm', hle⟩ := hreached
      cases hcurrent.symm.trans hm'
      exact hle
    · exact ih hrun.2 (hreached.after hrun.1) hlater

/-- An assignment of holders to generations that fits a state. -/
structure Fits (o : Office S A K N H) (s : S) (f : K → N → Option H) : Prop where
  holder : ∀ {k n h}, o.generation s k = some n → o.holder s k = some h → f k n = some h
  pledged : ∀ {k n h}, o.pledged s k n h → f k n = some h ∧ Reached o s k n

open Classical in
noncomputable def enter (o : Office S A K N H) (s : S) (f : K → N → Option H) (k : K) (n : N) :
    Option H :=
  if o.generation s k = some n then (o.holder s k).or (f k n) else f k n

lemma Fits.enter_eq {f} (hfits : Fits o s f) (hlawful : Lawful o step s a)
    (hreached : Reached o s k n) : enter o (step s a) f k n = f k n := by
  unfold enter
  split
  · rename_i hafter
    obtain ⟨m, hm, hle⟩ := hreached
    obtain ⟨m', hm', hle'⟩ := hlawful.grows hm
    cases hm'.symm.trans hafter
    obtain rfl : n = m := le_antisymm hle hle'
    cases hholder : o.holder (step s a) k with
    | none => rfl
    | some h =>
      rw [hfits.holder hm (hlawful.installs hm hafter hholder)]
      rfl
  · rfl

lemma Fits.after {f} (hfits : Fits o s f) (hlawful : Lawful o step s a) :
    Fits o (step s a) (enter o (step s a) f) where
  holder {k n h} hcurrent hholder := by
    unfold enter
    rw [if_pos hcurrent, hholder]
    rfl
  pledged {k n h} hpledged := by
    rcases hlawful.pledges hpledged with hbefore | ⟨hcurrent, hholder⟩
    · obtain ⟨hentered, hreached⟩ := hfits.pledged hbefore
      exact ⟨(hfits.enter_eq hlawful hreached).trans hentered, hreached.after hlawful⟩
    · have hreached : Reached o s k n := ⟨n, hcurrent, le_rfl⟩
      exact ⟨(hfits.enter_eq hlawful hreached).trans (hfits.holder hcurrent hholder),
        hreached.after hlawful⟩

lemma Fits.act {f} (hfits : Fits o s f) (hlawful : Lawful o step s a)
    (hact : o.act s a = some (k, n, h)) : f k n = some h ∧ Reached o s k n := by
  obtain ⟨hcurrent, hholder | hpledged⟩ := hlawful.acts hact
  · exact ⟨hfits.holder hcurrent hholder, n, hcurrent, le_rfl⟩
  · exact hfits.pledged hpledged

theorem exists_assignment : ∀ {s : S} {f : K → N → Option H}, Fits o s f →
    RunOk step (Lawful o step) s as → ∃ g : K → N → Option H,
      (∀ {k n}, Reached o s k n → g k n = f k n) ∧
        ∀ {k n h}, (k, n, h) ∈ acts o step s as → g k n = some h := by
  induction as with
  | nil => exact fun {_ f} _ _ => ⟨f, fun _ => rfl, fun hmem => absurd hmem List.not_mem_nil⟩
  | cons a as ih =>
    intro s f hfits hrun
    obtain ⟨g, hagree, hacts⟩ := ih (hfits.after hrun.1) hrun.2
    have hstart : ∀ {k n}, Reached o s k n → g k n = f k n := fun hreached =>
      (hagree (hreached.after hrun.1)).trans (hfits.enter_eq hrun.1 hreached)
    refine ⟨g, hstart, fun {k n h} hmem => ?_⟩
    rcases List.mem_append.mp hmem with hnow | hlater
    · obtain ⟨hentered, hreached⟩ := hfits.act hrun.1 (Option.mem_toList.mp hnow)
      exact (hstart hreached).trans hentered
    · exact hacts hlater

/-- **One holder per generation**: in a run from a state without pledges, two acts under one
generation of a key have one holder. -/
theorem holder_unique {h'} (hpledged : ∀ k n h, ¬ o.pledged s k n h)
    (hrun : RunOk step (Lawful o step) s as) (hmem : (k, n, h) ∈ acts o step s as)
    (hmem' : (k, n, h') ∈ acts o step s as) : h = h' := by
  have hfits : Fits o s (enter o s fun _ _ => none) :=
    { holder := fun hcurrent hholder => by rw [enter, if_pos hcurrent, hholder]; rfl
      pledged := fun h => absurd h (hpledged _ _ _) }
  obtain ⟨g, -, hacts⟩ := exists_assignment hfits hrun
  exact Option.some.inj ((hacts hmem).symm.trans (hacts hmem'))

end Tenure
