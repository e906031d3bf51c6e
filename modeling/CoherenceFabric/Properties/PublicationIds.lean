import CoherenceFabric.Properties.VersionChain

/-!
Publication identities over the lives of several engines on one store.

A publication commits in phase 3 of its call, or when recovery completes its durable record. Its
identity comes from a counter that recovery does not raise past the identities in the image: every
engine counts from one again.
-/

namespace CoherenceFabric

open DurableStore Transition

variable {σ : Type}

/-- The publications that recovery from an image completes. -/
def DurableImage.completed (image : DurableImage) : List PendingPublication :=
  image.objects.toList.filterMap fun entry =>
    if entry.1 = entry.2.id ∧ ((image.policyOf entry.2.policy).map (·.recoveryPolicy)).getD
        .conservative = .completeDurablePending then image.durablePending entry.2
    else none

def completedOn [DurableStore σ] : Option σ → List PendingPublication
  | none => []
  | some store =>
    match (openStore store).1 with
    | .ok (_, image) => image.completed
    | .error _ => []

def Sys.publishes [StoreMedium σ] (s : Sys σ) : Action → List PendingPublication
  | .restart _ => completedOn (s.medium.map StoreMedium.remount)
  | a => (s.committed a).toList

/-- The publications that commit in a run, in order. -/
def Sys.completions [StoreMedium σ] (s : Sys σ) (as : List Action) : List PendingPublication :=
  yields Sys.step Sys.publishes s as

section Run

variable [ReplayStore σ] {s : Sys σ} {a : Action}

def nothingPending (store : σ) : Bool := (stored store).pendingPublications.isEmpty

/-- An engine is restarted only before it has taken a publication identity, and on a store that
holds no publication in flight. -/
def RestartsUnpublished (s : Sys σ) (a : Action) : Prop :=
  (match a with
    | .restart _ => decide (s.engine.nextPublicationId = 1) && s.medium.all nothingPending
    | _ => true) = true

instance (s : Sys σ) (a : Action) : Decidable (RestartsUnpublished s a) :=
  inferInstanceAs (Decidable (_ = true))

lemma RestartsUnpublished.unnumbered (h : RestartsUnpublished s a) : RestartsUnnumbered s a := by
  intro hrestart
  cases a <;> try cases hrestart
  exact of_decide_eq_true (Bool.and_eq_true_iff.mp h).1

lemma completedOn_nil {store : Option σ} (h : store.all nothingPending = true) :
    completedOn store = [] := by
  cases store with
  | none => rfl
  | some store =>
    unfold completedOn
    dsimp only
    split
    · rename_i load image hopen
      obtain rfl : image = stored store := ReplayStore.open_image hopen
      have hempty := Std.ExtTreeMap.isEmpty_iff.mp h
      refine List.filterMap_eq_nil_iff.mpr fun entry _ => ?_
      have hnone : (stored store).durablePending entry.2 = none := by
        unfold DurableImage.durablePending
        rw [hempty]
        split <;> simp
      rw [hnone, ite_self]
    · rfl

lemma RestartsUnpublished.publishes (h : RestartsUnpublished s a) :
    s.publishes a = (s.committed a).toList := by
  cases a with
  | restart config =>
    refine completedOn_nil ?_
    have hmedium := (Bool.and_eq_true_iff.mp h).2
    cases hstore : s.medium with
    | none => rfl
    | some store =>
      rw [hstore] at hmedium
      simpa [nothingPending] using hmedium
  | _ => rfl

lemma completions_eq_commits {as} (h : RunOk Sys.step RestartsUnpublished s as) :
    s.completions as = s.commits as :=
  yields_congr (runOk_of_invariant (I := fun _ => True) (fun _ _ _ _ => trivial)
    (fun _ _ hok _ => hok.publishes) trivial h)

/-- **Publication identities are not reused** as long as no engine is restarted after it has taken
one: no two publications that commit have the same identity. -/
theorem publication_ids_distinct (config : EngineConfig) (store : Option σ) (as : List Action)
    (hstore : store.all nothingPending = true)
    (hids : ((Sys.boot config store).reservations as).length < UInt64.size)
    (hrun : RunOk Sys.step RestartsUnpublished (Sys.boot config store) as) :
    ((completedOn store ++ (Sys.boot config store).completions as).map (·.id)).Nodup := by
  rw [completedOn_nil hstore, List.nil_append, completions_eq_commits hrun]
  exact (commits_ids_nodup Numbered.boot (runOk_of_invariant (I := fun _ => True)
    (fun _ _ _ _ => trivial) (fun _ _ hok _ => hok.unnumbered) trivial hrun) (by omega)).1

end Run

def Duo.publishedLater : List Action :=
  Duo.enrol ++ [.restart {}] ++ Duo.resume 1 ++ [Duo.acquireAgain] ++
    Duo.publishFrom Duo.contextAgain 1 0 2 ++ Duo.publishFrom Duo.contextAgain 1 1 2

theorem publication_ids_distinct_later :
    ((Sys.boot {} (some ({} : LogStore))).completions Duo.publishedLater).length = 2 ∧
      ((completedOn (some ({} : LogStore)) ++
        (Sys.boot {} (some ({} : LogStore))).completions Duo.publishedLater).map (·.id)).Nodup :=
  ⟨by decide +kernel, publication_ids_distinct {} (some ({} : LogStore)) Duo.publishedLater
    (by decide +kernel) (by decide +kernel) (by decide +kernel)⟩

/-- The writer publishes, and publishes again after a restart: both publications have the same
identity. -/
theorem publication_id_after_restart :
    ((Sys.boot {} (some ({} : LogStore))).completions (Duo.publishedOnce ++ [.restart {}] ++
      Duo.resume 1 ++ [Duo.acquireAgain] ++ Duo.publishFrom Duo.contextAgain 1 1 3)).map
        (fun pending => (pending.id, pending.version)) = [(⟨1⟩, ⟨1⟩), (⟨1⟩, ⟨2⟩)] := by
  decide +kernel

end CoherenceFabric
