import CoherenceFabric.Effects.Boot
import CoherenceFabric.Invariants.Predicates

/-!
The invariants of single records across a restart, and over whole runs.
-/

namespace CoherenceFabric

open FiniteMap

variable {P Q : RecordPred} {image : DurableImage}

/-- What recovery makes of a stored record satisfies the live predicates. -/
structure Restores (P : RecordPred) (image : DurableImage) : Prop where
  domain : ∀ (record : DomainRecord) epoch, image.domains[record.id]? = some record →
    P.domain record.id (record.restore epoch)
  participant : ∀ (record : ParticipantRecord) count,
    image.participants[record.id]? = some record →
      P.participant record.id { record.restore with regionCount := count }
  object : ∀ (object : ObjectRecord) epoch sequence, image.objects[object.id]? = some object →
    P.object object.id (image.restoreObject object image.epoch.value epoch sequence)
  region : ∀ (region : RegionRecord) evidence sequence,
    image.regions[region.id]? = some region →
      P.region region.id (region.restore evidence sequence)
  invalidation : ∀ (record : InvalidationRecord) sequence,
    image.invalidations[record.id]? = some record →
      P.invalidation record.id (record.restore sequence)
  sync : ∀ (record : SyncRecord) sequence, image.syncs[record.id]? = some record →
    P.sync record.id (record.restore sequence)
  policy : ∀ policy : CoherencePolicy, image.policies[policy.id]? = some policy →
    P.policy policy.id policy

lemma Restored.sat {epoch sequence r}
    (h : Restored image epoch sequence r) (hr : Restores P image) : r.Sat P where
  domains k b hb := by
    obtain ⟨a, ha, rfl, rfl⟩ := restoreMap_origin (h.domains ▸ hb)
    exact hr.domain a _ ha
  participants k b hb := by
    obtain ⟨a, count, ha, rfl, rfl⟩ := h.participant_origin hb
    exact hr.participant a count ha
  objects k b hb := by
    obtain ⟨a, ha, rfl, rfl⟩ := restoreMap_origin (h.objects ▸ hb)
    exact hr.object a _ _ ha
  regions k b hb := by
    obtain ⟨a, evidence, ha, rfl, rfl⟩ := h.region_origin hb
    exact hr.region a _ _ ha
  invalidations k b hb := by
    obtain ⟨a, ha, rfl, rfl⟩ := restoreMap_origin (h.invalidations ▸ hb)
    exact hr.invalidation a _ ha
  syncs k b hb := by
    obtain ⟨a, ha, rfl, rfl⟩ := restoreMap_origin (h.syncs ▸ hb)
    exact hr.sync a _ ha
  policies k b hb := by
    obtain ⟨a, ha, rfl, hba⟩ := restoreMap_origin (h.policies ▸ hb)
    obtain rfl : b = a := hba
    exact hr.policy b ha

lemma recoveryEntries_sat {σ} {e : Impl σ} (hlive : e.toRecords.Sat P) (hp : Persists P Q) :
    ∀ payload ∈ e.recoveryEntries image, payload.Sat Q := by
  intro payload hmem
  simp only [Impl.recoveryEntries, List.mem_append, List.mem_singleton, List.mem_map] at hmem
  rcases hmem with
    (((((rfl | ⟨entry, hentry, rfl⟩) | ⟨entry, hentry, rfl⟩) | ⟨entry, hentry, rfl⟩) |
    ⟨entry, hentry, rfl⟩) | ⟨entry, hentry, rfl⟩) | ⟨entry, hentry, rfl⟩
  · trivial
  · exact hp.participant _ entry.2 (hlive.participants.of_mem_toList hentry)
  · exact hp.object _ entry.2 (hlive.objects.of_mem_toList hentry)
  · exact hp.region _ _ (hlive.regions.of_mem_toList hentry)
  · exact hp.invalidation _ _ (hlive.invalidations.of_mem_toList hentry)
  · exact hp.sync _ _ (hlive.syncs.of_mem_toList hentry)
  · trivial

variable {σ : Type} [ReplayStore σ] {s : Sys σ} {a : Action} {config : EngineConfig}

/-- A system booted on a store whose records satisfy the predicates starts in the
invariant. -/
theorem Invariant.boot {store : Option σ} (hp : Persists P Q)
    (hstored : ∀ st, store = some st → (stored st).Sat Q)
    (hrestores : ∀ st, store = some st → Restores P (stored st)) :
    Invariant P Q (Sys.boot config store) := by
  have hboot := boot_cases config store
  generalize Sys.boot config store = s at hboot ⊢
  have hfresh : (coherenceEngine σ config).toPersistence.Sat Q :=
    ⟨{ DurableImage.sat_empty with }, nofun⟩
  cases hboot with
  | detached =>
    exact ⟨Records.sat_empty, hfresh, fun _ h => absurd h.symm (Option.some_ne_none _),
      fun _ h => absurd h List.not_mem_nil⟩
  | @refused st _ _ =>
    refine ⟨Records.sat_empty, hfresh, fun _ h => ?_, fun _ h => absurd h List.not_mem_nil⟩
    cases h
    simpa using hstored st rfl
  | @recovered st load image opened =>
    obtain rfl : image = stored st := ReplayStore.open_image opened
    have hsat := hstored st rfl
    let fresh : Impl σ := Impl.attached config (DurableStore.openStore st).2
    have hlive := (restoreImage_restored fresh (stored st)).sat (hrestores st rfl)
    refine ⟨?_, ?_, fun _ h => absurd h.symm (Option.some_ne_none _),
      fun _ h => absurd h List.not_mem_nil⟩
    · rw [recoverFrom_toRecords]
      exact hlive
    · refine (persist_recoverFrom fresh (stored st) load).sat (recoveryEntries_sat hlive hp) ?_
      refine ⟨{ hsat with }, fun store hstore => ?_⟩
      cases hstore
      simpa using hsat

/-- A system that has just booted has the records of an image restored, that of its store or an
empty one. -/
lemma boot_image (config : EngineConfig) {store : Option σ} {P : DurableImage → Prop}
    (hempty : P {}) (hstored : ∀ st, store = some st → P (stored st)) :
    ∃ image epoch sequence, P image ∧
      Restored image epoch sequence (Sys.boot config store).engine.toRecords := by
  have hboot := boot_cases config store
  generalize Sys.boot config store = s at hboot ⊢
  cases hboot with
  | detached | refused => exact ⟨{}, .nil, .nil, hempty, .empty⟩
  | @recovered st load image opened =>
    obtain rfl : image = stored st := ReplayStore.open_image opened
    rw [recoverFrom_toRecords]
    exact ⟨_, _, _, hstored st rfl, restoreImage_restored _ _⟩

lemma stored_remount {P : DurableImage → Prop}
    (h : ∀ store, s.medium = some store → P (stored store)) :
    ∀ st, s.medium.map StoreMedium.remount = some st → P (stored st) := by
  intro st hst
  obtain ⟨store, hstore, rfl⟩ := Option.map_eq_some_iff.mp hst
  rw [ReplayStore.remount_stored]
  exact h store hstore

lemma restart_image (config : EngineConfig) {P : DurableImage → Prop} (hempty : P {})
    (hstored : ∀ store, s.medium = some store → P (stored store)) :
    ∃ image epoch sequence, P image ∧
      Restored image epoch sequence (s.step (.restart config)).engine.toRecords :=
  boot_image config hempty (stored_remount hstored)

lemma Invariant.medium_sat (hinv : Invariant P Q s) {store} (h : s.medium = some store) :
    (stored store).Sat Q := by
  unfold Sys.medium at h
  cases hstore : s.engine.store with
  | some attached =>
    rw [hstore] at h
    exact hinv.persisted.stored _ (hstore.trans (by simpa using h))
  | none =>
    rw [hstore] at h
    exact hinv.shelf _ h

/-- What a step owes the predicates, a restart included. -/
def Guarded (P Q : RecordPred) (s : Sys σ) (a : Action) : Prop :=
  match a with
  | .restart _ => ∀ store, s.medium = some store → Restores P (stored store)
  | a => Kept P Q s a

theorem Invariant.next (hp : Persists P Q) (hinv : Invariant P Q s) (hok : Guarded P Q s a) :
    Invariant P Q (s.step a) := by
  cases a with
  | restart config =>
    refine Invariant.boot hp (fun st hst => ?_) (fun st hst => ?_) <;>
      obtain ⟨store, hstore, rfl⟩ := Option.map_eq_some_iff.mp hst
    · simpa using hinv.medium_sat hstore
    · simpa using hok store hstore
  | _ => exact hinv.step nofun hok hp

theorem Invariant.run (h : Invariant P Q s) (hp : Persists P Q)
    (hok : ∀ (s : Sys σ) a, Guarded P Q s a) (as : List Action) : Invariant P Q (s.run as) :=
  Transition.foldl_invariant (fun _ _ h => h.next hp (hok _ _)) h

/-! ### Invariants of replicas alone -/

section Regions

variable {p q : RegionRecord → Prop}

/-- Predicates that look at replicas only. -/
def RecordPred.onRegions (p : RegionRecord → Prop) : RecordPred where
  region _ region := p region

lemma persists_onRegions (h : ∀ region, p region → q region) :
    Persists (.onRegions p) (.onRegions q) := by
  constructor
  case region => exact fun _ region => h region
  all_goals exact fun _ _ _ => trivial

omit [ReplayStore σ] in
lemma kept_onRegions (hnew : ∀ id region, NewRegion s a id region → p region)
    (hstep : ∀ region region', p region → RegionStep s a region region' → p region') :
    Kept (.onRegions p) (.onRegions q) s a := by
  constructor
  case newRegion => exact hnew
  case region => exact fun _ => hstep
  all_goals intros; trivial

lemma restores_onRegions (h : ∀ (region : RegionRecord) evidence sequence,
      image.regions[region.id]? = some region → p (region.restore evidence sequence)) :
    Restores (.onRegions p) image := by
  constructor
  case region => exact h
  all_goals intros; trivial

lemma sat_onRegions (h : ∀ (id : RegionId) region, image.regions[id]? = some region →
    q region) : image.Sat (.onRegions q) := by
  constructor
  case regions => exact h
  all_goals exact fun _ _ _ => trivial

end Regions

/-! ### What is persisted of an object -/

section Objects

variable {q : ObjectRecord → Prop}

/-- Predicates that look at objects only. -/
def RecordPred.onObjects (q : ObjectRecord → Prop) : RecordPred where
  object _ object := q object

lemma persists_onObjects (h : ∀ object, q (scrubObjectForPersistence object)) :
    Persists {} (.onObjects q) := by
  constructor
  case object => exact fun _ object _ => h object
  all_goals exact fun _ _ _ => trivial

lemma guarded_onObjects : Guarded {} (.onObjects q) s a := by
  cases a
  case restart config =>
    intro store _
    constructor <;> intros <;> trivial
  all_goals
    constructor <;> intros <;> trivial

lemma restores_trivial : Restores {} image := by
  constructor <;> intros <;> trivial

lemma sat_onObjects (h : ∀ (id : ObjectId) object, image.objects[id]? = some object → q object) :
    image.Sat (.onObjects q) := by
  constructor
  case objects => exact h
  all_goals exact fun _ _ _ => trivial

lemma stored_scrubbed {store as} {st : σ} (hq : ∀ object, q (scrubObjectForPersistence object))
    (hstore : ∀ st, store = some st → ∀ (id : ObjectId) object,
      (stored st).objects[id]? = some object → q object)
    (hst : ((Sys.boot config store).run as).medium = some st) {id : ObjectId}
    {object} (hobject : (stored st).objects[id]? = some object) : q object := by
  have hboot : Invariant {} (.onObjects q) (Sys.boot config store) :=
    Invariant.boot (persists_onObjects hq) (fun st hst => sat_onObjects (hstore st hst))
      fun _ _ => restores_trivial
  have hinv := hboot.run (persists_onObjects hq) (fun _ _ => guarded_onObjects) as
  exact (hinv.medium_sat hst).objects id object hobject

end Objects

end CoherenceFabric
