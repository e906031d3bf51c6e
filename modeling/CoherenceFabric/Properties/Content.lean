import CoherenceFabric.Properties.Currentness

/-!
Current replicas agree on content.

The engine never sees the bytes. It takes a fingerprint from a publication, it compares the
report of a synchronization with the fingerprint its source had when it was planned, and it
takes the word of an observation. So the fingerprints of current replicas agree if there is one
content of each version that publications and observations tell the truth about, and
synchronizations are planned from it and applied to the extent they were planned for.
-/

namespace CoherenceFabric

open FiniteMap Transition

variable {σ : Type} {contents : Contents}

/-- The fingerprint of every version of every object, over every extent. -/
abbrev Contents := ObjectId → VersionId → UInt64 → UInt64 → ContentFingerprint

def Contents.of (contents : Contents) (region : RegionRecord) (version : VersionId) :
    ContentFingerprint :=
  contents region.object version region.offset region.length

def Fingerprinted (s : Sys σ) : Prop :=
  All (fun _ object =>
    (s.engine.policyLocked object).any (·.requireContentFingerprint) = true) s.engine.objects

instance (s : Sys σ) : Decidable (Fingerprinted s) := inferInstanceAs (Decidable (All _ _))

/-- The step is faithful to the contents: a publication that is committed carries the content of
its version, an observation at the authoritative version reports it, a synchronization is planned
from a replica of its object once the object has a version, and it is completed over the extent
it was planned for. -/
def Faithful (contents : Contents) (s : Sys σ) (a : Action) : Prop :=
  (match a with
  | .publishCommit index =>
    decide (∀ frame ∈ s.ready index, ∀ region ∈ s.engine.regions[frame.region]?,
      (s.engine.commitTarget frame).isSome →
        frame.pending.content = contents.of region frame.pending.version)
  | .revalidateRegion request =>
    decide (∀ region ∈ s.engine.regions[request.region]?,
      ∀ object ∈ s.engine.objects[region.object]?, object.authoritativeVersion.defined →
        request.observedVersion = object.authoritativeVersion →
        request.content = contents.of region object.authoritativeVersion)
  | .beginSync request =>
    decide (∀ object ∈ s.engine.objects[request.context.object]?,
      ∀ plan ∈ (s.engine.beginSyncRefusal request object).toOption,
        object.authoritativeVersion.defined ∧ plan.1.object = object.id)
  | .completeSync request =>
    decide (∀ record ∈ s.engine.syncs[request.operation]?,
      ∀ destination ∈ s.engine.regions[record.destinationRegion]?,
        destination.offset = record.extentOffset ∧ destination.length = record.extentLength)
  | _ => true) = true

instance (contents : Contents) (s : Sys σ) (a : Action) : Decidable (Faithful contents s a) :=
  inferInstanceAs (Decidable (_ = true))

/-- Two replicas that are current, belong to one object with a version and cover one extent have
one fingerprint. -/
def AgreeOn (s : Sys σ) (region other : RegionRecord) : Prop :=
  region.state = .current ∧ other.state = .current ∧ other.object = region.object ∧
      other.offset = region.offset ∧ other.length = region.length →
    ∀ object ∈ s.engine.objects[region.object]?, object.authoritativeVersion.defined →
      other.content = region.content

instance (s : Sys σ) (region other : RegionRecord) : Decidable (AgreeOn s region other) :=
  inferInstanceAs (Decidable (_ → ∀ object ∈ _, _))

def ReplicasAgree (s : Sys σ) : Prop :=
  All (fun _ region => All (fun _ other => AgreeOn s region other) s.engine.regions)
    s.engine.regions

instance (s : Sys σ) : Decidable (ReplicasAgree s) := inferInstanceAs (Decidable (All _ _))

/-- A publication as it was committed: what it carried, and the extent of the replica it was made
from. -/
structure Published where
  pending : PendingPublication
  offset : UInt64
  length : UInt64

def Sys.published (s : Sys σ) (a : Action) : Option Published :=
  match a with
  | .publishCommit index =>
    (s.ready index).bind fun frame =>
      (s.engine.commitTarget frame).bind fun _ =>
        (s.engine.regions[frame.region]?).map fun region =>
          ⟨frame.pending, region.offset, region.length⟩
  | _ => none

/-- The publications a run commits, in order. -/
def Sys.publications [StoreMedium σ] (s : Sys σ) (as : List Action) : List Published :=
  yields Sys.step (fun s a => (s.published a).toList) s as

def CarriesContent (s : Sys σ) (published : Published) : Prop :=
  All (fun _ region => region.state = .current → region.object = published.pending.object →
    region.offset = published.offset ∧ region.length = published.length →
    ∀ object ∈ s.engine.objects[region.object]?,
      object.authoritativeVersion = published.pending.version →
        region.content = published.pending.content) s.engine.regions

/-! ### Plans -/

def RecordPred.expects (contents : Contents) : RecordPred where
  sync _ record := record.expectedContent.defined ∧ record.expectedContent =
    contents record.object record.sourceVersion record.extentOffset record.extentLength

lemma persists_expects : Persists (.expects contents) (.expects contents) := by
  constructor <;> intros <;> trivial

lemma restores_expects {image} (h : All (RecordPred.expects contents).sync image.syncs) :
    Restores (.expects contents) image := by
  constructor
  case sync =>
    intro record sequence hrecord
    obtain ⟨state, settled, reason, heq⟩ := record.restore_eq sequence
    rw [heq]
    exact h _ record hrecord
  all_goals intros; trivial

def HoldsContent (contents : Contents) (s : Sys σ) : Prop :=
  All (fun _ region => region.state = .current → region.content.defined ∧
    ∀ object ∈ s.engine.objects[region.object]?, object.authoritativeVersion.defined →
      region.content = contents.of region object.authoritativeVersion) s.engine.regions

lemma ContentFingerprint.eq_of_same {a b : ContentFingerprint} (hb : b.defined)
    (h : a.same b) : a = b := by
  unfold ContentFingerprint.same at h
  split at h
  · cases h
  rename_i hdefined
  have ha : a.defined = true := by simpa [hb] using hdefined
  rw [if_neg (by simp [ha])] at h
  obtain ⟨digest, crc, length, _⟩ := a
  obtain ⟨digest', crc', length', _⟩ := b
  simp_all

section Plans

variable {contents : Contents} {s : Sys σ} {a : Action}

lemma NewSync.expects (hcontent : HoldsContent contents s)
    (hkeyed : All (fun id object => object.id = id) s.engine.objects)
    (hfaithful : Faithful contents s a) {id record}
    (h : NewSync s a id record) : (RecordPred.expects contents).sync id record := by
  cases h with
  | @begin request object participant source destination e granted allowed =>
    have hfound := resolveLocked_found granted
    obtain ⟨-, -, -, hsource⟩ := beginSyncRefusal_ok allowed
    obtain ⟨key, hregion, hstate, -⟩ := syncSource_ok hsource
    obtain ⟨hversion, howner⟩ : object.authoritativeVersion.defined ∧ source.object = object.id :=
      of_decide_eq_true hfaithful object hfound (source, destination) (by rw [allowed]; rfl)
    have hobject : s.engine.objects[source.object]? = some object := by
      rw [howner, hkeyed _ _ hfound]
      exact hfound
    obtain ⟨hdefined, htruth⟩ := hcontent key source hregion hstate
    refine ⟨hdefined, ?_⟩
    have hplan : (e.newSync request object source destination).sourceVersion =
        object.authoritativeVersion := if_pos hversion
    rw [hplan]
    exact (htruth object hobject hversion).trans (congrArg (contents · _ _ _) howner)

lemma kept_expects (hcontent : HoldsContent contents s)
    (hkeyed : All (fun id object => object.id = id) s.engine.objects)
    (hfaithful : Faithful contents s a) : Kept (.expects contents) (.expects contents) s a := by
  constructor
  case newSync => exact fun _ _ new => new.expects hcontent hkeyed hfaithful
  case sync =>
    intro id record record' hrecord hstep
    cases hstep with
    | replace new => exact new.expects hcontent hkeyed hfaithful
    | _ => exact hrecord
  all_goals intros; trivial

end Plans

/-! ### Steps and runs -/

section Run

variable [LawfulStore σ] {contents : Contents} {s : Sys σ} {a : Action}

/-- The content of the current replicas, with what it rests on. -/
structure Agreed (contents : Contents) (s : Sys σ) : Prop extends Coherent s where
  expected : Invariant (.expects contents) (.expects contents) s
  frames : ∀ frame ∈ s.frames, frame.pending.content.defined
  content : HoldsContent contents s

lemma ReplicaStep.content (h : Agreed contents s) (hpolicies : Fingerprinted s)
    (hfaithful : Faithful contents s a) {key object object' region region'}
    (hstep : ReplicaStep s a key object region object' region')
    (hregion : s.engine.regions[key]? = some region)
    (hobject : s.engine.objects[region.object]? = some object) (hstate : region'.state = .current) :
    region'.content.defined ∧ (object'.authoritativeVersion.defined →
      region'.content = contents.of region' object'.authoritativeVersion) := by
  cases hstep with
  | keep same version =>
    obtain ⟨hdefined, htruth⟩ := h.content key region hregion (same.state ▸ hstate)
    unfold Contents.of
    rw [same.content, same.object, same.extent.1, same.extent.2, version]
    exact ⟨hdefined, htruth object hobject⟩
  | lower lowered | overtaken lowered => exact absurd hstate lowered.state
  | @publish index frame _ _ _ seq ready target version =>
    have hdefined := h.frames frame (List.mem_of_getElem? (ready_mem ready).1)
    have hcontent : (region.publish frame.pending frame.pending.ownershipGeneration
        ⟨s.engine.nextEvidenceId⟩ seq).content = frame.pending.content := if_pos hdefined
    rw [hcontent, version]
    exact ⟨hdefined, fun _ => of_decide_eq_true hfaithful frame ready region hregion
      (by simp [target])⟩
  | markDirty => cases hstate
  | @completeSync request record _ _ _ seq completes source content version =>
    obtain ⟨hdefined, hexpected⟩ := h.expected.live.syncs _ record completes.planned
    obtain ⟨destination, hdestination, -, howner⟩ := h.catalogued.live.plans _ _ completes.planned
    cases hregion.symm.trans hdestination
    have hobserved := ContentFingerprint.eq_of_same hdefined
      (content (hpolicies _ object hobject) hdefined)
    have hcontent : (region.completeSync (record.complete seq) object.ownershipGeneration
        request.observedContent ⟨s.engine.nextEvidenceId⟩ seq).content =
          record.expectedContent := by
      rw [← hobserved]
      exact if_pos (hobserved ▸ hdefined)
    obtain ⟨hoffset, hlength⟩ := of_decide_eq_true hfaithful record completes.planned region hregion
    rw [hcontent, version, source]
    refine ⟨hdefined, fun _ => hexpected.trans ?_⟩
    change contents _ _ _ _ = contents region.object _ region.offset region.length
    rw [howner, hoffset, hlength]
  | @revalidate request _ participant _ _ seq granted allowed version =>
    obtain ⟨-, -, -, -, -, policy, hpolicy, hrequired⟩ := revalidateRefusal_ok allowed
    have hdefined : request.content.defined = true := by
      refine hrequired ?_
      simpa [hpolicy] using hpolicies _ object hobject
    rw [version]
    unfold RegionRecord.revalidate at hstate ⊢
    dsimp only at hstate ⊢
    split at hstate
    · rename_i hagrees
      rw [if_pos hagrees]
      refine ⟨by simp [hdefined], fun hversion => ?_⟩
      have hobserved : request.observedVersion = object.authoritativeVersion := by
        rcases hagrees with ⟨-, hsame⟩ | hnone
        · exact hsame
        · simp [hversion] at hnone
      rw [if_pos hdefined]
      exact of_decide_eq_true hfaithful region hregion object hobject hversion hobserved
    · cases hstate

@[mk_iff]
structure FaithfulStep (contents : Contents) (s : Sys σ) (a : Action) : Prop where
  counters : CountersLast s a
  policies : Fingerprinted s
  faithful : Faithful contents s a

instance (contents : Contents) (s : Sys σ) (a : Action) : Decidable (FaithfulStep contents s a) :=
  decidable_of_iff' _ (faithfulStep_iff contents s a)

lemma Agreed.step (h : Agreed contents s) (ha : a.Runs)
    (hok : FaithfulStep contents s a) : Agreed contents (s.step a) where
  toCoherent := h.toCoherent.step ha hok.counters
  expected := h.expected.step ha (kept_expects h.content h.keyed.live.objects hok.faithful)
    persists_expects
  frames frame hframe := by
    rcases step_publication ha hframe with ⟨before, hbefore, hsame, -⟩ | ⟨request, rfl, hnew⟩
    · exact hsame ▸ h.frames before hbefore
    obtain ⟨object, participant, policy, region, receipt, hreserves, rfl, -⟩ :=
      publishReserve_reserved hnew
    have hfound := hreserves.found
    refine (publishRefusal_ok hreserves.allowed).content ?_
    simpa [hreserves.policy_found] using hok.policies _ object hfound
  content key region' hregion' hstate := by
    obtain ⟨object', hobject', hnew | ⟨object, region, hobject, hregion, hstep⟩⟩ :=
      h.toGrounded.replica ha hok.counters.records hregion'
    · exact absurd hstate hnew.not_current
    obtain ⟨hdefined, htruth⟩ :=
      hstep.content h hok.policies hok.faithful hregion hobject hstate
    refine ⟨hdefined, fun after hafter => ?_⟩
    cases hobject'.symm.trans hafter
    exact htruth

/-- What the first store has to hold: what an engine leaves, with plans for the contents. -/
structure DurableImage.KeptWith (contents : Contents) (image : DurableImage) : Prop
    extends image.WellKept where
  expected : All (RecordPred.expects contents).sync image.syncs

lemma Agreed.boot {config} {store : Option σ}
    (hstore : ∀ st, store = some st → (stored st).KeptWith contents) :
    Agreed contents (Sys.boot config store) where
  toCoherent := Coherent.boot fun st hst => (hstore st hst).toWellKept
  expected := by
    refine Invariant.boot persists_expects (fun st hst => ?_) fun st hst =>
      restores_expects (hstore st hst).expected
    constructor
    case syncs => exact (hstore st hst).expected
    all_goals exact fun _ _ _ => trivial
  frames frame hframe := absurd hframe not_mem_boot_frames
  content key region hregion hstate := absurd hstate (boot_not_current key region hregion)

lemma Agreed.next (h : Agreed contents s) (hok : FaithfulStep contents s a) :
    Agreed contents (s.step a) := by
  rcases a.restart_or with ⟨config, rfl⟩ | ha
  · exact Agreed.boot (stored_remount fun store hstore =>
      ⟨h.toCoherent.medium hstore, (h.expected.medium_sat hstore).syncs⟩)
  · exact h.step ha hok

lemma Agreed.replicasAgree (h : Agreed contents s) : ReplicasAgree s := by
  intro key region hregion key' other hother ⟨hstate, hstate', howner, hoffset, hlength⟩
    object hobject hversion
  have hcontent := (h.content key region hregion hstate).2 object hobject hversion
  have hcontent' := (h.content key' other hother hstate').2 object (howner ▸ hobject) hversion
  rw [hcontent, hcontent']
  unfold Contents.of
  rw [howner, hoffset, hlength]

lemma Agreed.published (h : Agreed contents s) (hok : FaithfulStep contents s a)
    {published} (hpublished : s.published a = some published) :
    published.pending.version.defined ∧ published.pending.content =
      contents published.pending.object published.pending.version published.offset
        published.length := by
  cases a
  case publishCommit index =>
    obtain ⟨frame, hready, hrest⟩ := Option.bind_eq_some_iff.mp hpublished
    obtain ⟨object, htarget, hrest⟩ := Option.bind_eq_some_iff.mp hrest
    obtain ⟨region, hregion, rfl⟩ := Option.map_eq_some_iff.mp hrest
    obtain ⟨source, hsource, -, howner⟩ :=
      h.catalogued.frames frame (List.mem_of_getElem? (ready_mem hready).1)
    cases hregion.symm.trans hsource
    refine ⟨h.chained.version_defined hready htarget hok.counters.versions, ?_⟩
    rw [← howner]
    exact of_decide_eq_true hok.faithful frame hready region hregion (by simp [htarget])
  all_goals cases hpublished

lemma publications_faithful {s : Sys σ} {as} (h : Agreed contents s)
    (hrun : RunOk Sys.step (FaithfulStep contents) s as) : ∀ published ∈ s.publications as,
      published.pending.version.defined ∧ published.pending.content =
        contents published.pending.object published.pending.version published.offset
          published.length :=
  forall_mem_yields (fun _ _ hok h => h.next hok)
    (fun _ _ hok h _ hmem => h.published hok (Option.mem_toList.mp hmem)) h hrun

/-- **Current replicas agree on content**: in every state of a run that is faithful to some
contents, two current replicas of one extent have one fingerprint, and it is the one the
publication of their version carried for that extent. -/
theorem current_replicas_agree (contents : Contents) (config : EngineConfig) (store : Option σ)
    (as : List Action) (hstore : ∀ st, store = some st → (stored st).KeptWith contents)
    (hok : RunOk Sys.step (FaithfulStep contents) (Sys.boot config store) as) :
    ReplicasAgree ((Sys.boot config store).run as) ∧
      ∀ published ∈ (Sys.boot config store).publications as,
        CarriesContent ((Sys.boot config store).run as) published := by
  have hfinal := run_invariant (fun _ _ hok h => h.next hok) (Agreed.boot hstore) hok
  refine ⟨hfinal.replicasAgree, fun published hmem key region hregion hstate howner hextent
    object hobject hversion => ?_⟩
  obtain ⟨hdefined, hcarried⟩ := publications_faithful (Agreed.boot hstore) hok published hmem
  have hcontent := (hfinal.content key region hregion hstate).2 object hobject (hversion ▸ hdefined)
  rw [hcontent, hcarried, hversion]
  unfold Contents.of
  rw [howner, hextent.1, hextent.2]

end Run

theorem current_replicas_agree_synced :
    let as := Duo.planned ++ [Duo.complete (Duo.context 1) Duo.content]
    (Duo.start.run as).engine.regions.toList.map (fun entry => entry.2.state) =
        [.current, .current] ∧
      (Duo.start.publications as).length = 1 ∧ ReplicasAgree (Duo.start.run as) ∧
      ∀ published ∈ Duo.start.publications as, CarriesContent (Duo.start.run as) published := by
  intro as
  refine ⟨by decide +kernel, by decide +kernel,
    current_replicas_agree (fun _ _ _ _ => Duo.content) {} (some ({} : LogStore)) as ?_ ?_⟩
  · rintro st ⟨⟩
    exact ⟨by decide +kernel, all_empty⟩
  · decide +kernel

def Duo.observeOther : Action :=
  .revalidateRegion
    { context := Duo.context 2, region := ⟨2⟩, observedVersion := ⟨1⟩,
      content := { length := 2, defined := true } }

/-- The word of an observation is taken at the published version, and a synchronization that was
planned from an observation is completed at the version published since. -/
theorem current_replicas_differ :
    let observed := Duo.publishedOnce ++ [Duo.observeOther]
    let overtaken := Duo.enrol ++ [Duo.observeOther,
      .acquireWrite { context := Duo.context 2, region := ⟨2⟩ },
      .beginSync { context := Duo.context 1, destinationRegion := ⟨1⟩, sourceRegion := ⟨2⟩ }] ++
      Duo.publishFrom (Duo.context 2) 2 0 2 ++
      [Duo.complete (Duo.context 1) { length := 2, defined := true }]
    ∀ as ∈ [observed, overtaken],
      RunOk Sys.step (fun s a => CountersLast s a ∧ Fingerprinted s) Duo.start as ∧
        ¬ ReplicasAgree (Duo.start.run as) := by
  decide +kernel

end CoherenceFabric
