import CoherenceFabric.Properties.SyncCompletion

/-!
The table of legal replica transitions, and the writes that do not follow it.

Only `mark_dirty` asks `is_legal_coherence_transition`. Fences, retirements, explicit
invalidations and the loss of currentness at a commit follow the table by what they write; the
synchronization calls write to a replica in any state, and so does every call that can reach a
fenced replica.
-/

namespace CoherenceFabric

open FiniteMap Transition CoherenceState

variable {σ : Type} {region region' : RegionRecord} {e' e : Impl σ} {key : RegionId}

namespace CoherenceState

variable {state : CoherenceState}

lemma legal_retired : isLegalCoherenceTransition state .retired = true := by
  cases state <;> decide

lemma legal_fenced (h : state ≠ .retired) : isLegalCoherenceTransition state .fenced = true := by
  revert h
  cases state <;> decide

lemma legal_invalid (h : state ≠ .retired) : isLegalCoherenceTransition state .invalid = true := by
  revert h
  cases state <;> decide

lemma legal_stale (h : state ≠ .retired) (hfenced : state ≠ .fenced) :
    isLegalCoherenceTransition state .stale = true := by
  revert h hfenced
  cases state <;> decide

lemma legal_current (h : state ≠ .retired) (hfenced : state ≠ .fenced) :
    isLegalCoherenceTransition state .current = true := by
  revert h hfenced
  cases state <;> decide

lemma legal_revalidationRequired (h : state ≠ .retired) (hdirty : state ≠ .dirty) :
    isLegalCoherenceTransition state .revalidationRequired = true := by
  revert h hdirty
  cases state <;> decide

lemma legal_syncRequired (h : state ≠ .retired) (hfenced : state ≠ .fenced)
    (hcurrent : state ≠ .current) (hdirty : state ≠ .dirty) :
    isLegalCoherenceTransition state .syncRequired = true := by
  revert h hfenced hcurrent hdirty
  cases state <;> decide

end CoherenceState

/-! ### The condition -/

/-- The report that no bytes were moved counts. -/
def Impl.Unmoved (e : Impl σ) (request : SyncCompleteRequest) (object : ObjectRecord)
    (record : SyncRecord) : Prop :=
  object.authoritativeVersion = record.sourceVersion ∧ e.ChecksContent object record ∧
    request.contentMoved = false

/-- The observed content counts, and is not the one of the plan. -/
def Impl.Mismatched (e : Impl σ) (request : SyncCompleteRequest) (object : ObjectRecord)
    (record : SyncRecord) : Prop :=
  object.authoritativeVersion = record.sourceVersion ∧ e.ChecksContent object record ∧
    request.contentMoved = true ∧ request.observedContent.same record.expectedContent = false

/-- A replica in this state may hear the completion report. -/
@[mk_iff]
structure CoherenceState.Hears (state : CoherenceState) (e : Impl σ)
    (request : SyncCompleteRequest) (object : ObjectRecord) (record : SyncRecord) : Prop where
  fenced : state = .fenced → e.Mismatched request object record
  current : state = .current → ¬ e.Unmoved request object record
  dirty : state = .dirty → ¬ e.Unmoved request object record ∧ ¬ e.Mismatched request object record

/-- No call writes a state that the table does not allow for its replica. -/
def Lawful (s : Sys σ) : Action → Prop
  | .beginSync request =>
    ∀ region ∈ s.engine.regions[request.destinationRegion]?,
      region.state ≠ .current ∧ region.state ≠ .dirty
  | .completeSync request =>
    ∀ record ∈ s.engine.syncs[request.operation]?,
      ∀ object ∈ s.engine.objects[request.context.object]?,
        ∀ region ∈ s.engine.regions[record.destinationRegion]?,
          region.state.Hears s.engine request object record
  | .failSync request =>
    ∀ record ∈ s.engine.syncs[request.operation]?,
      ∀ region ∈ s.engine.regions[record.destinationRegion]?,
        (request.outcomeUnknown = true →
          region.state ≠ .current ∧ region.state ≠ .dirty ∧ region.state ≠ .fenced) ∧
        (request.outcomeUnknown = false → request.cause = .contentMismatch →
          region.state ≠ .dirty)
  | .acknowledgeInvalidation ack =>
    ∀ record ∈ s.engine.invalidations[ack.invalidation]?,
      ∀ region ∈ s.engine.regions[record.region]?,
        region.state = .fenced → region.version.defined = false
  | .revalidateRegion request =>
    ∀ region ∈ s.engine.regions[request.region]?, region.state ≠ .fenced
  | .publishCommit index =>
    ∀ frame ∈ s.frames[index]?, ∀ region ∈ s.engine.regions[frame.region]?,
      region.state ≠ .fenced
  | .release request =>
    ∀ object ∈ s.engine.objects[request.context.object]?, ∀ id ∈ object.replicas,
      ∀ region ∈ s.engine.regions[id]?,
        region.state = .fenced → region.dirty ≠ .dirtyUnpublished
  | _ => True

instance (e : Impl σ) (object : ObjectRecord) (record : SyncRecord) :
    Decidable (e.ChecksContent object record) :=
  inferInstanceAs (Decidable (_ ∧ _))

instance (state : CoherenceState) (e : Impl σ) (request : SyncCompleteRequest)
    (object : ObjectRecord) (record : SyncRecord) :
    Decidable (state.Hears e request object record) :=
  have _ : Decidable (e.Unmoved request object record) := inferInstanceAs (Decidable (_ ∧ _))
  have _ : Decidable (e.Mismatched request object record) := inferInstanceAs (Decidable (_ ∧ _))
  decidable_of_iff' _ (state.hears_iff e request object record)

instance (s : Sys σ) (a : Action) : Decidable (Lawful s a) := by
  apply Action.casesOn (motive := fun a => Decidable (Lawful s a)) a <;> intros <;>
    dsimp only [Lawful] <;> infer_instance

/-! ### One step -/

/-- Every replica that was not retired moves as the table allows. -/
def Impl.MovesLegally (e e' : Impl σ) : Prop :=
  ∀ (key : RegionId) (region region' : RegionRecord), e.regions[key]? = some region →
    e'.regions[key]? = some region' → region.state ≠ .retired →
      isLegalCoherenceTransition region.state region'.state = true

lemma Impl.MovesLegally.of_insert {id} (hfound : e.regions[id]? = some region)
    (hwrites : e'.regions = e.regions.insert id region') (hlegal : region.state ≠ .retired →
      isLegalCoherenceTransition region.state region'.state = true) : e.MovesLegally e' := by
  intro key before after hbefore hafter hlive
  rw [hwrites] at hafter
  rcases insert_cases hafter with ⟨rfl, rfl⟩ | ⟨-, hold⟩
  · cases hfound.symm.trans hbefore
    exact hlegal hlive
  · cases hbefore.symm.trans hold
    simp [isLegalCoherenceTransition]

lemma Impl.MovesLegally.states (h : e.MovesLegally e') {before after}
    (hbefore : (e.regions[key]?).map (·.state) = some before)
    (hafter : (e'.regions[key]?).map (·.state) = some after) (hlive : before ≠ .retired) :
    isLegalCoherenceTransition before after = true := by
  obtain ⟨region, hfound, rfl⟩ := Option.map_eq_some_iff.mp hbefore
  obtain ⟨region', hfound', rfl⟩ := Option.map_eq_some_iff.mp hafter
  exact h key region region' hfound hfound' hlive

section Step

variable [DurableStore σ] {s : Sys σ}

lemma completeSync_movesLegally {request} (hlawful : Lawful s (.completeSync request)) :
    s.engine.MovesLegally (s.engine.completeSync request).2 := by
  have hhears {record : SyncRecord} {object : ObjectRecord} {participant : ParticipantRecord}
      {destination : RegionRecord}
      (reports : Reports s.engine request record object participant destination) :
      destination.state.Hears s.engine request object record :=
    hlawful record reports.planned object (resolveLocked_found reports.granted)
      destination reports.found
  cases completeSync_effect s.engine request with
  | kept same =>
    intro key region region' hbefore hafter _
    rw [same] at hafter
    cases hbefore.symm.trans hafter
    simp [isLegalCoherenceTransition]
  | stale reports superseded writes =>
    obtain ⟨note, seq, hregions⟩ := writes
    refine .of_insert reports.found hregions fun hlive => ?_
    exact legal_stale hlive fun hfenced =>
      superseded ((hhears reports).fenced hfenced).1
  | unmoved reports version checks idle writes =>
    obtain ⟨note, seq, hregions⟩ := writes
    refine .of_insert reports.found hregions fun hlive => ?_
    have hunmoved : s.engine.Unmoved request _ _ := ⟨version, checks, idle⟩
    refine legal_syncRequired hlive (fun hfenced => ?_)
      (fun hcurrent => (hhears reports).current hcurrent hunmoved)
      fun hdirty => ((hhears reports).dirty hdirty).1 hunmoved
    cases idle.symm.trans ((hhears reports).fenced hfenced).2.2.1
  | mismatch reports version checks moved differs writes =>
    obtain ⟨note, seq, hregions⟩ := writes
    refine .of_insert reports.found hregions fun hlive => ?_
    exact legal_revalidationRequired hlive fun hdirty =>
      ((hhears reports).dirty hdirty).2 ⟨version, checks, moved, differs⟩
  | current reports version content writes =>
    obtain ⟨region, hcurrent, -, hregions, -⟩ := writes
    refine .of_insert reports.found hregions fun hlive => ?_
    rw [hcurrent]
    refine legal_current hlive fun hfenced => ?_
    have hmismatched := (hhears reports).fenced hfenced
    cases hmismatched.2.2.2.symm.trans (content hmismatched.2.1).2

end Step

section Change

variable {s : Sys σ} {a : Action}

lemma isLegalCoherenceTransition_same (state : CoherenceState) :
    isLegalCoherenceTransition state state = true := by
  simp [isLegalCoherenceTransition]

lemma legal_invalidate {id seq} (hlive : region.state ≠ .retired)
    (hversion : region.state = .fenced → region.version.defined = false) :
    isLegalCoherenceTransition region.state (region.invalidate id seq).state = true := by
  unfold RegionRecord.invalidate
  split
  · rename_i hdefined
    refine legal_stale hlive fun hfenced => ?_
    cases hdefined.symm.trans (hversion hfenced)
  · exact legal_invalid hlive

lemma RegionChange.movesLegally (h : RegionChange s a key region region')
    (hfound : s.engine.regions[key]? = some region) (hlive : region.state ≠ .retired)
    (hsync : ∀ request, a ≠ .completeSync request) (hlawful : Lawful s a) :
    isLegalCoherenceTransition region.state region'.state = true := by
  cases h with
  | fence => exact legal_fenced hlive
  | markDirty granted allowed =>
    rcases (markDirtyRefusal_ok allowed).2.2.2.1 with hstate | hstate <;> rw [hstate] <;> rfl
  | @publish _ frame _ _ _ ready target =>
    have hframe := Option.filter_eq_some_iff.mp ready
    exact legal_current hlive (hlawful frame hframe.1 region hfound)
  | supersede _ _ _ current =>
    rw [current]
    rfl
  | @release _ object _ _ _ _ granted _ _ listed dirty =>
    refine legal_stale hlive fun hfenced => ?_
    exact hlawful object (resolveLocked_found granted) key listed region hfound hfenced dirty
  | invalidateNow issues settled =>
    exact legal_invalidate hlive fun hfenced => absurd (.inr (.inr hfenced)) issues.live
  | same | transfer | invalidateLater => exact isLegalCoherenceTransition_same _
  | acknowledge acknowledges agrees =>
    exact legal_invalidate hlive (hlawful _ acknowledges.issued _ hfound)
  | requestSync granted allowed =>
    obtain ⟨hcurrent, hdirty⟩ := hlawful _ hfound
    unfold RegionRecord.requestSync
    dsimp only
    revert hlive hcurrent hdirty
    cases region.state <;> decide
  | completeSync => exact absurd rfl (hsync _)
  | failSync fails =>
    obtain ⟨hunknown, hmismatch⟩ := hlawful _ fails.planned _ hfound
    unfold RegionRecord.refuseSync Impl.failedDestination
    split
    · rename_i hoption
      obtain ⟨hcurrent, hdirty, hfenced⟩ := hunknown hoption
      exact legal_syncRequired hlive hfenced hcurrent hdirty
    rename_i hoption
    split
    · rename_i hcause
      exact legal_revalidationRequired hlive
        (hmismatch (by simpa using hoption) hcause)
    · exact legal_invalid hlive
  | @revalidate request object participant _ _ granted allowed =>
    have hfenced := hlawful _ hfound
    unfold RegionRecord.revalidate
    dsimp only
    split
    · exact legal_current hlive hfenced
    · exact legal_stale hlive hfenced
  | rejoin | retire | retireObject => exact legal_retired

end Change

section Run

variable [ReplayStore σ] {s : Sys σ} {a : Action}

theorem Lawful.movesLegally (hlawful : Lawful s a) (hkeyed : LiveKeyed s)
    (ha : a.Runs) : s.engine.MovesLegally (s.step a).engine := by
  by_cases hsync : ∃ request, a = .completeSync request
  · obtain ⟨request, rfl⟩ := hsync
    exact completeSync_movesLegally hlawful
  · intro key region region' hbefore hafter hlive
    obtain ⟨region'', hfound, hchange⟩ := (step_changes hkeyed ha).regions.forward hbefore
    cases hfound.symm.trans hafter
    exact hchange.movesLegally hbefore hlive (not_exists.mp hsync) hlawful

/-- Every step other than a restart moves the replicas as the table allows. -/
def LegalStep (s : Sys σ) (a : Action) : Prop :=
  (∀ config, a ≠ .restart config) → s.engine.MovesLegally (s.step a).engine

/-- In every run whose calls meet the condition, every change of the state of a replica that is
not retired is one that the table allows. -/
theorem transitions_legal (config : EngineConfig) (store : Option σ) (as : List Action)
    (hrun : RunOk Sys.step Lawful (Sys.boot config store) as) :
    RunOk Sys.step LegalStep (Sys.boot config store) as :=
  runOk_of_invariant (fun _ _ _ h => h.step)
    (fun _ _ hlawful hkeyed ha => hlawful.movesLegally hkeyed ha) LiveKeyed.boot hrun

end Run

theorem transitions_legal_synchronized : RunOk Sys.step LegalStep Duo.start
      (Duo.planned ++ [Duo.complete (Duo.context 1) Duo.content]) := by
  have hlawful : RunOk Sys.step Lawful Duo.start
      (Duo.planned ++ [Duo.complete (Duo.context 1) Duo.content]) := by
    decide +kernel
  exact transitions_legal {} (some ({} : LogStore)) _ hlawful

def Duo.syncFirst : Action :=
  .beginSync { context := context 1, destinationRegion := ⟨1⟩, sourceRegion := ⟨2⟩ }

/-- A synchronization is planned for a replica that is current. -/
theorem current_replica_must_sync :
    let s := Duo.start.run (Duo.enrol ++ [Duo.observe 1, Duo.observe 2])
    ¬ LegalStep s Duo.syncFirst := by
  intro s h
  have hbefore : (s.engine.regions[(⟨1⟩ : RegionId)]?).map (·.state) = some .current := by
    decide +kernel
  have hafter : ((s.step Duo.syncFirst).engine.regions[(⟨1⟩ : RegionId)]?).map (·.state) =
      some .syncRequired := by
    decide +kernel
  have hlegal := (h (by simp [Duo.syncFirst])).states hbefore hafter (by decide)
  revert hlegal
  decide

end CoherenceFabric
