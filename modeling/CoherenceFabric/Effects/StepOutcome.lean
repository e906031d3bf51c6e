import CoherenceFabric.Effects.Outcome

/-!
Every step of the system other than a restart ends in one of the ways of `Effects.Outcome`.
-/

namespace CoherenceFabric

open FiniteMap Impl

variable {σ : Type} [DurableStore σ] {s : Sys σ} {e : Impl σ} {a : Action}
  {participant : ParticipantRecord} {object : ObjectRecord} {createLease healthy : Bool}
  {frame : PublishFrame}

/-- What an engine state leaves of a step. -/
abbrev Ends (s : Sys σ) (a : Action) (e : Impl σ) : Prop := Outcome s a e.storeHealthy e.ledger

omit [DurableStore σ] in
/-- Records that are not in the ledger may change. -/
lemma Ends.idle (h : e.ledger = s.engine.ledger) : Ends s a e := by
  unfold Ends
  rw [h]
  exact .idle

omit [DurableStore σ] in
/-- The journal refused the step's group. -/
lemma Ends.failed (hfailed : e.storeHealthy = false) (h : Outcome s a false e.ledger) :
    Ends s a e := by
  unfold Ends
  rwa [hfailed]

omit [DurableStore σ] in
@[simp] lemma ends_recordDecision {kind context code summary} :
    Ends s a (e.recordDecision kind context code summary) ↔ Ends s a e := by
  simp [Ends]

omit [DurableStore σ] in
/-- The decision is recorded unless the journal refused the step's group. -/
lemma Ends.reported {α : Type} {c : Prop} [Decidable c] {x y : α} {kind context code summary}
    (h : Ends s a e) :
    Ends s a (if c then (x, e) else (y, e.recordDecision kind context code summary)).2 := by
  split
  · exact h
  · rwa [ends_recordDecision]

/-! ### Appends that fail -/

omit [DurableStore σ] in
lemma journal_refused {p : Persistence σ} {store entries write}
    (h : (p.journal store entries write).1.isOk = false) :
    (p.journal store entries write).2.storeHealthy = false := by
  unfold Persistence.journal at h ⊢
  dsimp only at h ⊢
  split at h
  · rw [if_pos ‹_›]
  · rw [if_neg ‹_›]
    simp only [h, Bool.and_false]

lemma appendLocked_refused {payload : JournalPayload}
    (h : (!(e.appendLocked payload).1.isOk) = true) :
    (e.appendLocked payload).2.storeHealthy = false := by
  unfold appendLocked Persistence.append at h ⊢
  cases hstore : e.store with
  | none => simp [hstore] at h
  | some store =>
    simp only [hstore, Bool.not_eq_true'] at h ⊢
    split at h
    · cases h
    · rw [if_neg ‹_›]
      exact journal_refused h

lemma appendManyLocked_refused {payloads : List JournalPayload}
    (h : (!(e.appendManyLocked payloads).1.isOk) = true) :
    (e.appendManyLocked payloads).2.storeHealthy = false := by
  unfold appendManyLocked Persistence.appendMany at h ⊢
  cases hstore : e.store with
  | none => simp [hstore] at h
  | some store =>
    simp only [hstore, Bool.not_eq_true'] at h ⊢
    split at h
    · cases h
    · rw [if_neg ‹_›]
      exact journal_refused h

/-! ### Participants -/

lemma createDomain_ends (name : Text) :
    Ends s (.createDomain name) (s.engine.createDomain name).2 := by
  unfold createDomain
  split
  · exact .idle rfl
  · dsimp only
    split <;> exact .idle rfl

lemma foldl_releaseRegion_ledger (regions : List RegionRecord) : ∀ e : Impl σ,
    (regions.foldl (fun s region =>
      (s.releaseRegionNameLocked region).upsertDurableRegionLocked region) e).ledger =
        e.ledger := by
  induction regions with
  | nil => exact fun _ => rfl
  | cons region rest ih =>
    intro e
    refine (ih _).trans ?_
    unfold upsertDurableRegionLocked releaseRegionNameLocked
    dsimp only
    split <;> rfl

lemma registerParticipant_ends (name : Text) (boot : ParticipantBootId)
    (epoch : CoordinatorEpoch) (label : Text) : Ends s (.registerParticipant name boot epoch label)
      (s.engine.registerParticipant name boot epoch label).2 := by
  have hadmitted : ∀ (e : Impl σ) (record : ParticipantRecord),
      (e.admitParticipant record).2.ledger = e.ledger := by
    intro e record
    unfold admitParticipant
    dsimp only
    split <;> rfl
  unfold registerParticipant
  split
  · exact .idle rfl
  split
  · rename_i id hid
    dsimp only
    split
    · refine .idle ?_
      unfold upsertDurableParticipantLocked
      simp [Records.setParticipant, Records.ledger]
    split
    · exact .idle rfl
    rename_i hdiffers _
    unfold Ends
    rw [hadmitted]
    unfold retireSupersededRegions
    rw [foldl_releaseRegion_ledger]
    exact .rejoin hid rfl hdiffers
  · unfold Ends
    rw [hadmitted]
    exact .idle

lemma markSessionClosed_ends (id : ParticipantId) (boot : ParticipantBootId) :
    Ends s (.markSessionClosed id boot) (s.engine.markSessionClosed id boot).2 := by
  unfold markSessionClosed
  split
  · exact .idle rfl
  split
  · exact .idle rfl
  · refine .idle ?_
    unfold upsertDurableParticipantLocked
    simp [Records.setParticipant, Records.ledger]

lemma fenceParticipant_cutsOff {id epoch} (reason : Text)
    (current : epoch = e.epoch) (known : e.participants[id]? = some participant)
    (live : participant.lifecycle ≠ .retired) : ∃ stage : Impl σ, stage.ledger =
        { objects := e.objects.map fun _ object => object.cutOff id participant.boot
            (e.dirtyLossPolicyOf object) e.tick.sequence
          regions := e.regions.map fun _ region =>
            region.cutOff id participant.boot reason e.tick.sequence
          invalidations := e.invalidations.map fun _ record =>
            record.cutOff id participant.boot e.tick.sequence
          syncs := e.syncs.map fun _ sync => sync.cutOff id participant.boot e.tick.sequence } ∧
      (e.fenceParticipant id epoch reason).2.ledger =
        { stage.ledger with
          objects := stage.objects.map fun _ object => stage.recomputeAuthorityLocked object } ∧
      (e.fenceParticipant id epoch reason).2.participants =
        e.participants.insert id (participant.fence reason epoch) := by
  have hparticipants : ((e.tick.withRecords (e.tick.fenceRecords id participant.boot
      reason)).releaseReadsForParticipantLocked id participant.boot).participants =
        e.participants := by
    unfold releaseReadsForParticipantLocked
    rw [foldl_upsertDurableObjectLocked_toRecords]
    rfl
  refine ⟨(e.tick.withRecords (e.tick.fenceRecords id participant.boot
    reason)).releaseReadsForParticipantLocked id participant.boot, ?_, ?_⟩
  · unfold releaseReadsForParticipantLocked
    rw [foldl_upsertDurableObjectLocked_toRecords]
    simp only [Records.ledger, withRecords_toRecords, fenceRecords,
      Std.ExtTreeMap.map_map]
    rfl
  unfold fenceParticipant
  rw [known]
  dsimp only
  rw [if_neg (not_not.mpr current), if_neg live, ← hparticipants]
  split <;> exact ⟨rfl, rfl⟩

lemma fenceParticipant_ends (id : ParticipantId) (epoch : CoordinatorEpoch) (reason : Text) :
    Ends s (.fenceParticipant id epoch reason) (s.engine.fenceParticipant id epoch reason).2 := by
  cases known : s.engine.participants[id]? with
  | none =>
    refine .idle ?_
    unfold fenceParticipant
    rw [known]
  | some participant =>
    by_cases hrefused : epoch ≠ s.engine.epoch ∨ participant.lifecycle = .retired
    · refine .idle ?_
      unfold fenceParticipant
      rw [known]
      dsimp only
      rcases hrefused with hepoch | hretired
      · rw [if_pos hepoch]
      · rw [if_pos hretired]
        split <;> rfl
    obtain ⟨hcurrent, hlive⟩ := not_or.mp hrefused
    obtain ⟨stage, hstage, hledger, -⟩ :=
      fenceParticipant_cutsOff reason (not_not.mp hcurrent) known hlive
    unfold Ends
    rw [hledger]
    exact .fence stage (not_not.mp hcurrent) known hlive hstage

/-! ### Objects, policies and replicas -/

lemma registerObject_ends (domain : CoherenceDomainId) (name : Text) (length : UInt64)
    (policy : CoherencePolicy) : Ends s (.registerObject domain name length policy)
      (s.engine.registerObject domain name length policy).2 := by
  unfold registerObject
  split
  · exact .idle rfl
  rename_i hallowed
  dsimp only
  split
  · exact .idle rfl
  · exact Outcome.registerObject hallowed

lemma setPolicy_ends (id : ObjectId) (generation : ObjectGeneration)
    (expected : PolicyGeneration) (next : CoherencePolicy) :
    Ends s (.setPolicy id generation expected next)
      (s.engine.setPolicy id generation expected next).2 := by
  unfold setPolicy
  split
  · exact .idle rfl
  rename_i object hallowed
  dsimp only
  split
  · exact Outcome.setPolicy hallowed
  · rw [ends_recordDecision]
    exact Outcome.setPolicy hallowed

lemma registerRegion_ends (registration : RegionRegistration) :
    Ends s (.registerRegion registration) (s.engine.registerRegion registration).2 := by
  unfold registerRegion
  split
  · exact .idle rfl
  rename_i object participant hallowed
  dsimp only
  split
  · exact .idle rfl
  unfold enrolRegion
  dsimp only
  split
  · rename_i hrefused
    exact .failed (appendManyLocked_refused hrefused) (.enrolFailed hallowed)
  · exact Outcome.enrol hallowed

lemma retireRegion_ends (id : RegionId) (generation : RegionGeneration)
    (epoch : CoordinatorEpoch) : Ends s (.retireRegion id generation epoch)
      (s.engine.retireRegion id generation epoch).2 := by
  unfold retireRegion
  split
  · exact .idle rfl
  rename_i region hallowed
  dsimp only
  set retired := region.retireSettled s.engine.tick.sequence
  set named := (s.engine.tick.setRegion id retired).releaseRegionNameLocked retired with hdef
  have hnamed : named.ledger = s.engine.ledger.setRegion id retired := by
    rw [hdef]
    unfold releaseRegionNameLocked
    dsimp only
    split <;> rfl
  have hobjects : named.objects = s.engine.objects := congrArg Ledger.objects hnamed
  suffices h : ∀ healthy, Outcome s (.retireRegion id generation epoch) healthy
      (named.releaseRegionReads retired).ledger by
    split <;> exact h _
  intro healthy
  unfold releaseRegionReads
  split
  · rename_i habsent
    rw [hobjects] at habsent
    rw [hnamed]
    exact .retireOrphan hallowed habsent
  rename_i object hfound
  rw [hobjects] at hfound
  unfold upsertDurableObjectLocked
  have hstage : (named.setObject region.object (object.releaseReads fun grant =>
      grant.region == region.id)).ledger = (s.engine.ledger.setRegion id retired).setObject
        region.object (object.releaseReads fun grant => grant.region == region.id) := by
    rw [← hnamed]
    rfl
  exact @Outcome.retireRegion _ s healthy id generation epoch region object _ _ hallowed hfound
    hstage

/-! ### Reads -/

omit [DurableStore σ] in
lemma decideRead_ends {request id}
    (hreads : a = .acquireRead request ∨ a = .explainRead request)
    (hlease : createLease = true → a = .acquireRead request)
    (hgranted : s.engine.resolveLocked request.context = .granted object participant)
    (he : e.ledger = s.engine.ledger.setObject request.context.object
      { object with preferredCurrentReplica := id }) (policy : CoherencePolicy)
    {selected : RegionId} {region}
    (hfound : s.engine.regions[selected]? = some region) (hbelongs : region.object = object.id)
    (decision : ReadDecision) :
    Outcome s a healthy (e.decideRead request { object with preferredCurrentReplica := id }
      policy region createLease decision).2.ledger := by
  have hprefer : ∀ id, Outcome s a healthy (s.engine.ledger.setObject request.context.object
      { object with preferredCurrentReplica := id }) := fun id =>
    @Outcome.prefer _ s healthy a object participant id request hreads hgranted
  have hidle := he ▸ hprefer id
  unfold decideRead
  dsimp only
  split
  · exact hidle
  split
  · split
    · exact hidle
    rename_i hcurrent hcreate
    have hstate : region.state = .current := by
      simp only [CoherenceState.isCurrent, Bool.and_eq_true, beq_iff_eq] at hcurrent
      exact hcurrent.1.1
    obtain rfl := hlease (by simpa using hcreate)
    change Outcome s _ healthy (e.ledger.setObject _ _)
    rw [he, Ledger.setObject_setObject]
    exact @Outcome.grantRead _ s healthy request object participant id region _ selected e.tick
      hgranted hfound hbelongs hstate
  repeat' split
  all_goals try exact hidle
  obtain ⟨source, hsource⟩ := recoverableSource_object
    { object with preferredCurrentReplica := id } region
  rw [hsource]
  change Outcome s _ healthy (e.ledger.setObject _ _)
  rw [he, Ledger.setObject_setObject]
  exact hprefer source

omit [DurableStore σ] in
lemma computeReadLocked_ends {request : ReadRequest}
    (hreads : a = .acquireRead request ∨ a = .explainRead request)
    (hlease : createLease = true → a = .acquireRead request) :
    Outcome s a healthy (s.engine.computeReadLocked request createLease).2.ledger := by
  have hidle : Outcome s a healthy s.engine.ledger := .idle
  unfold computeReadLocked
  dsimp only
  split
  · simpa using hidle
  rename_i object participant hgranted
  split
  · simpa using hidle
  split
  · simpa using hidle
  obtain ⟨id, hid⟩ := selectReadRegionLocked_object object
    request.region
  rw [hid]
  have hprefer : Outcome s a healthy (s.engine.ledger.setObject request.context.object
    { object with preferredCurrentReplica := id }) :=
      @Outcome.prefer _ s healthy a object participant id request hreads hgranted
  split
  · rw [recordDecision_toRecords]
    exact hprefer
  split
  · rw [recordDecision_toRecords]
    exact hprefer
  split
  · rw [recordDecision_toRecords]
    exact hprefer
  · rename_i hregion
    obtain ⟨hfound, hbelongs⟩ := resolveRegionLocked_ok hregion
    rw [recordDecision_toRecords]
    exact decideRead_ends hreads hlease hgranted rfl _ hfound hbelongs _

lemma acquireRead_ends (request : ReadRequest) :
    Ends s (.acquireRead request) (s.engine.acquireRead request).2 := by
  unfold Ends acquireRead
  dsimp only
  split
  · rw [maybeCompactLocked_toRecords]
    exact computeReadLocked_ends (.inl rfl) fun _ => rfl
  · exact computeReadLocked_ends (.inl rfl) fun _ => rfl

omit [DurableStore σ] in
lemma explainRead_ends (request : ReadRequest) :
    Ends s (.explainRead request) (s.engine.explainRead request).2 :=
  computeReadLocked_ends (.inr rfl) nofun

/-! ### Writes -/

section Write

variable {request : WriteRequest} {object : ObjectRecord} {participant : ParticipantRecord}

lemma transferWrite_ends (htransfers : Transfers s request object participant)
    (context : DecisionContext) (replica : RegionId) (grant : WriteGrant) :
    Ends s (.acquireWrite request) (s.engine.takeDecisionId.transferWrite request.context context
      object participant.boot (s.engine.conflictingRegions object replica) grant).2 := by
  unfold transferWrite
  dsimp only
  split
  · rename_i hrefused
    refine .failed (appendManyLocked_refused hrefused) ?_
    change Outcome s _ false ((s.engine.ledger.setObject _ _).setObject _ _)
    rw [Ledger.setObject_setObject]
    exact .transferFailed htransfers
  · rw [ends_recordDecision]
    exact Outcome.transfer s.engine.takeDecisionId.tick htransfers rfl rfl _ rfl

lemma resumeTransfer_ends
    (hgranted : s.engine.resolveLocked request.context = .granted object participant)
    (hpending : object.authority = .transferPending) (context : DecisionContext)
    (grant : WriteGrant) : Ends s (.acquireWrite request)
      (s.engine.takeDecisionId.resumeTransfer request.context context object grant).2 := by
  unfold resumeTransfer
  split
  · rw [ends_recordDecision]
    exact .idle rfl
  · rename_i hsettled
    exact .reported (Outcome.promote hgranted hpending (by simpa using hsettled))

lemma acquireWriteAuthority_ends
    (hgranted : s.engine.resolveLocked request.context = .granted object participant)
    {policy} (hallowed : writeRefusal policy object = none)
    (context : DecisionContext) (region : Option RegionRecord) (grant : WriteGrant) :
    Ends s (.acquireWrite request) (s.engine.takeDecisionId.acquireWriteAuthority request context
      policy object participant region grant).2 := by
  have hidle : Ends s (.acquireWrite request) s.engine.takeDecisionId := .idle rfl
  obtain ⟨hsettled, hclean⟩ := writeRefusal_none hallowed
  unfold acquireWriteAuthority
  dsimp only
  split
  · simpa using hidle
  split
  · split
    · exact resumeTransfer_ends hgranted ‹_› _ _
    · simpa using hidle
  rename_i hpending
  split
  · simpa using hidle
  rename_i hexclusive
  split
  · simpa using hidle
  split
  · simpa using hidle
  · exact transferWrite_ends ⟨hgranted, ⟨hexclusive, hpending⟩, hsettled, hclean⟩ _ _ _

lemma acquireWrite_ends (request : WriteRequest) :
    Ends s (.acquireWrite request) (s.engine.acquireWrite request).2 := by
  have hidle : Ends s (.acquireWrite request) s.engine.takeDecisionId := .idle rfl
  unfold acquireWrite
  dsimp only
  split
  · simpa using hidle
  rename_i object participant hgranted
  split
  · exact hidle
  split
  · simpa using hidle
  rename_i hallowed
  split
  · simpa using hidle
  · exact acquireWriteAuthority_ends hgranted hallowed _ _ _
  · split
    · simpa using hidle
    · exact acquireWriteAuthority_ends hgranted hallowed _ _ _

end Write

lemma markDirty_ends (request : DirtyRequest) :
    Ends s (.markDirty request) (s.engine.markDirty request).2 := by
  unfold markDirty
  dsimp only
  split
  · rw [ends_recordDecision]
    exact .idle rfl
  rename_i object participant hgranted
  split
  · rw [ends_recordDecision]
    exact .idle rfl
  rename_i region hallowed
  exact .reported (Outcome.markDirty hgranted hallowed)

/-! ### Publication -/

omit [DurableStore σ] in
lemma publishReserve_ends (request : PublishRequest) :
    Ends s (.publishReserve request) (s.engine.publishReserve request).2 := by
  unfold publishReserve
  dsimp only
  split
  · rw [ends_recordDecision]
    exact .idle rfl
  rename_i object participant hgranted
  split
  · exact .idle rfl
  rename_i policy hpolicy
  split
  · rw [ends_recordDecision]
    exact .idle rfl
  split
  · rw [ends_recordDecision]
    exact .idle rfl
  · rename_i region hallowed
    exact Outcome.reserve ⟨hgranted, hpolicy, hallowed, rfl⟩ _ rfl

lemma publishAppend_ends (index : Nat) (frame : PublishFrame) :
    Ends s (.publishAppend index) (s.engine.publishAppend frame).2 := by
  unfold publishAppend
  repeat' split
  all_goals exact .idle rfl

/-- A loop over replicas that changes each of them in the same way, at most once. -/
lemma foldl_regions {β} {f} {I : β → Prop} (ledger : β → Ledger)
    {g : RegionId → RegionRecord → RegionRecord} (hI : ∀ b id, I b → I (f b id))
    (hf : ∀ b id, I b → ledger (f b id) =
      { ledger b with regions := (ledger b).regions.modify id (g id) })
    (hg : ∀ id region, g id (g id region) = g id region) (ids : List RegionId) {b} (hb : I b) :
    ledger (ids.foldl f b) =
      { ledger b with regions := (ledger b).regions.map fun key region =>
          if key ∈ ids then g key region else region } := by
  have hloop : ∀ b, I b → ledger (ids.foldl f b) =
      { ledger b with
        regions := ids.foldl (fun m id => m.modify id (g id)) (ledger b).regions } := by
    induction ids with
    | nil => exact fun _ _ => rfl
    | cons id rest ih =>
      intro b hb
      rw [List.foldl_cons, List.foldl_cons, ih _ (hI b id hb), hf b id hb]
  rw [hloop b hb, foldl_modify hg]

/-- What a commit makes of a replica the object lists. -/
def RegionRecord.passedBy (region : RegionRecord) (key except : RegionId) (version : VersionId) :
    RegionRecord :=
  if key ≠ except ∧ region.state = .current then region.superseded version else region

lemma RegionRecord.passedBy_passedBy (region : RegionRecord) (key except : RegionId)
    (version : VersionId) : (region.passedBy key except version).passedBy key except version =
      region.passedBy key except version := by
  unfold passedBy
  by_cases h : key ≠ except ∧ region.state = .current
  · simp [h, superseded]
  · simp [h]

lemma markRegionStale_ledger (version : VersionId) (except id : RegionId) :
    (markRegionStale version except e id).ledger =
      { e.ledger with regions := e.regions.modify id fun region =>
          region.passedBy id except version } := by
  unfold markRegionStale
  split
  · rename_i heq
    rw [modify_eq_self fun region _ => by simp [RegionRecord.passedBy, heq]]
    rfl
  rename_i hne
  split
  · rename_i habsent
    rw [modify_eq_self fun region hfound => by cases habsent.symm.trans hfound]
    rfl
  rename_i region hfound
  split
  · rename_i hcurrent
    have hpassed : region.superseded version = region.passedBy id except version := by
      simp [RegionRecord.passedBy, hne, hcurrent]
    rw [← insert_eq_modify (fun region => region.passedBy id except version) hfound,
      ← hpassed]
    rfl
  rename_i hcurrent
  rw [modify_eq_self fun region' hfound' => by
    cases hfound.symm.trans hfound'
    simp [RegionRecord.passedBy, hcurrent]]
  rfl

omit [DurableStore σ] in
lemma committing_ledger (frame : PublishFrame) (object : ObjectRecord) :
    (e.committing frame object).ledger =
      { e.ledger.setObject frame.pending.object (e.committedObject frame object) with
        regions := e.regions.modify frame.region fun region =>
          region.publish frame.pending frame.pending.ownershipGeneration ⟨e.nextEvidenceId⟩
            e.tick.sequence } := by
  unfold committing publishRegion
  split
  · rename_i habsent
    rw [modify_eq_self fun region hfound => by cases habsent.symm.trans hfound]
    rfl
  rename_i region hfound
  change e.regions[frame.region]? = some region at hfound
  rw [← insert_eq_modify (fun region => region.publish frame.pending
    frame.pending.ownershipGeneration ⟨e.nextEvidenceId⟩ e.tick.sequence) hfound]
  rfl

/-- The source replica and then every other replica of a committed publication. -/
lemma marked_ledger (hid : object.id = frame.pending.object) :
    (e.marked frame object).ledger =
      { e.ledger.setObject frame.pending.object (e.committedObject frame object) with
        regions := e.regions.map fun key region =>
          region.afterCommit key frame object.replicas ⟨e.nextEvidenceId⟩ e.tick.sequence } := by
  have hfound : (e.committing frame object).objects[object.id]? =
      some (e.committedObject frame object) := by
    rw [committing_objects, hid]
    exact getElem?_insert_self
  unfold marked markRegionsStaleLocked
  simp only [hfound]
  rw [foldl_regions (I := fun _ => True) (fun e : Impl σ => e.ledger) (fun _ _ h => h)
    (fun e id _ => markRegionStale_ledger ..) (fun _ _ => RegionRecord.passedBy_passedBy ..) _
    trivial, committing_ledger]
  simp only
  congr 1
  refine Std.ExtTreeMap.ext_getElem? fun key => ?_
  by_cases hkey : frame.region = key
  · subst hkey
    simp only [getElem?_map, Std.ExtTreeMap.getElem?_modify_self, Option.map_map]
    refine congrArg (Option.map · e.regions[frame.region]?) (funext fun region => ?_)
    simp [RegionRecord.afterCommit, RegionRecord.passedBy]
  simp only [getElem?_map, Std.ExtTreeMap.getElem?_modify,
    Std.LawfulEqOrd.compare_eq_iff_eq, hkey, if_false]
  refine congrArg (Option.map · e.regions[key]?) (funext fun region => ?_)
  have hkey' := Ne.symm hkey
  by_cases hmem : key ∈ object.replicas
  · simp [RegionRecord.afterCommit, RegionRecord.passedBy, committedObject,
      ObjectRecord.commit, hkey', hmem]
  · simp [RegionRecord.afterCommit, committedObject, ObjectRecord.commit, hkey', hmem]

omit [DurableStore σ] in
lemma settling_toCounters (frame : PublishFrame) :
    (e.settling frame).toCounters = e.toCounters := by
  unfold settling applyPending applyDurable
  dsimp only
  repeat' split
  all_goals rfl

lemma publishCommit_ends {index} (hkeyed : All (fun id object => object.id = id) s.engine.objects)
    (hready : s.ready index = some frame) :
    Ends s (.publishCommit index) (s.engine.publishCommit frame).2 := by
  have hcases := publishCommit_cases (e := s.engine) frame
  cases htarget : s.engine.commitTarget frame with
  | some object =>
    have hid := hkeyed _ _ (commitTarget_some htarget).2.1
    obtain ⟨context, rationale, heq⟩ :=
      commitPublication_engine (e := s.engine.settling frame) frame object
    rw [publishCommit_target htarget, heq]
    unfold Ends
    rw [maybeCompactLocked_toRecords, recordDecision_toRecords]
    change Outcome s _ _ ((s.engine.settling frame).marked frame object).ledger
    rw [marked_ledger hid, settling_toRecords, settling_toCounters]
    exact Outcome.commit hready htarget
  | none =>
    generalize (s.engine.publishCommit frame).2 = e' at hcases ⊢
    cases hcases with
    | missing absent => exact .idle rfl
    | failed found =>
      rw [ends_recordDecision]
      exact Outcome.abort hready found htarget
    | superseded found =>
      rw [ends_recordDecision]
      unfold Ends
      rw [clearPending_toRecords]
      change Outcome s _ _ ((s.engine.settling frame).ledger.setObject _ _)
      rw [settling_toRecords]
      exact Outcome.abort hready found htarget
    | committed target => cases htarget.symm.trans target

/-! ### Release -/

lemma releaseLease_ends {request}
    (hgranted : s.engine.resolveLocked request.context = .granted object participant)
    (outcome : ReleaseOutcome) : Ends s (.release request)
      (s.engine.takeDecisionId.releaseLease request object outcome).2 := by
  unfold releaseLease
  dsimp only
  split
  · exact .idle rfl
  split
  · exact .idle rfl
  split
  · exact Outcome.releaseLease (s.engine.takeDecisionId.setObject _ _) hgranted rfl
  · rw [ends_recordDecision]
    exact Outcome.releaseLease (s.engine.takeDecisionId.setObject _ _) hgranted rfl

lemma discardReplica_ledger (acc : List JournalPayload × Records) (seq : OperationSequence)
    (id : RegionId) : (discardReplica acc seq id).2.ledger =
      { acc.2.ledger with regions := acc.2.regions.modify id fun region =>
          if region.dirty = .dirtyUnpublished then region.discardDirty seq else region } := by
  unfold discardReplica
  split
  · rename_i habsent
    rw [modify_eq_self fun region hfound => by cases habsent.symm.trans hfound]
    rfl
  rename_i region hfound
  split
  · rename_i hclean
    rw [modify_eq_self fun region' hfound' => by
      cases hfound.symm.trans hfound'
      exact if_neg hclean]
    rfl
  · rename_i hdirty
    rw [← insert_eq_modify (fun region => if region.dirty = .dirtyUnpublished then
      region.discardDirty seq else region) hfound, if_pos (not_not.mp hdirty)]
    rfl

omit [DurableStore σ] in
/-- The replicas of an object whose writer gives up an unpublished modification. -/
lemma discardReplicas_ledger (object : ObjectRecord) : (e.discardReplicas object).2.ledger =
    { e.ledger with regions := e.regions.map fun key region =>
        region.afterRelease key object e.sequence } := by
  unfold discardReplicas
  split
  · rename_i hdirty
    rw [foldl_regions (I := fun _ => True) (fun acc : List JournalPayload × Records =>
      acc.2.ledger) (fun _ _ h => h) (fun acc id _ => discardReplica_ledger ..) (fun id region => by
        by_cases h : region.dirty = .dirtyUnpublished <;> simp [h, RegionRecord.discardDirty]) _
      trivial]
    simp only [RegionRecord.afterRelease, hdirty, true_and]
    congr 3
    funext key region
    by_cases hmem : key ∈ object.replicas <;> simp [hmem]
  · rename_i hclean
    simp [RegionRecord.afterRelease, hclean]
    rfl

lemma releaseAuthority_ends {request}
    (hgranted : s.engine.resolveLocked request.context = .granted object participant)
    (hwriter : object.writer = request.context.participant ∧
      object.writerBoot = request.context.boot)
    (hownership : request.ownershipGeneration = object.ownershipGeneration)
    (outcome : ReleaseOutcome) : Ends s (.release request)
      (s.engine.takeDecisionId.releaseAuthority request object outcome).2 := by
  refine Ends.reported (Outcome.releaseAuthority (s.engine.takeDecisionId.tick.withRecords _)
    hgranted hwriter hownership ?_)
  exact congrArg (·.setObject request.context.object (s.engine.relinquish object))
    (discardReplicas_ledger (e := s.engine.takeDecisionId.tick) object)

lemma release_ends (request : ReleaseRequest) :
    Ends s (.release request) (s.engine.release request).2 := by
  unfold release
  dsimp only
  split
  · exact .idle rfl
  · exact .idle rfl
  rename_i object participant hgranted
  split
  · exact releaseLease_ends hgranted _
  split
  · exact .idle rfl
  split
  · exact .idle rfl
  rename_i hwriter
  split
  · exact .idle rfl
  rename_i hownership
  simp only [ne_eq, not_or, not_not] at hwriter hownership
  exact releaseAuthority_ends hgranted hwriter hownership _

/-! ### Invalidation -/

section Invalidate

variable {request : InvalidationRequest} {object : ObjectRecord} {region : RegionRecord}

lemma invalidateInert_ends (hinvalidates : Invalidates s request object region)
    (hinert : region.lifecycle = .retired ∨ region.state = .retired ∨ region.state = .fenced)
    (context : DecisionContext) : Ends s (.invalidate request)
      (s.engine.takeDecisionId.invalidateInert request context object region).2 := by
  unfold invalidateInert
  dsimp only
  split
  · exact .idle rfl
  · rw [ends_recordDecision]
    exact Outcome.invalidateInert s.engine.takeDecisionId.tick hinvalidates rfl hinert

lemma invalidateNow_ends (hissues : Issues s request object region)
    (hack : request.acknowledgementRequired = false) (context : DecisionContext) :
    Ends s (.invalidate request)
      (s.engine.takeDecisionId.invalidateNow request context object region).2 := by
  unfold invalidateNow
  dsimp only
  split
  · exact .failed (appendManyLocked_refused ‹_›)
      (Outcome.invalidateNowFailed (Impl.setRegion _ _ _) hissues hack rfl)
  · rw [ends_recordDecision]
    exact Outcome.invalidateNow (Impl.setRegion _ _ _) s.engine.takeDecisionId.tick hissues hack
      rfl rfl

lemma invalidateLater_ends (hissues : Issues s request object region)
    (hack : request.acknowledgementRequired = true) (context : DecisionContext) :
    Ends s (.invalidate request)
      (s.engine.takeDecisionId.invalidateLater request context object region).2 := by
  unfold invalidateLater
  dsimp only
  split
  · exact .failed (appendManyLocked_refused ‹_›) (Outcome.invalidateLaterFailed hissues hack)
  · rw [ends_recordDecision]
    exact Outcome.invalidateLater s.engine.takeDecisionId.tick hissues hack rfl

end Invalidate

lemma invalidate_ends (request : InvalidationRequest) :
    Ends s (.invalidate request) (s.engine.invalidate request).2 := by
  unfold invalidate
  dsimp only
  split
  · exact .idle rfl
  rename_i object hresolved
  split
  · exact .idle rfl
  rename_i region hallowed
  split
  · exact invalidateInert_ends ⟨hresolved, hallowed⟩ ‹_› _
  rename_i hlive
  split
  · exact .idle rfl
  rename_i halone
  have hissues : Issues s request object region := ⟨⟨hresolved, hallowed⟩, hlive, halone⟩
  split
  · exact invalidateLater_ends hissues ‹_› _
  · exact invalidateNow_ends hissues
      (by simpa using ‹¬ request.acknowledgementRequired = true›) _

section Acknowledge

variable {ack : InvalidationAck} {record : InvalidationRecord} {object : ObjectRecord}
  (hacknowledges : Acknowledges s ack record object)
include hacknowledges

lemma acknowledgeMissing_ends (habsent : s.engine.regions[record.region]? = none)
    (outcome : InvalidationOutcome) : Ends s (.acknowledgeInvalidation ack)
      (s.engine.takeDecisionId.acknowledgeMissing ack record object outcome).2 := by
  unfold acknowledgeMissing settleInvalidation
  dsimp only
  split <;> exact @Outcome.acknowledgeMissing _ s _ ack record object _ (Impl.setObject _ _ _)
    hacknowledges habsent rfl

lemma acknowledgeReplaced_ends {region} (hfound : s.engine.regions[record.region]? = some region)
    (hdiffers : region.generation ≠ record.regionGeneration ∨
      region.replicaGeneration ≠ record.replicaGeneration ∨
      region.generation ≠ ack.regionGeneration ∨ region.replicaGeneration ≠ ack.replicaGeneration)
    (outcome : InvalidationOutcome) : Ends s (.acknowledgeInvalidation ack)
      (s.engine.takeDecisionId.acknowledgeReplaced ack record object outcome).2 := by
  unfold acknowledgeReplaced settleInvalidation
  dsimp only
  split <;> exact @Outcome.acknowledgeReplaced _ s _ ack record object region _
    (Impl.setObject _ _ _) hacknowledges hfound hdiffers rfl

lemma acknowledgeApplied_ends {region} (hfound : s.engine.regions[record.region]? = some region)
    (hagrees : region.generation = record.regionGeneration ∧
      region.replicaGeneration = record.replicaGeneration ∧
      region.generation = ack.regionGeneration ∧ region.replicaGeneration = ack.replicaGeneration)
    (outcome : InvalidationOutcome) : Ends s (.acknowledgeInvalidation ack)
      (s.engine.takeDecisionId.acknowledgeApplied ack record object region outcome).2 := by
  unfold acknowledgeApplied settleInvalidation
  dsimp only
  set version := if ack.supersededVersion.defined = true then ack.supersededVersion
    else region.version
  set e := s.engine.takeDecisionId.tick
  set stage := ((e.setRegion record.region (region.invalidate record.id e.sequence)).setInvalidation
    ack.invalidation (record.acknowledge version e.sequence)).setObject ack.context.object
      (object.dropOutstanding record.id) with hdef
  refine .reported ?_
  change Outcome s _ _ ((stage.ledger.setObject _ _).setObject _ _)
  rw [Ledger.setObject_setObject]
  exact @Outcome.acknowledge _ s _ ack record object region _ _ stage hacknowledges hfound hagrees
    rfl

end Acknowledge

lemma acknowledgeInvalidation_ends (ack : InvalidationAck) :
    Ends s (.acknowledgeInvalidation ack) (s.engine.acknowledgeInvalidation ack).2 := by
  unfold acknowledgeInvalidation
  dsimp only
  split
  · exact .idle rfl
  rename_i record hissued
  split
  · exact .idle rfl
  rename_i object participant hgranted
  split
  · exact .idle rfl
  rename_i hallowed
  split
  · exact .idle rfl
  split
  · exact .idle rfl
  have hacknowledges : Acknowledges s ack record object :=
    ⟨hissued, ⟨participant, hgranted⟩, hallowed, ‹_›, ‹_›⟩
  split
  · exact acknowledgeMissing_ends hacknowledges ‹_› _
  split
  · exact acknowledgeReplaced_ends hacknowledges ‹_› ‹_› _
  · rename_i region hfound hagrees
    simp only [ne_eq, not_or, not_not] at hagrees
    exact acknowledgeApplied_ends hacknowledges hfound hagrees _

/-! ### Synchronization and revalidation -/

lemma beginSync_ends (request : SyncRequest) :
    Ends s (.beginSync request) (s.engine.beginSync request).2 := by
  unfold beginSync
  dsimp only
  split
  · exact .idle rfl
  · exact .idle rfl
  rename_i object participant hgranted
  split
  · exact .idle rfl
  rename_i source destination hallowed
  split
  · exact .failed (appendManyLocked_refused ‹_›) (.beginSyncFailed hgranted hallowed)
  · rw [ends_recordDecision]
    exact Outcome.beginSync s.engine.takeDecisionId.tick hgranted hallowed rfl

section Complete

variable {request : SyncCompleteRequest} {record : SyncRecord} {object : ObjectRecord}
  {destination : RegionRecord} (hcompletes : Completes s request record object destination)
include hcompletes

lemma completeRetired_ends
    (hretired : destination.lifecycle = .retired ∨ destination.state = .retired)
    (outcome : SyncOutcome) : Ends s (.completeSync request)
      (s.engine.takeDecisionId.completeRetired request record outcome).2 :=
  .reported (Outcome.completeRetired hcompletes hretired)

variable (hlive : destination.lifecycle ≠ .retired ∧ destination.state ≠ .retired)
include hlive

lemma settleSync_ends (he : e.toRecords = s.engine.toRecords) {record' destination'}
    (hends : SyncEnd s request record object destination record' destination')
    (hregion : record'.destinationRegion = record.destinationRegion) :
    Ends s (.completeSync request) (e.settleSync request record' destination').2 := by
  have houtcome := fun healthy => @Outcome.completeSync _ s healthy request record object
    destination record' destination' hcompletes hlive hends
  rw [← he, ← hregion] at houtcome
  exact houtcome _

lemma completeStale_ends (hdiffers : object.authoritativeVersion ≠ record.sourceVersion)
    (outcome : SyncOutcome) : Ends s (.completeSync request)
      (s.engine.takeDecisionId.completeStale request record destination outcome).2 :=
  .reported (settleSync_ends hcompletes hlive rfl (.stale hdiffers) rfl)

variable (hversion : object.authoritativeVersion = record.sourceVersion)
include hversion

lemma completeMismatch_ends (outcome : SyncOutcome) : Ends s (.completeSync request)
    (s.engine.takeDecisionId.completeMismatch request record destination outcome).2 :=
  .reported (settleSync_ends hcompletes hlive rfl (.mismatch hversion) rfl)

lemma completeCurrent_ends (hcontent : (s.engine.policyLocked object).any (fun policy =>
        policy.requireContentFingerprint) → record.expectedContent.defined →
      request.observedContent.same record.expectedContent) (outcome : SyncOutcome) :
    Ends s (.completeSync request)
      (s.engine.takeDecisionId.completeCurrent request record object destination outcome).2 :=
  .reported (settleSync_ends hcompletes hlive rfl (.current hversion hcontent) rfl)

end Complete

lemma completeSync_ends (request : SyncCompleteRequest) :
    Ends s (.completeSync request) (s.engine.completeSync request).2 := by
  unfold completeSync
  dsimp only
  split
  · exact .idle rfl
  rename_i record hplanned
  split
  · exact .idle rfl
  rename_i object participant hgranted
  split
  · exact .idle rfl
  rename_i hobject
  split
  · exact .idle rfl
  rename_i hrunning
  split
  · exact .idle rfl
  rename_i hallowed
  split
  · exact .idle rfl
  rename_i destination hfound
  have hcompletes : Completes s request record object destination :=
    ⟨hplanned, ⟨participant, hgranted⟩, not_not.mp hobject, hrunning, hallowed, hfound⟩
  split
  · exact completeRetired_ends hcompletes ‹_› _
  rename_i hlive
  rw [not_or] at hlive
  split
  · exact completeStale_ends hcompletes hlive ‹_› _
  rename_i hversion
  rw [ne_eq, not_not] at hversion
  split
  · exact settleSync_ends hcompletes hlive rfl (.unmoved hversion) rfl
  split
  · exact completeMismatch_ends hcompletes hlive hversion _
  rename_i hcontent
  refine completeCurrent_ends hcompletes hlive hversion ?_ _
  intro hrequired hdefined
  by_contra hdiffers
  exact hcontent ⟨hrequired, hdefined, by simpa using hdiffers⟩

lemma failSync_ends (request : SyncFailRequest) :
    Ends s (.failSync request) (s.engine.failSync request).2 := by
  unfold failSync
  dsimp only
  split
  · exact .idle rfl
  rename_i record hplanned
  split
  · exact .idle rfl
  rename_i hrunning
  split
  · exact .idle rfl
  rename_i hcaller
  simp only [ne_eq, not_or, not_not] at hcaller
  have hfails : Fails s request record := ⟨hplanned, hrunning, hcaller⟩
  set state := if request.outcomeUnknown = true then SyncState.outcomeUnknown else .failed
  set e := s.engine.takeDecisionId.tick
  suffices h : ∀ healthy, Outcome s (.failSync request) healthy
      (e.recordSyncFailure request (record.settle state (failureReason request)
        e.sequence)).2.ledger from
    .reported (h _)
  intro healthy
  unfold recordSyncFailure
  dsimp only
  split
  · exact @Outcome.failSync _ s healthy request record _ _ state hfails ‹_›
  · exact @Outcome.failMissing _ s healthy request record _ state hfails ‹_›

lemma revalidateRegion_ends (request : RevalidateRequest) :
    Ends s (.revalidateRegion request) (s.engine.revalidateRegion request).2 := by
  unfold revalidateRegion
  dsimp only
  split
  · exact .idle rfl
  rename_i object participant hgranted
  split
  · exact .idle rfl
  rename_i region hallowed
  split
  · exact Outcome.revalidate hgranted hallowed
  · rw [ends_recordDecision]
    exact Outcome.revalidate hgranted hallowed

/-! ### Recovery resolution, retirement and shutdown -/

lemma resolveRecovery_ends (id : ObjectId) (generation : ObjectGeneration)
    (epoch : CoordinatorEpoch) (note : Text) : Ends s (.resolveRecovery id generation epoch note)
      (s.engine.resolveRecovery id generation epoch note).2 := by
  unfold resolveRecovery
  split
  · exact .idle rfl
  rename_i object hallowed
  dsimp only
  split
  · exact Outcome.resolveRecovery hallowed
  · rw [ends_recordDecision]
    exact Outcome.resolveRecovery hallowed

lemma retireReplica_ledger (id : RegionId) : (e.retireReplica id).ledger =
    { e.ledger with regions := e.regions.modify id fun region => region.retire e.sequence } := by
  unfold retireReplica
  split
  · rename_i habsent
    rw [modify_eq_self fun region hfound => by cases habsent.symm.trans hfound]
    rfl
  · rename_i region hfound
    rw [← insert_eq_modify (fun region => region.retire e.sequence) hfound]
    rfl

lemma RegionRecord.retire_retire (region : RegionRecord) (sequence : OperationSequence) :
    (region.retire sequence).retire sequence = region.retire sequence := by
  cases hdirty : region.dirty <;> simp [retire, hdirty, DirtyCondition.lost]

lemma retireReplica_sequence (id : RegionId) : (e.retireReplica id).sequence = e.sequence := by
  unfold retireReplica
  split <;> rfl

lemma retireReplicas_ledger (replicas : List RegionId) (e : Impl σ) :
    (replicas.foldl retireReplica e).ledger =
      { e.ledger with regions := e.regions.map fun key region =>
          if key ∈ replicas then region.retire e.sequence else region } :=
  foldl_regions (I := fun e' : Impl σ => e'.sequence = e.sequence)
    (fun e : Impl σ => e.ledger) (fun _ id h => (retireReplica_sequence id).trans h)
    (fun _ id h => h ▸ retireReplica_ledger id) (fun _ region => region.retire_retire _) _ rfl

lemma retireObject_ends (id : ObjectId) (generation : ObjectGeneration)
    (epoch : CoordinatorEpoch) : Ends s (.retireObject id generation epoch)
      (s.engine.retireObject id generation epoch).2 := by
  unfold retireObject
  split
  · exact .idle rfl
  rename_i object hallowed
  dsimp only
  split
  · exact .failed (appendLocked_refused ‹_›) (.retireObjectFailed hallowed)
  change Outcome s _ _ (object.replicas.foldl retireReplica _).ledger
  rw [retireReplicas_ledger]
  exact Outcome.retireObject hallowed

lemma beginShutdown_ends (epoch : CoordinatorEpoch) :
    Ends s (.beginShutdown epoch) (s.engine.beginShutdown epoch).2 := by
  unfold beginShutdown
  split
  · exact .idle rfl
  rename_i hcurrent
  split
  · exact .idle rfl
  rename_i hrunning
  rw [ends_recordDecision]
  unfold Ends
  change Outcome s _ _ (appendEach _ _).ledger
  rw [appendEach_toRecords]
  exact Outcome.shutdown (not_not.mp hcurrent) (by simpa using hrunning)

lemma completeShutdown_ends (epoch : CoordinatorEpoch) :
    Ends s (.completeShutdown epoch) (s.engine.completeShutdown epoch).2 := by
  unfold completeShutdown
  repeat' split
  all_goals exact .idle rfl

section Step

variable {τ : Type} [StoreMedium τ] {s : Sys τ}

lemma flushDurable_ends : Ends s .flushDurable s.engine.flushDurable.2 := by
  unfold flushDurable
  repeat' split
  all_goals exact .idle rfl

/-- What one step leaves of the ledger. -/
theorem step_outcome (hkeyed : All (fun id object => object.id = id) s.engine.objects) (a : Action)
    (ha : a.Runs) : Ends s a (s.step a).engine := by
  cases a with
  | createDomain name => exact createDomain_ends name
  | registerParticipant name boot epoch label =>
    exact registerParticipant_ends name boot epoch label
  | markSessionClosed id boot => exact markSessionClosed_ends id boot
  | fenceParticipant id epoch reason => exact fenceParticipant_ends id epoch reason
  | registerObject domain name length policy => exact registerObject_ends domain name length policy
  | setPolicy id generation expected next => exact setPolicy_ends id generation expected next
  | registerRegion registration => exact registerRegion_ends registration
  | retireRegion id generation epoch => exact retireRegion_ends id generation epoch
  | acquireRead request => exact acquireRead_ends request
  | explainRead request => exact explainRead_ends request
  | acquireWrite request => exact acquireWrite_ends request
  | markDirty request => exact markDirty_ends request
  | publishReserve request =>
    change Ends s _ (s.reserve request).engine
    rw [reserve_engine]
    exact publishReserve_ends request
  | publishAppend index =>
    change Ends s _ (s.append index).engine
    unfold Sys.append
    split
    · exact .idle rfl
    split
    · exact .idle rfl
    · exact publishAppend_ends index _
  | publishCommit index =>
    change Ends s _ (s.commit index).engine
    cases hready : s.ready index with
    | none => exact .idle (by rw [commit_idle hready])
    | some frame =>
      rw [commit_engine hready]
      exact publishCommit_ends hkeyed hready
  | release request => exact release_ends request
  | invalidate request => exact invalidate_ends request
  | acknowledgeInvalidation ack => exact acknowledgeInvalidation_ends ack
  | beginSync request => exact beginSync_ends request
  | completeSync request => exact completeSync_ends request
  | failSync request => exact failSync_ends request
  | revalidateRegion request => exact revalidateRegion_ends request
  | resolveRecovery id generation epoch note => exact resolveRecovery_ends id generation epoch note
  | retireObject id generation epoch => exact retireObject_ends id generation epoch
  | beginShutdown epoch => exact beginShutdown_ends epoch
  | completeShutdown epoch => exact completeShutdown_ends epoch
  | flushDurable => exact flushDurable_ends
  | restart config => exact absurd rfl (ha config)

end Step

end CoherenceFabric
