import CoherenceFabric.Effects.Fields
import CoherenceFabric.Properties.VersionChain
import Mathlib.Data.List.InsertIdx

/-!
A publish request commits at most once.

A request names the version it follows, so a second commit of the same request would have to find
that version again. A request with an identity is also kept by the object after its commit, among
the last ones it keeps; a retry then gets the publication and the version of the commit, and phase 1
makes no reservation.
-/

namespace CoherenceFabric

open FiniteMap Transition Impl Sys PublishRequest

variable {σ : Type} {request : PublishRequest} {frame : PublishFrame} {as : List Action}
  {object' : ObjectRecord} {pending : PendingPublication} {participant : ParticipantRecord}

/-- How many completed requests an object keeps. -/
def EngineConfig.retained (config : EngineConfig) : Nat :=
  if config.maxRetainedRequestsPerObject = 0 then 1 else config.maxRetainedRequestsPerObject

lemma EngineConfig.retained_pos (config : EngineConfig) : 0 < config.retained := by
  unfold EngineConfig.retained
  split <;> omega

/-! ### What a step does to the requests an object keeps -/

/-- What no step but a commit changes of an object. -/
structure ObjectRecord.SamePublished (object object' : ObjectRecord) : Prop where
  policy : object'.policy = object.policy
  version : object'.authoritativeVersion = object.authoritativeVersion
  requests : object'.completedRequests = object.completedRequests

section Step

variable {s : Sys σ} {a : Action} {key : ObjectId} {object object' : ObjectRecord}

lemma ObjectChange.samePublished (ha : ∀ index, a ≠ .publishCommit index)
    (h : ObjectChange s a key object object') : object.SamePublished object' := by
  have hsame : object.SamePublished object := ⟨rfl, rfl, rfl⟩
  have hrecompute : ∀ (e : Impl σ) {changed}, object.SamePublished changed →
      object.SamePublished (e.recomputeAuthorityLocked changed) := by
    intro e changed hchanged
    rw [recomputeAuthorityLocked_eq]
    exact { hchanged with }
  cases h with
  | fence e =>
    refine hrecompute e ?_
    unfold ObjectRecord.cutOff ObjectRecord.revokeWriter ObjectRecord.loseDirty
    dsimp only
    repeat' split
    all_goals exact ⟨rfl, rfl, rfl⟩
  | grantRead =>
    rw [addReadGrantLocked_eq]
    exact { hsame with }
  | @releaseLease _ _ _ index _ e =>
    have hreleased : object.SamePublished (object.releaseAt index) := ⟨rfl, rfl, rfl⟩
    exact { hrecompute e hreleased with }
  | releaseAuthority e =>
    have hrelinquished : object.SamePublished (s.engine.relinquish object) := by
      unfold relinquish ObjectRecord.releaseDirty
      dsimp only
      repeat' split
      all_goals exact ⟨rfl, rfl, rfl⟩
    exact { hrecompute e hrelinquished with }
  | retireRegion e | invalidateNow e => exact hrecompute e ⟨rfl, rfl, rfl⟩
  | @acknowledge _ record _ _ e =>
    have hdropped : object.SamePublished (object.dropOutstanding record.id) := ⟨rfl, rfl, rfl⟩
    exact { hrecompute e hdropped with }
  | shutdown =>
    unfold ObjectRecord.shutdown
    dsimp only
    split <;> exact ⟨rfl, rfl, rfl⟩
  | abort | commit => exact absurd rfl (ha _)
  | _ => exact ⟨rfl, rfl, rfl⟩

lemma step_published [ReplayStore σ] (hkeyed : LiveKeyed s) (ha : a.Runs)
    (h : s.engine.objects[key]? = some object) :
    ∃ object', (s.step a).engine.objects[key]? = some object' ∧ (object.SamePublished object' ∧
          (∀ pending, s.committed a = some pending → pending.object ≠ key) ∨
        ∃ pending sequence, s.committed a = some pending ∧ pending.object = key ∧
          object.holds pending ∧ object' = object.commit pending pending.writer pending.writerBoot
            s.engine.config.retained sequence) := by
  by_cases hcommit : ∃ index, a = .publishCommit index
  · obtain ⟨index, rfl⟩ := hcommit
    change ∃ object', (s.commit index).engine.objects[key]? = some object' ∧ _
    cases hready : s.ready index with
    | none =>
      rw [commit_idle hready]
      exact ⟨object, h, .inl ⟨⟨rfl, rfl, rfl⟩, by simp [committed, hready]⟩⟩
    | some frame =>
      rw [commit_engine hready]
      cases htarget : s.engine.commitTarget frame with
      | some target =>
        rw [publishCommit_target htarget, commitPublication_objects, settling_toRecords]
        obtain ⟨-, hfound, hholds⟩ := commitTarget_some htarget
        by_cases hkey : frame.pending.object = key
        · subst hkey
          cases h.symm.trans hfound
          refine ⟨_, getElem?_insert_self, .inr ⟨frame.pending,
            (s.engine.settling frame).tick.sequence, ?_, rfl, hholds, ?_⟩⟩
          · simp [committed, hready, htarget]
          · unfold committedObject
            rw [settling_config]
            rfl
        · refine ⟨object, (getElem?_insert_ne hkey).trans h, .inl ⟨⟨rfl, rfl, rfl⟩, ?_⟩⟩
          simpa [committed, hready, htarget] using hkey
      | none =>
        have hnone : ∀ pending, s.committed (.publishCommit index) = some pending →
            pending.object ≠ key := by simp [committed, hready, htarget]
        rcases publishCommit_objects (e := s.engine) frame with
          hsame | ⟨target, hfound, habort | ⟨hcommits, -⟩⟩
        · exact ⟨object, hsame ▸ h, .inl ⟨⟨rfl, rfl, rfl⟩, hnone⟩⟩
        · rw [habort]
          by_cases hkey : frame.pending.object = key
          · subst hkey
            cases h.symm.trans hfound
            exact ⟨_, getElem?_insert_self, .inl ⟨⟨rfl, rfl, rfl⟩, hnone⟩⟩
          · exact ⟨object, (getElem?_insert_ne hkey).trans h, .inl ⟨⟨rfl, rfl, rfl⟩, hnone⟩⟩
        · cases htarget.symm.trans hcommits
  obtain ⟨object', hobject', hchange⟩ := (step_changes hkeyed ha).objects.forward h
  refine ⟨object', hobject',
    .inl ⟨hchange.samePublished fun index hindex => hcommit ⟨index, hindex⟩, ?_⟩⟩
  intro pending hpending
  obtain ⟨index, _, _, rfl, -⟩ := committed_some hpending
  exact absurd ⟨index, rfl⟩ hcommit

end Step

/-! ### Repeated requests -/

section Requests

variable [ReplayStore σ]

def VersionId.successor (version : VersionId) : VersionId :=
  if version.defined then version.next else ⟨1⟩

/-- The requests of the calls in flight after a step, in the order of the calls. -/
def Sys.callers (s : Sys σ) (requests : List PublishRequest) : Action → List PublishRequest
  | .publishReserve request =>
    match (s.engine.publishReserve request).1 with
    | .done _ => requests
    | .reserved _ => requests ++ [request]
  | .publishCommit index => if (s.ready index).isSome then requests.eraseIdx index else requests
  | .restart _ => []
  | _ => requests

def Sys.committedRequest (s : Sys σ) (requests : List PublishRequest) :
    Action → Option PublishRequest
  | .publishCommit index => (s.committed (.publishCommit index)).bind fun _ => requests[index]?
  | _ => none

def Sys.committedRequests (s : Sys σ) (requests : List PublishRequest) (as : List Action) :
    List PublishRequest :=
  yields (noting Sys.step fun s a requests => s.callers requests a)
    (fun p a => (p.1.committedRequest p.2 a).toList) (s, requests) as

lemma committedRequests_cons (s : Sys σ) (requests : List PublishRequest) (a : Action)
    (as : List Action) : s.committedRequests requests (a :: as) =
      (s.committedRequest requests a).toList ++
        (s.step a).committedRequests (s.callers requests a) as := rfl

abbrev PendingPublication.target (pending : PendingPublication) : ObjectId × VersionId :=
  (pending.object, pending.version)

abbrev PublishRequest.target (request : PublishRequest) : ObjectId × VersionId :=
  (request.context.object, VersionId.successor request.expectedBaseVersion)

variable {s : Sys σ} {a : Action} {requests : List PublishRequest}

lemma publishReserve_target (hkeyed : LiveKeyed s)
    (h : (s.engine.publishReserve request).1 = .reserved frame) :
    frame.pending.target = request.target := by
  obtain ⟨object, participant, policy, region, receipt, hreserves, rfl, -⟩ :=
    publishReserve_reserved h
  have hid := hkeyed.live.objects _ _ hreserves.found
  have hbase := (publishRefusal_ok hreserves.allowed).base
  rw [PendingPublication.target, target, hbase]
  exact Prod.ext hid rfl

lemma callers_targets (hkeyed : LiveKeyed s) (ha : a.Runs)
    (h : s.frames.map (·.pending.target) = requests.map (·.target)) :
    (s.step a).frames.map (·.pending.target) = (s.callers requests a).map (·.target) := by
  cases a with
  | publishReserve request =>
    change (s.reserve request).frames.map _ = _
    unfold reserve callers
    dsimp only
    cases hresult : (s.engine.publishReserve request).1 with
    | done result => exact h
    | reserved frame => simp [h, publishReserve_target hkeyed hresult]
  | publishAppend index =>
    have hframes := congrArg (List.map PendingPublication.target) (append_frames s index)
    simp only [List.map_map] at hframes
    exact hframes.trans h
  | publishCommit index =>
    change (s.commit index).frames.map _ = _
    unfold callers
    dsimp only
    cases hready : s.ready index with
    | none =>
      rw [commit_idle hready]
      exact h
    | some frame =>
      rw [commit_frames hready, Option.isSome_some, if_pos rfl, ← List.eraseIdx_map, h,
        List.eraseIdx_map]
  | restart config => exact absurd rfl (ha config)
  | _ => exact h

lemma committedRequests_targets : ∀ {s : Sys σ} {requests : List PublishRequest},
    LiveKeyed s → s.frames.map (·.pending.target) = requests.map (·.target) →
    (∀ a ∈ as, a.restarts = false) →
    (s.committedRequests requests as).map (·.target) = (s.commits as).map (·.target) := by
  induction as with
  | nil => exact fun _ _ _ => rfl
  | cons a as ih =>
    intro s requests hkeyed h hlife
    have ha := Action.ne_restart (hlife a List.mem_cons_self)
    have hrest := ih hkeyed.step (callers_targets hkeyed ha h) fun b hb =>
      hlife b (List.mem_cons_of_mem a hb)
    rw [committedRequests_cons, commits_cons, List.map_append, List.map_append, hrest]
    congr 1
    cases a with
    | publishCommit index =>
      cases hcommitted : s.committed (.publishCommit index) with
      | none => simp [committedRequest, hcommitted]
      | some pending =>
        obtain ⟨_, frame, _, hindex, hready, -, rfl⟩ := committed_some hcommitted
        cases hindex
        have hrequest := congrArg (·[index]?) h
        simp only [List.getElem?_map, (ready_mem hready).1, Option.map_some] at hrequest
        obtain ⟨request, hrequest, htarget⟩ := Option.map_eq_some_iff.mp hrequest.symm
        simp only [committedRequest, hcommitted, Option.bind_some, hrequest,
          Option.toList_some, List.map_cons, List.map_nil, htarget]
    | _ => rfl

lemma committedRequests_nodup (hkeyed : LiveKeyed s) (hchained : Chained s)
    (h : s.frames.map (·.pending.target) = requests.map (·.target))
    (hlife : ∀ a ∈ as, a.restarts = false) (hversions : RunOk step VersionsLast s as) :
    (s.committedRequests requests as).Nodup := by
  have hnodup := commits_versions_nodup hchained hlife hversions
  rw [← committedRequests_targets hkeyed h hlife] at hnodup
  exact hnodup.of_map

end Requests

/-! ### Retries -/

section Retries

variable [ReplayStore σ] {s : Sys σ} {a : Action}

omit [ReplayStore σ] in
lemma publishReserve_first {e : Impl σ} (h : (e.publishReserve request).1 = .reserved frame)
    (hdefined : request.context.request.defined = true) {object}
    (hobject : e.objects[request.context.object]? = some object) :
    ∀ completed ∈ object.completedRequests, completed.request ≠ request.context.request := by
  revert h
  unfold publishReserve
  dsimp only
  split
  · rintro ⟨⟩
  rename_i found participant hgranted
  cases hobject.symm.trans (resolveLocked_found hgranted)
  split
  · rintro ⟨⟩
  rw [if_pos hdefined]
  split
  · rintro ⟨⟩
  rename_i hnone
  rintro - completed hmem hrequest
  simpa [hrequest] using List.find?_eq_none.mp hnone completed hmem

/-- What is known of the object of a call in flight: it has a policy, its version is not behind the
one the call was reserved against, and while it is that one the object has not kept the request. -/
structure PublishFrame.Fresh (e : Impl σ) (frame : PublishFrame)
    (object : ObjectRecord) : Prop where
  found : e.objects[frame.pending.object]? = some object
  policy : (e.policyLocked object).isSome
  behind : frame.pending.priorVersion.value.toNat ≤ object.authoritativeVersion.value.toNat
  first : object.authoritativeVersion = frame.pending.priorVersion →
    frame.pending.request.defined = true →
    ∀ completed ∈ object.completedRequests, completed.request ≠ frame.pending.request

structure Prompt (s : Sys σ) : Prop where
  keyed : LiveKeyed s
  chained : Chained s
  fresh : ∀ frame ∈ s.frames, ∃ object, frame.Fresh s.engine object

lemma policy_kept (ha : a.Runs) {object}
    (hpolicy : object'.policy = object.policy) (h : (s.engine.policyLocked object).isSome) :
    ((s.step a).engine.policyLocked object').isSome := by
  obtain ⟨policy, hfound⟩ := Option.isSome_iff_exists.mp h
  obtain ⟨policy', hfound', -⟩ := (step_evolved a ha).records.policies.forward hfound
  unfold policyLocked
  rw [hpolicy, hfound']
  rfl

lemma Prompt.kept (h : Prompt s) (ha : a.Runs) (hversions : VersionsLast s a)
    (hframe : frame ∈ s.frames) : ∃ object, frame.Fresh (s.step a).engine object := by
  obtain ⟨object, hfresh⟩ := h.fresh frame hframe
  obtain ⟨object', hobject', hsame | hcommit⟩ := step_published h.keyed ha hfresh.found
  · obtain ⟨⟨hpolicy, hversion, hrequests⟩, -⟩ := hsame
    refine ⟨object', hobject', policy_kept ha hpolicy hfresh.policy, ?_, ?_⟩
    · rw [hversion]
      exact hfresh.behind
    · rw [hversion, hrequests]
      exact hfresh.first
  obtain ⟨pending, sequence, hcommitted, -, hholds, rfl⟩ := hcommit
  have hlt := (h.chained.follows hcommitted hversions).lt
  rw [← (holds_prior hholds).2.2] at hlt
  have hbehind := hfresh.behind
  refine ⟨_, hobject', policy_kept ha rfl hfresh.policy, ?_, fun hcurrent => ?_⟩
  · exact Nat.le_of_lt (Nat.lt_of_le_of_lt hbehind hlt)
  · -- the version has passed the one of the reservation
    rw [← hcurrent] at hbehind
    exact absurd hbehind (Nat.not_le_of_lt hlt)

lemma Prompt.step (h : Prompt s) (ha : a.Runs)
    (hversions : VersionsLast s a) : Prompt (s.step a) where
  keyed := h.keyed.step
  chained := h.chained.step ha
  fresh frame hframe := by
    cases step_frames ha hframe with
    | kept mem => exact h.kept ha hversions mem
    | @reserved request frame new =>
      obtain ⟨object, participant, policy, region, receipt, hreserves, rfl, -⟩ :=
        publishReserve_reserved new
      have hfound := hreserves.found
      have hid := h.keyed.live.objects _ _ hfound
      have hfirst := fun hdefined => publishReserve_first new hdefined hfound
      obtain ⟨object', hobject', ⟨⟨hpolicy, hversion, hrequests⟩, -⟩ | hcommit⟩ :=
        step_published h.keyed ha hfound
      · refine ⟨object', ?_, policy_kept ha hpolicy ?_, ?_, fun _ => ?_⟩
        · rw [← hid] at hobject'
          exact hobject'
        · rw [hreserves.policy_found]
          rfl
        · rw [hversion]
          exact Nat.le_refl _
        · rw [hrequests]
          exact hfirst
      · obtain ⟨pending, -, hcommitted, -⟩ := hcommit
        cases hcommitted
    | @appended index frame found =>
      obtain ⟨object, hfresh⟩ := h.kept ha hversions (List.mem_of_getElem? found)
      have hpending := publishAppend_pending s.engine frame
      exact ⟨object, hpending ▸ hfresh.found, hfresh.policy, hpending ▸ hfresh.behind,
        hpending ▸ hfresh.first⟩

lemma Prompt.boot {config} {store : Option σ} : Prompt (boot config store) where
  keyed := LiveKeyed.boot
  chained := Chained.boot
  fresh _ hframe := absurd hframe not_mem_boot_frames

/-- The object keeps the request of a publication, with at most `k` requests after it. -/
structure ObjectRecord.Answers (object : ObjectRecord) (published : PendingPublication) (k : Nat) :
    Prop where
  kept : ∃ earlier entry later, object.completedRequests = earlier ++ entry :: later ∧
    later.length ≤ k ∧ (∀ completed ∈ earlier, completed.request ≠ published.request) ∧
    entry.request = published.request ∧ entry.publication = published.id ∧
    entry.version = published.version
  version : published.version.value.toNat ≤ object.authoritativeVersion.value.toNat

namespace ObjectRecord.Answers

variable {object : ObjectRecord} {published pending : PendingPublication} {k : Nat}

lemma find (h : object.Answers published k) : ∃ entry,
    object.completedRequests.find? (fun completed => completed.request == published.request) =
        some entry ∧ entry.publication = published.id ∧ entry.version = published.version := by
  obtain ⟨earlier, entry, later, heq, -, hother, hrequest, hid, hversion⟩ := h.kept
  refine ⟨entry, ?_, hid, hversion⟩
  rw [heq, List.find?_append, List.find?_eq_none.mpr fun completed hmem => by
    simpa using hother completed hmem, Option.none_or, List.find?_cons_of_pos]
  simpa using hrequest

lemma commit (h : object.Answers published k) {bound}
    (hversion : object.authoritativeVersion.value.toNat ≤ pending.version.value.toNat)
    (hroom : k + pending.request.defined.toNat < bound) (writer : ParticipantId)
    (boot : ParticipantBootId) (sequence : OperationSequence) :
    (object.commit pending writer boot bound sequence).Answers published
      (k + pending.request.defined.toNat) where
  version := h.version.trans hversion
  kept := by
    obtain ⟨earlier, entry, later, heq, hlength, hother, hentry⟩ := h.kept
    unfold ObjectRecord.commit
    split
    · rename_i hdefined
      rw [hdefined] at hroom ⊢
      rw [Bool.toNat_true] at hroom ⊢
      generalize (⟨pending.request, pending.version, pending.id, sequence⟩ :
        CompletedPublicationRequest) = new
      rw [heq, retainRequests, List.append_assoc, List.cons_append]
      generalize hn : (earlier ++ entry :: (later ++ [new])).length - bound = n
      simp only [List.length_append, List.length_cons, List.length_nil] at hn
      refine ⟨earlier.drop n, entry, later ++ [new], List.drop_append_of_le_length (by omega), ?_,
        fun completed hmem => hother completed (List.mem_of_mem_drop hmem), hentry⟩
      rw [List.length_append, List.length_singleton]
      omega
    · exact ⟨earlier, entry, later, heq, by omega, hother, hentry⟩

end ObjectRecord.Answers

def PendingPublication.identifiedFor (object : ObjectId) (pending : PendingPublication) : Bool :=
  pending.object = object && pending.request.defined

/-- A request has committed: its object keeps it, and the calls in flight for it come too late. -/
structure Answered (published : PendingPublication) (k : Nat) (s : Sys σ) : Prop extends
    Prompt s where
  answers : ∃ object, s.engine.objects[published.object]? = some object ∧
    (s.engine.policyLocked object).isSome ∧ object.Answers published k
  late : ∀ frame ∈ s.frames, frame.pending.object = published.object →
    frame.pending.request = published.request →
    frame.pending.priorVersion.value.toNat < published.version.value.toNat

variable {published : PendingPublication} {k : Nat}

lemma Answered.commits_other (h : Answered published k s)
    (hcommitted : s.committed a = some pending) (hobject : pending.object = published.object) :
    pending.request ≠ published.request := by
  intro hrequest
  obtain ⟨index, frame, target, rfl, hready, htarget, rfl⟩ := committed_some hcommitted
  obtain ⟨object, hfound, -, hanswers⟩ := h.answers
  obtain ⟨-, hfound', hholds⟩ := commitTarget_some htarget
  rw [hobject] at hfound'
  cases hfound.symm.trans hfound'
  have hlate := h.late frame (List.mem_of_getElem? (ready_mem hready).1) hobject hrequest
  have hversion := hanswers.version
  rw [(holds_prior hholds).2.2] at hversion
  omega

/-- A step leaves the request answered, unless it commits one publication too many. -/
lemma Answered.step (h : Answered published k s) (ha : a.Runs)
    (hdefined : published.request.defined = true) (hversions : VersionsLast s a)
    (hroom : k + (s.committed a).toList.countP (·.identifiedFor published.object) <
      s.engine.config.retained) :
    Answered published (k + (s.committed a).toList.countP (·.identifiedFor published.object))
      (s.step a) := by
  obtain ⟨object, hfound, hpolicy, hanswers⟩ := h.answers
  refine { toPrompt := h.toPrompt.step ha hversions, answers := ?_, late := ?_ }
  · obtain ⟨object', hobject', ⟨hsame, hother⟩ | hcommit⟩ := step_published h.keyed ha hfound
    · have hnone : (s.committed a).toList.countP (·.identifiedFor published.object) = 0 := by
        refine List.countP_eq_zero.mpr fun pending hmem => ?_
        have hne := hother pending (Option.mem_toList.mp hmem)
        simp [PendingPublication.identifiedFor, hne]
      refine ⟨object', hobject', policy_kept ha hsame.policy hpolicy, ?_, ?_⟩
      · rw [hsame.requests, hnone]
        exact hanswers.kept
      · rw [hsame.version]
        exact hanswers.version
    obtain ⟨pending, sequence, hcommitted, hobject, hholds, rfl⟩ := hcommit
    refine ⟨_, hobject', policy_kept ha rfl hpolicy, ?_⟩
    have hlt := (h.chained.follows hcommitted hversions).lt
    rw [← (holds_prior hholds).2.2] at hlt
    have hcount : (s.committed a).toList.countP (·.identifiedFor published.object) =
        pending.request.defined.toNat := by
      cases hidentified : pending.request.defined <;>
        simp [hcommitted, PendingPublication.identifiedFor, hobject, hidentified]
    rw [hcount] at hroom ⊢
    exact hanswers.commit (Nat.le_of_lt hlt) hroom _ _ _
  intro frame hframe hobject hrequest
  rcases step_publication ha hframe with ⟨before, hbefore, hsame, -⟩ | ⟨request, rfl, new⟩
  · rw [hsame] at hobject hrequest ⊢
    exact h.late before hbefore hobject hrequest
  -- phase 1 would have found the request
  exfalso
  obtain ⟨reserved, participant, policy, region, receipt, hreserves, rfl, -⟩ :=
    publishReserve_reserved new
  have hgranted := hreserves.found
  have hid := h.keyed.live.objects _ _ hgranted
  have htarget := hid.symm.trans hobject
  rw [htarget] at hgranted
  cases hfound.symm.trans hgranted
  obtain ⟨earlier, entry, later, heq, -, -, hentry, -⟩ := hanswers.kept
  have hsame : request.context.request = published.request := hrequest
  refine publishReserve_first new (hsame ▸ hdefined) (htarget ▸ hfound) entry ?_ ?_
  · rw [heq]
    simp
  · rw [hentry, hsame]

lemma Prompt.answered (h : Prompt s) (hcommitted : s.committed a = some published)
    (hdefined : published.request.defined = true) (hversions : VersionsLast s a) :
    Answered published 0 (s.step a) := by
  have hlt := (h.chained.follows hcommitted hversions).lt
  have hcommit := hcommitted
  obtain ⟨index, frame, object, rfl, hready, htarget, rfl⟩ := committed_some hcommitted
  obtain ⟨-, hfound, hholds⟩ := commitTarget_some htarget
  obtain ⟨object', hfresh⟩ := h.fresh frame (List.mem_of_getElem? (ready_mem hready).1)
  cases hfound.symm.trans hfresh.found
  have hcurrent := (holds_prior hholds).2.2
  refine { toPrompt := h.step (by simp) hversions, answers := ?_, late := ?_ }
  · obtain ⟨after, hafter, ⟨-, hother⟩ | ⟨pending, sequence, hpending, -, -, rfl⟩⟩ :=
      step_published (a := .publishCommit index) h.keyed (by simp) hfound
    · exact absurd rfl (hother _ hcommit)
    cases hcommit.symm.trans hpending
    refine ⟨_, hafter, policy_kept (by simp) rfl hfresh.policy, ?_, Nat.le_refl _⟩
    unfold ObjectRecord.commit
    rw [if_pos hdefined, ObjectRecord.retainRequests]
    have hroom := s.engine.config.retained_pos
    generalize hn : (object.completedRequests ++ [_]).length - s.engine.config.retained = n
    rw [List.length_append, List.length_singleton] at hn
    exact ⟨object.completedRequests.drop n, _, [], List.drop_append_of_le_length (by omega),
      Nat.le_refl _, fun completed hmem =>
        hfresh.first hcurrent hdefined completed (List.mem_of_mem_drop hmem), rfl, rfl, rfl⟩
  rintro other hother hobject -
  cases step_frames (by simp) hother with
  | kept mem =>
    obtain ⟨object', hfresh'⟩ := h.fresh other mem
    have hfound' := hfresh'.found
    rw [hobject] at hfound'
    cases hfound.symm.trans hfound'
    have hbehind := hfresh'.behind
    rw [hcurrent] at hbehind
    exact Nat.lt_of_le_of_lt hbehind hlt

lemma Answered.run (hdefined : published.request.defined = true) :
    ∀ {s : Sys σ} {k : Nat}, Answered published k s → (∀ a ∈ as, a.restarts = false) →
      RunOk Sys.step VersionsLast s as →
      (∀ between pending later, s.commits as = between ++ pending :: later →
        pending.object = published.object → pending.request = published.request →
        s.engine.config.retained ≤ k + between.countP (·.identifiedFor published.object)) ∧
      (k + (s.commits as).countP (·.identifiedFor published.object) < s.engine.config.retained →
        Answered published (k + (s.commits as).countP (·.identifiedFor published.object))
          (s.run as)) := by
  induction as with
  | nil =>
    exact fun h _ _ =>
      ⟨fun between pending later heq => by simp [Sys.commits, yields] at heq, fun _ => h⟩
  | cons a as ih =>
    intro s k h hlife hrun
    have ha := Action.ne_restart (hlife a List.mem_cons_self)
    have hconfig : (s.step a).engine.config = s.engine.config :=
      (step_evolved a ha).frame.config
    rw [commits_cons, List.countP_append, ← Nat.add_assoc]
    have hfirst : ∀ between pending later, (s.committed a).toList ++ (s.step a).commits as =
        between ++ pending :: later → pending.object = published.object →
        pending.request = published.request → ∃ between', (s.step a).commits as =
          between' ++ pending :: later ∧ between = (s.committed a).toList ++ between' := by
      intro between pending later heq hobject hrequest
      cases hcommitted : s.committed a with
      | none => exact ⟨between, by simpa [hcommitted] using heq, by simp⟩
      | some now =>
        rw [hcommitted, Option.toList_some, List.singleton_append] at heq
        cases between with
        | nil =>
          obtain ⟨rfl, -⟩ := List.cons.inj heq
          exact absurd hrequest (h.commits_other hcommitted hobject)
        | cons first between =>
          obtain ⟨rfl, hrest⟩ := List.cons.inj heq
          exact ⟨between, hrest, by simp⟩
    by_cases hroom : k + (s.committed a).toList.countP (·.identifiedFor published.object) <
        s.engine.config.retained
    · obtain ⟨hnone, hafter⟩ := ih (h.step ha hdefined hrun.1 hroom)
        (fun b hb => hlife b (List.mem_cons_of_mem a hb)) hrun.2
      rw [hconfig] at hnone hafter
      refine ⟨fun between pending later heq hobject hrequest => ?_, hafter⟩
      obtain ⟨between', heq', rfl⟩ := hfirst between pending later heq hobject hrequest
      have := hnone between' pending later heq' hobject hrequest
      rw [List.countP_append]
      omega
    · refine ⟨fun between pending later heq hobject hrequest => ?_, fun hless => by omega⟩
      obtain ⟨between', -, rfl⟩ := hfirst between pending later heq hobject hrequest
      rw [List.countP_append]
      omega

omit [ReplayStore σ] in
lemma recordDecision_diagnostics (e : Impl σ) (kind : DecisionKind) (context : DecisionContext)
    (code : StatusCode) (summary : Text) :
    ∃ diagnostics, e.recordDecision kind context code summary = e.withDiagnostics diagnostics := by
  unfold recordDecision
  split
  · exact ⟨e.toDiagnostics, rfl⟩
  · exact ⟨_, rfl⟩

lemma Answered.retry (h : Answered published k s) (hdefined : published.request.defined = true)
    (hobject : request.context.object = published.object)
    (hrequest : request.context.request = published.request) {object}
    (hgranted : s.engine.resolveLocked request.context = .granted object participant) :
    ∃ receipt diagnostics, (s.engine.publishReserve request).1 = .done (.ok receipt) ∧
      receipt.publication = published.id ∧ receipt.version = published.version ∧
      (s.engine.publishReserve request).2 =
        s.engine.takeDecisionId.withDiagnostics diagnostics := by
  obtain ⟨found, hfound, hpolicy, hanswers⟩ := h.answers
  have hobject' := resolveLocked_found hgranted
  rw [hobject] at hobject'
  cases hfound.symm.trans hobject'
  obtain ⟨policy, hpolicy⟩ := Option.isSome_iff_exists.mp hpolicy
  obtain ⟨entry, hentry, hid, hversion⟩ := hanswers.find
  have hpolicy' : s.engine.takeDecisionId.policyLocked object = some policy := hpolicy
  unfold publishReserve
  simp only [hgranted, hpolicy', hrequest, hdefined, if_true, hentry]
  obtain ⟨diagnostics, hdiagnostics⟩ := recordDecision_diagnostics s.engine.takeDecisionId ..
  exact ⟨_, diagnostics, rfl, hid, hversion, hdiagnostics⟩

end Retries

section Theorem

variable [ReplayStore σ]

lemma boot_retained (config : EngineConfig) (store : Option σ) :
    (boot config store).engine.config.retained = config.retained := by
  have hboot := boot_cases config store
  generalize boot config store = s at hboot ⊢
  cases hboot with
  | detached => rfl
  | refused => rfl
  | recovered =>
    rw [(recoverFrom_frame ..).2.2.1]
    rfl

lemma run_config : ∀ {s : Sys σ}, (∀ a ∈ as, a.restarts = false) →
    (s.run as).engine.config = s.engine.config := by
  induction as with
  | nil => exact fun _ => rfl
  | cons a as ih =>
    intro s hlife
    exact (ih fun b hb => hlife b (List.mem_cons_of_mem a hb)).trans
      (step_evolved a (Action.ne_restart (hlife a List.mem_cons_self))).frame.config

/-- **Publication is at-most-once per request**: in the life of one engine no request commits twice.
As long as fewer publications with a request identity have been committed to its object since than
the object keeps, no other publication commits under the request identity of a publication, and a
retry that passes the authority check gets its identity and its version and changes nothing but the
record of decisions. -/
theorem publication_at_most_once (config : EngineConfig) (store : Option σ) (as : List Action)
    (hlife : ∀ a ∈ as, a.restarts = false)
    (hversions : RunOk Sys.step VersionsLast (Sys.boot config store) as) :
    let s := (Sys.boot config store).run as
    ((Sys.boot config store).committedRequests [] as).Nodup ∧
      ∀ before published after,
        (Sys.boot config store).commits as = before ++ published :: after →
        published.request.defined = true →
        (∀ between pending later, after = between ++ pending :: later →
          pending.object = published.object → pending.request = published.request →
          config.retained ≤ between.countP (·.identifiedFor published.object)) ∧
        (after.countP (·.identifiedFor published.object) < config.retained →
          ∀ request object participant, request.context.object = published.object →
            request.context.request = published.request →
            s.engine.resolveLocked request.context = .granted object participant →
            ∃ receipt diagnostics,
              (s.engine.publishReserve request).1 = .done (.ok receipt) ∧
                receipt.publication = published.id ∧ receipt.version = published.version ∧
                s.step (.publishReserve request) =
                  { s with engine := s.engine.takeDecisionId.withDiagnostics diagnostics }) := by
  intro s
  refine ⟨committedRequests_nodup LiveKeyed.boot Chained.boot (by rw [boot_frames]; rfl) hlife
    hversions, fun before published after hcommits hdefined => ?_⟩
  obtain ⟨as₁, a, as₂, rfl, hcommitted, rfl⟩ := yields_split hcommits
  obtain ⟨hversions₁, hversion, hversions₂⟩ := runOk_append.mp hversions
  have hlife₁ : ∀ b ∈ as₁, b.restarts = false := fun b hb => hlife b (by simp [hb])
  have hlife₂ : ∀ b ∈ as₂, b.restarts = false := fun b hb => hlife b (by simp [hb])
  have ha := Action.ne_restart (hlife a (by simp))
  have hprompt : Prompt ((Sys.boot config store).run as₁) :=
    run_invariant (fun _ _ hok h => h.step (Action.ne_restart hok.2) hok.1) Prompt.boot
      (hversions₁.and_mem hlife₁)
  have hconfig : (((Sys.boot config store).run as₁).step a).engine.config.retained =
      config.retained := by
    rw [(step_evolved a ha).frame.config, run_config hlife₁,
      boot_retained]
  obtain ⟨honce, hanswered⟩ :=
    (hprompt.answered hcommitted hdefined hversion).run hdefined hlife₂ hversions₂
  rw [hconfig, Nat.zero_add] at hanswered
  simp only [hconfig, Nat.zero_add] at honce
  refine ⟨honce, fun hroom request object participant hobject hrequest hgranted => ?_⟩
  have hs : s = (((Sys.boot config store).run as₁).step a).run as₂ := Sys.run_append ..
  have hfinal := hanswered hroom
  rw [← hs] at hfinal
  obtain ⟨receipt, diagnostics, hresult, hid, hversion, hengine⟩ :=
    hfinal.retry hdefined hobject hrequest hgranted
  refine ⟨receipt, diagnostics, hresult, hid, hversion, ?_⟩
  change s.reserve request = _
  unfold Sys.reserve
  simp only [hresult, hengine]

theorem publication_at_most_once_retried :
    let as := Duo.owned ++ [.publishReserve Duo.identified, .publishAppend 0, .publishCommit 0]
    let s := Duo.start.run as
    (Duo.start.commits as).map (fun pending => (pending.id, pending.request)) = [(⟨1⟩, ⟨7⟩)] ∧
      ∃ receipt diagnostics,
        (s.engine.publishReserve Duo.identified).1 = .done (.ok receipt) ∧
          receipt.publication = ⟨1⟩ ∧
          s.step (.publishReserve Duo.identified) =
            { s with engine := s.engine.takeDecisionId.withDiagnostics diagnostics } := by
  intro as s
  have hcommits : (Duo.start.commits as).map (fun pending =>
      (pending.id, pending.object, pending.request)) = [(⟨1⟩, ⟨1⟩, ⟨7⟩)] := by decide +kernel
  obtain ⟨published, rest, hsplit, hfields, hrest⟩ := List.map_eq_cons_iff.mp hcommits
  obtain rfl := List.map_eq_nil_iff.mp hrest
  simp only [Prod.mk.injEq] at hfields
  obtain ⟨hid, hobject, hrequest⟩ := hfields
  have hgranted : (match s.engine.resolveLocked Duo.identified.context with
      | .granted _ _ => true
      | .refused _ _ => false) = true := by decide +kernel
  split at hgranted
  · rename_i object participant hresolved
    obtain ⟨receipt, diagnostics, hresult, hpublication, -, hstep⟩ :=
      ((publication_at_most_once {} (some ({} : LogStore)) as (by decide)
        (by decide +kernel)).2 [] published [] hsplit (by rw [hrequest]; rfl)).2
        (EngineConfig.retained_pos _)
        Duo.identified object participant hobject.symm hrequest.symm hresolved
    exact ⟨by rw [hsplit, List.map_cons, hid, hrequest, List.map_nil], receipt, diagnostics,
      hresult, hpublication.trans hid, hstep⟩
  · cases hgranted

end Theorem

/-! ### The versions of an object come round

The writer may publish as often as it likes, and the version is a 64-bit number. -/

section Round

variable [ReplayStore σ] {sequence : OperationSequence} {policy : CoherencePolicy}
  {boot : ParticipantBootId} {writer : ParticipantId} {bound index : Nat} {s : Sys σ}

def PublishRequest.phases (request : PublishRequest) : List Action :=
  [.publishReserve request, .publishAppend 0, .publishCommit 0]

/-- The same request for the version after another one. -/
def PublishRequest.after (request : PublishRequest) (version : VersionId) : PublishRequest :=
  { request with expectedBaseVersion := version }

section Commit

variable {e : Impl σ} {request : PublishRequest} {frame : PublishFrame} {object : ObjectRecord}
  {ownership : OwnershipGeneration} {region : RegionRecord} {evidence : EvidenceId} {e' : Impl σ}

lemma commitPublication_ledger (hid : object.id = frame.pending.object) :
    (e.commitPublication frame object).2.ledger =
      { e.ledger.setObject frame.pending.object (e.committedObject frame object) with
        regions := e.regions.map fun key region =>
          region.afterCommit key frame object.replicas ⟨e.nextEvidenceId⟩ e.tick.sequence } := by
  obtain ⟨context, rationale, heq⟩ := commitPublication_engine (e := e) frame object
  rw [heq, maybeCompactLocked_toRecords, recordDecision_toRecords]
  exact marked_ledger hid

lemma markRegionsStaleLocked_epoch (id : ObjectId) (version : VersionId) (except : RegionId) :
    (e.markRegionsStaleLocked id version except).epoch = e.epoch := by
  obtain ⟨regions, p, heq, -⟩ := markRegionsStaleLocked_eq (e := e) id version except
  rw [heq]
  rfl

lemma commitPublication_epoch : (e.commitPublication frame object).2.epoch = e.epoch := by
  obtain ⟨context, rationale, heq⟩ := commitPublication_engine (e := e) frame object
  have hcompact : ∀ e : Impl σ, e.maybeCompactLocked.2.epoch = e.epoch := by
    intro e
    unfold maybeCompactLocked
    repeat' split
    all_goals rfl
  rw [heq, hcompact, recordDecision_epoch]
  refine (markRegionsStaleLocked_epoch ..).trans ?_
  unfold committing publishRegion
  split <;> rfl

omit [ReplayStore σ] in
lemma resolveRegionLocked_publish {id generation}
    (h : e.resolveRegionLocked object id generation = .ok region)
    (hregion : e'.regions[id]? = some (region.publish pending ownership evidence sequence)) :
    e'.resolveRegionLocked object id generation =
      .ok (region.publish pending ownership evidence sequence) := by
  unfold resolveRegionLocked at h ⊢
  rw [hregion]
  split at h
  · cases h
  split at h
  · cases h
  split at h
  · cases h
  · rename_i hobject hgeneration
    cases h
    exact (if_neg hobject).trans (if_neg hgeneration)

omit [ReplayStore σ] in
lemma publishRefusal_after {sequence'} (h : e.publishRefusal request policy object = .ok region)
    (hinitial : request.allowWithoutDirty = true) (hregion : e'.regions[request.region]? =
      some (region.publish pending ownership evidence sequence))
    (houtstanding : e'.hasOutstandingInvalidationsLocked object.id =
      e.hasOutstandingInvalidationsLocked object.id) :
    e'.publishRefusal (request.after pending.version) policy
      (object.commit pending writer boot bound sequence') =
        .ok (region.publish pending ownership evidence sequence) := by
  unfold publishRefusal at h ⊢
  dsimp only at h ⊢
  repeat' split at h
  all_goals cases h
  rename_i hexclusive hwriter hownership _ hacknowledged hcontent _ _ hfound hsource
  let object' := object.commit pending writer boot bound sequence'
  have hresolved : e'.resolveRegionLocked object' request.region request.regionGeneration =
      .ok (region.publish pending ownership evidence sequence) :=
    resolveRegionLocked_publish hfound hregion
  have howner := (publishSourceRefusal_none hsource).1
  have hnone : publishSourceRefusal (request.after pending.version) object'.authoritativeVersion
      (region.publish pending ownership evidence sequence) = none := by
    simp [publishSourceRefusal, after, RegionRecord.publish, object',
      ObjectRecord.commit, howner, hinitial]
  rw [← houtstanding] at hacknowledged
  refine (if_neg hexclusive).trans ((if_neg hwriter).trans ((if_neg hownership).trans
    ((if_neg (not_not.mpr rfl)).trans ((if_neg hacknowledged).trans
      ((if_neg hcontent).trans ?_)))))
  simp only [object', after] at hresolved hnone ⊢
  simp only [hresolved, hnone]

end Commit

lemma checkObject_commit {ctx object} (h : checkObject ctx object = none) :
    checkObject ctx (object.commit pending writer boot bound sequence) = none := by
  unfold checkObject at h ⊢
  repeat' split at h
  all_goals cases h
  rename_i hgeneration hretired hrecovery hquiescing hpolicy
  exact (if_neg hgeneration).trans ((if_neg hretired).trans ((if_neg hrecovery).trans
    ((if_neg hquiescing).trans (if_neg hpolicy))))

lemma commit_participant {id : ParticipantId} (h : s.engine.participants[id]? = some participant) :
    (s.step (.publishCommit index)).engine.participants[id]? = some participant := by
  obtain ⟨participant', hfound, hsteps⟩ :=
    (step_evolved (.publishCommit index) (by simp)).records.participants.forward h
  rcases hsteps.cases_head with rfl | ⟨_, hstep, -⟩
  · exact hfound
  · cases hstep with
    | replace new => cases new

lemma commit_policy {object} (hsame : object'.policy = object.policy)
    (h : s.engine.policyLocked object = some policy) :
    (s.step (.publishCommit index)).engine.policyLocked object' = some policy := by
  obtain ⟨policy', hfound, hsteps⟩ :=
    (step_evolved (.publishCommit index) (by simp)).records.policies.forward h
  unfold policyLocked
  rw [hsame]
  rcases hsteps.cases_head with rfl | ⟨_, hstep, -⟩
  · exact hfound
  · cases hstep with
    | replace new => cases new

lemma Reservable.commit {s : Sys σ} {request object frame index}
    (h : Reservable s.engine request object)
    (hready : s.ready index = some frame) (htarget : s.engine.commitTarget frame = some object)
    (hinitial : request.allowWithoutDirty = true) (hregion : frame.region = request.region)
    (hobject : frame.pending.object = request.context.object) :
    ∃ object', Reservable (s.step (.publishCommit index)).engine
      (request.after frame.pending.version) object' := by
  obtain ⟨participant, policy, region, hgranted, hpolicy, hallowed⟩ := h.reserves
  obtain ⟨hrunning, hcaller, hepoch, hfound, hcheck, hparticipant, hlive⟩ :=
    resolveLocked_granted_iff.mp hgranted
  have hengine : (s.step (.publishCommit index)).engine =
      ((s.engine.settling frame).commitPublication frame object).2 :=
    (commit_engine hready).trans (publishCommit_target htarget)
  have hledger := commitPublication_ledger (e := s.engine.settling frame)
    (h.keyed.trans hobject.symm)
  rw [← hengine, settling_toRecords] at hledger
  let object' := (s.engine.settling frame).committedObject frame object
  generalize hafter : (s.step (.publishCommit index)).engine = e at hengine hledger ⊢
  have hobjects : e.objects = s.engine.objects.insert frame.pending.object object' :=
    congrArg Ledger.objects hledger
  have hregions : e.regions = s.engine.regions.map fun key region => region.afterCommit key frame
      object.replicas ⟨(s.engine.settling frame).nextEvidenceId⟩
      (s.engine.settling frame).tick.sequence := congrArg Ledger.regions hledger
  have hinvalidations : e.invalidations = s.engine.invalidations :=
    congrArg Ledger.invalidations hledger
  have hobject' : e.objects[request.context.object]? = some object' := by
    rw [hobjects, ← hobject]
    exact getElem?_insert_self
  have hepoch' : e.epoch = s.engine.epoch := by
    rw [hengine, commitPublication_epoch, settling_epoch]
  have hrunning' : e.shuttingDown = s.engine.shuttingDown := by
    rw [← hafter]
    exact (step_evolved (.publishCommit index) (by simp)).frame.shuttingDown.resolve_left
      (by simp [Action.shutsDown])
  have houtstanding : e.hasOutstandingInvalidationsLocked object.id =
      s.engine.hasOutstandingInvalidationsLocked object.id := by
    unfold Records.hasOutstandingInvalidationsLocked Records.anyRequested
    rw [h.keyed, hobject', hfound, hinvalidations]
    rfl
  have hregion' := congrArg (·[request.region]?) hregions
  simp only [getElem?_map, (publishRefusal_ok hallowed).found, Option.map_some,
    RegionRecord.afterCommit, if_pos hregion.symm] at hregion'
  refine ⟨object', ⟨participant, policy, _, ?_, ?_,
    publishRefusal_after hallowed hinitial hregion' houtstanding⟩, h.first, h.keyed⟩
  · exact resolveLocked_granted_iff.mpr ⟨hrunning'.trans hrunning, hcaller,
      hepoch.trans hepoch'.symm, hobject', checkObject_commit hcheck,
      hafter ▸ commit_participant hparticipant, hlive⟩
  · rw [← hafter]
    exact commit_policy rfl hpolicy

/-- The writer may publish, and no call is in flight. -/
structure Publishing (s : Sys σ) (request : PublishRequest) : Prop where
  idle : s.frames = []
  detached : s.engine.store = none
  initial : request.allowWithoutDirty = true
  ready : ∃ object, Reservable s.engine request object

lemma Publishing.publish {s : Sys σ} {request} (h : Publishing s request) :
    ∃ frame, (s.engine.publishReserve request).1 = .reserved frame ∧
      ((s.step (.publishReserve request)).step (.publishAppend 0)).committed (.publishCommit 0) =
        some frame.pending ∧ Publishing (s.run request.phases)
        (request.after (VersionId.successor request.expectedBaseVersion)) := by
  obtain ⟨object, hobject⟩ := h.ready
  obtain ⟨policy, receipt, heq⟩ := hobject.reserve
  obtain ⟨_, _, _, _, _, hallowed⟩ := hobject.reserves
  have hbase := (publishRefusal_ok hallowed).base
  have hagain := hobject.again policy receipt
  let frame := (s.engine.reservation request policy object receipt).1
  let recorded : PublishFrame := { frame with durableStatus := some .success }
  have hrecorded : (s.step (.publishReserve request)).step (.publishAppend 0) =
      { s with
        engine := (s.engine.reservation request policy object receipt).2
        frames := [recorded] } := by
    have hreserved : s.step (.publishReserve request) =
        { s with
          engine := (s.engine.reservation request policy object receipt).2
          frames := [frame] } := by
      change s.reserve request = _
      unfold reserve
      simp only [heq, h.idle, List.nil_append, frame]
    have happended : (s.engine.reservation request policy object receipt).2.publishAppend frame =
        (recorded, (s.engine.reservation request policy object receipt).2) := by
      have hdetached : (s.engine.reservation request policy object receipt).2.store = none :=
        h.detached
      unfold publishAppend
      simp only [hdetached, recorded]
    rw [hreserved]
    change append ({ s with engine := _, frames := [frame] } : Sys σ) 0 = _
    unfold append
    simp only [List.getElem?_cons_zero, happended]
    rfl
  refine ⟨frame, congrArg Prod.fst heq, ?_⟩
  rw [show s.run request.phases =
    ((s.step (.publishReserve request)).step (.publishAppend 0)).step (.publishCommit 0) from rfl,
    hrecorded]
  generalize ht : ({ s with
    engine := (s.engine.reservation request policy object receipt).2
    frames := [recorded] } : Sys σ) = t
  have hengine : t.engine = (s.engine.reservation request policy object receipt).2 := by rw [← ht]
  rw [← hengine] at hagain
  have hready : t.ready 0 = some recorded := by
    subst ht
    exact Option.filter_eq_some_iff.mpr ⟨rfl, rfl⟩
  have htarget : t.engine.commitTarget recorded = some
      (object.reserve frame.pending s.engine.sequence.next) := by
    refine (if_pos rfl).trans (Option.filter_eq_some_iff.mpr ⟨?_, ?_⟩)
    · exact (congrArg _ hobject.keyed).trans hagain.found
    · simp [ObjectRecord.holds, ObjectRecord.reserve, frame, recorded, reservePublication,
        newPending]
  refine ⟨by simp [committed, hready, htarget, recorded], ?_, ?_, h.initial, ?_⟩
  · exact (commit_frames hready).trans (by rw [← ht]; rfl)
  · have hattached :=
      (step_evolved (s := t) (.publishCommit 0) (by simp)).persist.store_isSome
    rw [hengine, show (s.engine.reservation request policy object receipt).2.store = none from
      h.detached] at hattached
    simpa using hattached
  · have hnext := hagain.commit hready htarget h.initial rfl hobject.keyed
    rw [hbase]
    exact hnext

def PublishRequest.repeated (request : PublishRequest) : Nat → List Action
  | 0 => []
  | n + 1 => request.phases ++
      (request.after (VersionId.successor request.expectedBaseVersion)).repeated n

def PublishRequest.successors (request : PublishRequest) : Nat → List PublishRequest
  | 0 => []
  | n + 1 => request ::
      (request.after (VersionId.successor request.expectedBaseVersion)).successors n

lemma Publishing.repeated : ∀ {n : Nat} {s : Sys σ} {request : PublishRequest},
    Publishing s request → s.committedRequests [] (request.repeated n) = request.successors n
  | 0, _, _, _ => rfl
  | n + 1, s, request, h => by
    obtain ⟨frame, hreserved, hcommitted, hnext⟩ := h.publish
    obtain ⟨index, recorded, _, hindex, hready, -, -⟩ := committed_some hcommitted
    cases hindex
    have hrest := hnext.repeated (n := n)
    simp only [PublishRequest.repeated, PublishRequest.phases, List.cons_append, List.nil_append,
      committedRequests_cons, committedRequest, callers, hreserved, hcommitted, hready,
      Option.isSome_some, if_true, List.eraseIdx_cons_zero, Option.bind_some,
      List.getElem?_cons_zero, Option.toList_some, Option.toList_none, PublishRequest.successors]
    exact congrArg _ hrest

lemma VersionId.successor_eq (n : UInt64) : VersionId.successor ⟨n⟩ = ⟨n + 1⟩ := by
  unfold VersionId.successor
  split
  · rfl
  rename_i hnil
  obtain rfl : n = 0 := by simpa [StrongId.nil] using hnil
  rfl

/-- The requests differ in the version they follow, which is counted modulo the 64-bit numbers. -/
lemma PublishRequest.getElem?_successors : ∀ {n k : Nat} {request : PublishRequest}, k < n →
    (request.successors n)[k]? = some (request.after
      ⟨request.expectedBaseVersion.value + UInt64.ofNat k⟩)
  | 0, _, _, h => absurd h (Nat.not_lt_zero _)
  | n + 1, 0, request, _ => by
    simp [successors, after]
  | n + 1, k + 1, request, h => by
    rw [successors, List.getElem?_cons_succ,
      PublishRequest.getElem?_successors (Nat.lt_of_succ_lt_succ h)]
    have hnext := VersionId.successor_eq request.expectedBaseVersion.value
    change some (request.after
      ⟨(VersionId.successor request.expectedBaseVersion).value + UInt64.ofNat k⟩) = _
    rw [show VersionId.successor request.expectedBaseVersion = _ from hnext, UInt64.ofNat_add,
      UInt64.add_assoc, UInt64.add_comm (UInt64.ofNat k)]
    rfl

/-- Steps that are no phase of a publish call neither commit a call nor change the callers. -/
lemma committedRequests_skip {bs requests} :
    ∀ {s : Sys σ}, (∀ a ∈ as, a.reserves = false ∧ a.commits = false ∧ a.restarts = false) →
      s.committedRequests requests (as ++ bs) = (s.run as).committedRequests requests bs := by
  induction as with
  | nil => exact fun {_} _ => rfl
  | cons a as ih =>
    intro s h
    obtain ⟨hreserves, hcommits, hrestarts⟩ := h a List.mem_cons_self
    have hcallers : s.callers requests a = requests := by
      cases a with
      | publishReserve => cases hreserves
      | publishCommit => cases hcommits
      | restart => cases hrestarts
      | _ => rfl
    have hnone : s.committedRequest requests a = none := by
      cases a with
      | publishCommit => cases hcommits
      | _ => rfl
    rw [List.cons_append, committedRequests_cons, hcallers, hnone,
      ih fun b hb => h b (List.mem_cons_of_mem a hb)]
    rfl

lemma PublishRequest.repeated_restarts : ∀ {n : Nat} {request : PublishRequest},
    ∀ a ∈ request.repeated n, a.restarts = false
  | 0, _, _, h => absurd h List.not_mem_nil
  | n + 1, request, a, h => by
    rcases List.mem_append.mp h with h | h
    · simp only [phases, List.mem_cons, List.not_mem_nil, or_false] at h
      rcases h with rfl | rfl | rfl <;> rfl
    · exact repeated_restarts a h

end Round

lemma Duo.owned_publishing :
    Publishing ((boot {} none : Sys LogStore).run Duo.owned) Duo.publishRequest := by
  have hreserved : (((boot {} none : Sys LogStore).run Duo.owned).engine.publishReserve
      Duo.publishRequest).1.frame?.isSome = true := by decide +kernel
  have hkeyed : ∀ object ∈ ((boot {} none : Sys LogStore).run
      Duo.owned).engine.objects[Duo.publishRequest.context.object]?,
      object.id = Duo.publishRequest.context.object := by
    decide +kernel
  have hidle : ((boot {} none : Sys LogStore).run Duo.owned).frames.isEmpty = true := by
    decide +kernel
  have hdetached : ((boot {} none : Sys LogStore).run Duo.owned).engine.store.isNone = true := by
    decide +kernel
  generalize (boot {} none : Sys LogStore).run Duo.owned = s at *
  refine ⟨List.isEmpty_iff.mp hidle, Option.isNone_iff_eq_none.mp hdetached, rfl, ?_⟩
  obtain ⟨frame, hframe⟩ := Option.isSome_iff_exists.mp hreserved
  exact Reservable.of_reserved (Impl.Reservation.eq_reserved hframe) rfl hkeyed

/-- The versions of the object have come round: the first request commits a second time. -/
theorem request_commits_again : ∃ as : List Action, (∀ a ∈ as, a.restarts = false) ∧
    ¬ ((Sys.boot {} none : Sys LogStore).committedRequests [] as).Nodup := by
  have howned : ∀ a ∈ Duo.owned, a.reserves = false ∧ a.commits = false ∧ a.restarts = false := by
    decide
  refine ⟨Duo.owned ++ Duo.publishRequest.repeated (UInt64.size + 1), fun a ha => ?_, ?_⟩
  · rcases List.mem_append.mp ha with ha | ha
    · exact (howned a ha).2.2
    · exact PublishRequest.repeated_restarts a ha
  rw [committedRequests_skip howned, Duo.owned_publishing.repeated]
  intro hnodup
  have hfirst := Duo.publishRequest.getElem?_successors (Nat.succ_pos UInt64.size)
  have hlast := Duo.publishRequest.getElem?_successors (Nat.lt_succ_self UInt64.size)
  have hround : UInt64.ofNat UInt64.size = UInt64.ofNat 0 := by decide
  rw [hround, ← hfirst] at hlast
  have hindex := (List.getElem?_inj ?_ hnodup).mp hlast
  · cases hindex
  · exact (List.getElem?_eq_some_iff.mp (hlast.trans hfirst)).1

end CoherenceFabric
