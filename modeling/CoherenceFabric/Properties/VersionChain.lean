import CoherenceFabric.Deployment
import CoherenceFabric.Invariants.InFlight

/-!
The chain of versions of an object.

Several calls may hold a reservation of the same version at once. Phase 3 commits a call only
if the object still names its publication and still has the version the reservation was made
against, so a commit always moves the version by one.
-/

namespace CoherenceFabric

open FiniteMap Relation Transition Sys Duo

variable {σ : Type}

/-- One version follows another: it is the first one, or the next number. -/
def Follows (prior version : VersionId) : Prop :=
  prior = .nil ∧ version = ⟨1⟩ ∨
    prior ≠ .nil ∧ version.value.toNat = prior.value.toNat + 1

/-- The version a commit makes is below the end of the 64-bit numbers. -/
def VersionsLast (s : Sys σ) (a : Action) : Prop :=
  ∀ pending ∈ s.committed a, pending.priorVersion.value.toNat + 1 < UInt64.size

instance (s : Sys σ) (a : Action) : Decidable (VersionsLast s a) :=
  inferInstanceAs (Decidable (∀ pending ∈ s.committed a, _))

variable [StoreMedium σ] {s : Sys σ} {a : Action} {as : List Action} {object object' : ObjectRecord}
  {key : ObjectId} {pending : PendingPublication} {config : EngineConfig} {store : Option σ}
  {frame : PublishFrame} {n : Nat}

def Sys.commits (s : Sys σ) (as : List Action) : List PendingPublication :=
  yields Sys.step (fun s a => (s.committed a).toList) s as

lemma commits_cons : s.commits (a :: as) = (s.committed a).toList ++ (s.step a).commits as := rfl

lemma commits_append {bs} : s.commits (as ++ bs) = s.commits as ++ (s.run as).commits bs :=
  yields_append

/-- What a step does to the version of an object: a commit moves it, nothing else does. -/
def VersionStep (s : Sys σ) (a : Action) : Prop :=
  ∀ (id : ObjectId) object', (s.step a).engine.objects[id]? = some object' →
    match s.engine.objects[id]? with
    | none => object'.authoritativeVersion = .nil
    | some object => object'.authoritativeVersion = object.authoritativeVersion ∨
      ∃ pending, s.committed a = some pending ∧ pending.object = id ∧
        object'.authoritativeVersion = pending.version ∧
        Follows object.authoritativeVersion pending.version

/-! ### What a step does to a version -/

omit [StoreMedium σ] in
lemma recomputeAuthorityLocked_version (e : Impl σ) (object : ObjectRecord) :
    (e.recomputeAuthorityLocked object).authoritativeVersion = object.authoritativeVersion := by
  unfold Impl.recomputeAuthorityLocked
  repeat' split
  all_goals rfl

omit [StoreMedium σ] in
lemma ObjectStep.version_eq (ha : ∀ index, a ≠ .publishCommit index)
    (h : ObjectStep s a key object object') :
    object'.authoritativeVersion = object.authoritativeVersion := by
  cases h with
  | recompute e => exact recomputeAuthorityLocked_version e object
  | addReadGrant e =>
    unfold Impl.addReadGrantLocked
    repeat' split
    all_goals rfl
  | revokeWriter =>
    unfold ObjectRecord.revokeWriter ObjectRecord.loseDirty
    dsimp only
    repeat' split
    all_goals rfl
  | shutdown =>
    unfold ObjectRecord.shutdown
    dsimp only
    split <;> rfl
  | releaseDirty =>
    unfold ObjectRecord.releaseDirty
    repeat' split
    all_goals rfl
  | abort | commit => exact absurd rfl (ha _)
  | _ => rfl

omit [StoreMedium σ] in
lemma NewObject.version_nil (h : NewObject s a key object) :
    object.authoritativeVersion = .nil := by
  cases h
  rfl

lemma publishCommit_objects {e : Impl σ} (frame : PublishFrame) :
    (e.publishCommit frame).2.objects = e.objects ∨
      ∃ object, e.objects[frame.pending.object]? = some object ∧
        ((e.publishCommit frame).2.objects =
            e.objects.insert frame.pending.object object.abortPending ∨
          e.commitTarget frame = some object ∧ (e.publishCommit frame).2.objects =
            e.objects.insert frame.pending.object
              ((e.settling frame).committedObject frame object)) := by
  have hcases := publishCommit_cases (e := e) frame
  generalize (e.publishCommit frame).2 = e' at hcases ⊢
  cases hcases with
  | missing => exact .inl rfl
  | failed found => exact .inr ⟨_, found, .inl (by rw [Impl.recordDecision_toRecords]; rfl)⟩
  | superseded found =>
    refine .inr ⟨_, found, .inl ?_⟩
    rw [Impl.recordDecision_toRecords, clearPending_toRecords]
    simp [Records.setObject]
  | @committed object target =>
    refine .inr ⟨object, (commitTarget_some target).2.1, .inr ⟨target, ?_⟩⟩
    rw [commitPublication_objects, settling_toRecords]

lemma step_version (ha : a.Runs) {id : ObjectId}
    (h : (s.step a).engine.objects[id]? = some object') :
    (s.engine.objects[id]? = none ∧ object'.authoritativeVersion = .nil) ∨
      ∃ object, s.engine.objects[id]? = some object ∧
        (object'.authoritativeVersion = object.authoritativeVersion ∨
          ∃ pending, s.committed a = some pending ∧ pending.object = id ∧
            object.holds pending ∧ object'.authoritativeVersion = pending.version) := by
  by_cases hcommit : ∃ index, a = .publishCommit index
  · obtain ⟨index, rfl⟩ := hcommit
    right
    change (s.commit index).engine.objects[id]? = some object' at h
    cases hready : s.ready index with
    | none =>
      rw [commit_idle hready] at h
      exact ⟨object', h, .inl rfl⟩
    | some frame =>
      rw [commit_engine hready] at h
      rcases publishCommit_objects (e := s.engine) frame with
        hsame | ⟨object, hobject, habort | ⟨htarget, hcommit⟩⟩
      · exact ⟨object', hsame ▸ h, .inl rfl⟩
      · rw [habort, getElem?_insert] at h
        split at h
        · rename_i hid
          cases Std.LawfulEqOrd.eq_of_compare hid
          cases h
          exact ⟨object, hobject, .inl rfl⟩
        · exact ⟨object', h, .inl rfl⟩
      rw [hcommit, getElem?_insert] at h
      split at h
      · rename_i hid
        cases Std.LawfulEqOrd.eq_of_compare hid
        cases h
        refine ⟨object, hobject, .inr ⟨frame.pending, ?_, rfl, (commitTarget_some htarget).2.2,
          rfl⟩⟩
        simp [committed, hready, htarget]
      · exact ⟨object', h, .inl rfl⟩
  have hstep := ((step_evolved a ha).records.objects.origin id object' h)
  have hnone : ∀ index, a ≠ .publishCommit index := fun index hindex => hcommit ⟨index, hindex⟩
  have hsame : ∀ {before after}, ReflTransGen (ObjectStep s a id) before after →
      after.authoritativeVersion = before.authoritativeVersion := by
    intro before after hsteps
    induction hsteps with
    | refl => rfl
    | tail _ hlast ih => exact (hlast.version_eq hnone).trans ih
  cases hstep with
  | old found steps => exact .inr ⟨_, found, .inl (hsame steps)⟩
  | new absent admitted steps => exact .inl ⟨absent, (hsame steps).trans admitted.version_nil⟩

lemma committed_after (h : s.committed a = some pending) :
    ∃ object, (s.step a).engine.objects[pending.object]? = some object ∧
      object.authoritativeVersion = pending.version := by
  obtain ⟨index, frame, object, rfl, hready, htarget, rfl⟩ := committed_some h
  refine ⟨(s.engine.settling frame).committedObject frame object, ?_, rfl⟩
  change (s.commit index).engine.objects[frame.pending.object]? = _
  rw [commit_engine hready, publishCommit_target htarget, commitPublication_objects,
    getElem?_insert_self]

/-! ### The versions that the calls in flight reserve -/

/-- Every call in flight reserves the version after the one it found. -/
def Chained (s : Sys σ) : Prop :=
  ∀ frame ∈ s.frames, frame.pending.version =
    if frame.pending.priorVersion.defined then frame.pending.priorVersion.next else ⟨1⟩

lemma Chained.step (h : Chained s) (ha : a.Runs) : Chained (s.step a) := by
  intro frame hframe
  rcases step_publication ha hframe with ⟨before, hbefore, hsame, -⟩ | ⟨request, rfl, hnew⟩
  · exact hsame ▸ h before hbefore
  · obtain ⟨_, _, _, _, _, -, rfl, -⟩ := publishReserve_reserved hnew
    rfl

lemma Chained.boot : Chained (boot config store) :=
  fun _ h => absurd h not_mem_boot_frames

omit [StoreMedium σ] in
lemma Chained.follows (h : Chained s) (hcommitted : s.committed a = some pending)
    (hlast : VersionsLast s a) : Follows pending.priorVersion pending.version := by
  have hbound := hlast pending hcommitted
  obtain ⟨index, frame, object, rfl, hready, -, rfl⟩ := committed_some hcommitted
  rw [h frame (List.mem_of_getElem? (ready_mem hready).1)]
  by_cases hprior : frame.pending.priorVersion = .nil
  · exact .inl ⟨hprior, by simp [hprior]⟩
  · refine .inr ⟨hprior, ?_⟩
    rw [if_pos (by simpa using hprior)]
    exact StrongId.next_toNat hbound

omit [StoreMedium σ] in
lemma Chained.commit_follows (h : Chained s) {index} (hready : s.ready index = some frame)
    (htarget : s.engine.commitTarget frame = some object)
    (hlast : VersionsLast s (.publishCommit index)) :
    Follows object.authoritativeVersion frame.pending.version := by
  have hcommitted : s.committed (.publishCommit index) = some frame.pending := by
    simp [committed, hready, htarget]
  rw [(holds_prior (commitTarget_some htarget).2.2).2.2]
  exact h.follows hcommitted hlast

lemma Follows.lt {prior version} (h : Follows prior version) :
    prior.value.toNat < version.value.toNat := by
  rcases h with ⟨rfl, rfl⟩ | ⟨-, h⟩
  · decide
  · omega

lemma Chained.versionStep (h : Chained s) (ha : a.Runs)
    (hlast : VersionsLast s a) : VersionStep s a := by
  intro id object' hobject'
  rcases step_version ha hobject' with ⟨hnone, hnil⟩ | ⟨object, hobject, hsame | hcommit⟩
  · simpa [hnone] using hnil
  · simpa [hobject] using .inl hsame
  obtain ⟨pending, hcommitted, hid, hholds, hversion⟩ := hcommit
  rw [hobject]
  refine .inr ⟨pending, hcommitted, hid, hversion, ?_⟩
  rw [(holds_prior hholds).2.2]
  exact h.follows hcommitted hlast

lemma commits_above : ∀ {s : Sys σ}, Chained s →
    (∀ a ∈ as, a.restarts = false) → RunOk step VersionsLast s as →
    ∀ pending ∈ s.commits as, ∀ object, s.engine.objects[pending.object]? = some object →
      object.authoritativeVersion.value.toNat < pending.version.value.toNat := by
  induction as with
  | nil => exact fun _ _ _ pending h => absurd h List.not_mem_nil
  | cons a as ih =>
    intro s h hlife hrun pending hpending object hobject
    have ha := Action.ne_restart (hlife a List.mem_cons_self)
    rcases List.mem_append.mp hpending with hnow | hlater
    · have hcommitted : s.committed a = some pending := by simpa using hnow
      have hfollows := h.follows hcommitted hrun.1
      obtain ⟨index, frame, target, rfl, -, htarget, rfl⟩ := committed_some hcommitted
      obtain ⟨-, hfound, hholds⟩ := commitTarget_some htarget
      cases hobject.symm.trans hfound
      rw [(holds_prior hholds).2.2]
      exact hfollows.lt
    obtain ⟨object', hobject', -⟩ := (step_evolved a ha).records.objects.forward hobject
    have habove := ih (h.step ha) (fun b hb => hlife b (List.mem_cons_of_mem a hb)) hrun.2
      pending hlater object' hobject'
    have hstep := h.versionStep ha hrun.1 _ _ hobject'
    rw [hobject] at hstep
    rcases hstep with hsame | ⟨_, -, -, hversion, hfollows⟩
    · rwa [hsame] at habove
    · rw [hversion] at habove
      exact hfollows.lt.trans habove

lemma commits_versions_nodup : ∀ {s : Sys σ}, Chained s →
    (∀ a ∈ as, a.restarts = false) → RunOk step VersionsLast s as →
    ((s.commits as).map fun pending => (pending.object, pending.version)).Nodup := by
  induction as with
  | nil => exact fun _ _ _ => List.nodup_nil
  | cons a as ih =>
    intro s h hlife hrun
    have ha := Action.ne_restart (hlife a List.mem_cons_self)
    have hlife' := fun b hb => hlife b (List.mem_cons_of_mem a hb)
    have hrest := ih (h.step ha) hlife' hrun.2
    rw [commits_cons]
    cases hcommitted : s.committed a with
    | none => simpa using hrest
    | some pending =>
      rw [Option.toList_some, List.singleton_append, List.map_cons, List.nodup_cons]
      refine ⟨fun hmem => ?_, hrest⟩
      obtain ⟨later, hlater, heq⟩ := List.mem_map.mp hmem
      obtain ⟨hid, hversion⟩ := Prod.ext_iff.mp heq
      obtain ⟨object, hobject, hnow⟩ := committed_after hcommitted
      have habove := commits_above (h.step ha) hlife' hrun.2 later hlater object (by
        rw [show later.object = pending.object from hid]
        exact hobject)
      rw [hnow, show later.version = pending.version from hversion] at habove
      exact lt_irrefl _ habove

/-! ### The identities that the calls in flight take -/

/-- The call that a step puts in flight. -/
def Sys.reserved (s : Sys σ) : Action → Option PublishFrame
  | .publishReserve request =>
    match (s.engine.publishReserve request).1 with
    | .reserved frame => some frame
    | .done _ => none
  | _ => none

def Sys.reservations (s : Sys σ) (as : List Action) : List PublishFrame :=
  yields Sys.step (fun s a => (s.reserved a).toList) s as

/-- Of the publication identities `n` are taken, in order, and every call in flight has one
of its own. -/
structure Numbered (s : Sys σ) (n : Nat) : Prop where
  next : s.engine.nextPublicationId = UInt64.ofNat (n + 1)
  below : ∀ frame ∈ s.frames, frame.pending.id.value.toNat ≤ n
  distinct : (s.frames.map (·.pending.id)).Nodup

lemma Numbered.reserve (h : Numbered s n) (request : PublishRequest)
    (hn : n + (s.reserved (.publishReserve request)).toList.length < UInt64.size) :
    Numbered (s.step (.publishReserve request))
      (n + (s.reserved (.publishReserve request)).toList.length) := by
  change Numbered (s.reserve request) _
  unfold Sys.reserve
  dsimp only [Sys.reserved] at hn ⊢
  cases hresult : (s.engine.publishReserve request).1 with
  | done result => exact ⟨(publishReserve_done hresult).2.trans h.next, h.below, h.distinct⟩
  | reserved frame =>
    rw [hresult] at hn
    change n + 1 < UInt64.size at hn
    obtain ⟨object, participant, policy, region, receipt, -, hframe, hengine⟩ :=
      publishReserve_reserved hresult
    have hid : frame.pending.id.value.toNat = n + 1 := by
      rw [hframe]
      change s.engine.nextPublicationId.toNat = n + 1
      rw [h.next, UInt64.toNat_ofNat_of_lt' hn]
    refine ⟨?_, fun frame' hmem => ?_, ?_⟩
    · rw [hengine]
      change s.engine.nextPublicationId + 1 = _
      rw [h.next, ← UInt64.ofNat_one, ← UInt64.ofNat_add]
      rfl
    · rcases List.mem_append.mp hmem with hmem | hmem
      · exact (h.below frame' hmem).trans n.le_succ
      · rw [List.mem_singleton.mp hmem, hid]
        exact le_refl _
    rw [List.map_append, List.nodup_append]
    refine ⟨h.distinct, List.nodup_singleton _, fun id hmem id' hmem' heq => ?_⟩
    obtain ⟨frame', hframe', rfl⟩ := List.mem_map.mp hmem
    obtain rfl : id' = frame.pending.id := by simpa using hmem'
    have hle := h.below frame' hframe'
    rw [heq, hid] at hle
    omega

lemma Numbered.step (h : Numbered s n) (ha : a.Runs)
    (hn : n + (s.reserved a).toList.length < UInt64.size) :
    Numbered (s.step a) (n + (s.reserved a).toList.length) := by
  by_cases hreserve : a.reserves
  · cases a <;> try cases hreserve
    exact h.reserve _ hn
  have hnone : s.reserved a = none := by
    cases a <;> first | rfl | exact absurd rfl hreserve
  rw [hnone]
  have hnext := ((step_evolved a ha).frame.counters.publication.resolve_left
    hreserve).trans h.next
  cases a
  case publishReserve => exact absurd rfl hreserve
  case restart config => exact absurd rfl (ha config)
  case publishAppend index =>
    have hframes := append_frames s index
    refine ⟨hnext, fun frame hframe => ?_, ?_⟩
    · have hmem := hframes ▸ List.mem_map_of_mem hframe
      obtain ⟨frame', hframe', heq⟩ := List.mem_map.mp hmem
      exact heq ▸ h.below frame' hframe'
    · have hids := congrArg (List.map PendingPublication.id) hframes
      simp only [List.map_map] at hids
      exact hids ▸ h.distinct
  case publishCommit index =>
    have hsub : List.Sublist (s.step (.publishCommit index)).frames s.frames := by
      change List.Sublist (s.commit index).frames s.frames
      unfold commit
      split
      · exact .refl _
      split
      · exact .refl _
      · exact List.eraseIdx_sublist ..
    exact ⟨hnext, fun frame hframe => h.below frame (hsub.subset hframe),
      h.distinct.sublist (hsub.map _)⟩
  all_goals exact ⟨hnext, h.below, h.distinct⟩

lemma Numbered.frame_id (h : Numbered s n) (ha : a.Runs)
    (hn : n + (s.reserved a).toList.length < UInt64.size) {id}
    (hid : id ∈ (s.step a).frames.map (·.pending.id)) :
    id ∈ s.frames.map (·.pending.id) ∨ n < id.value.toNat := by
  obtain ⟨frame, hframe, rfl⟩ := List.mem_map.mp hid
  rcases step_publication ha hframe with ⟨before, hbefore, hsame, -⟩ | ⟨request, rfl, hnew⟩
  · exact .inl (hsame ▸ List.mem_map_of_mem hbefore)
  rw [Sys.reserved, hnew] at hn
  change n + 1 < UInt64.size at hn
  obtain ⟨_, _, _, _, _, -, rfl, -⟩ := publishReserve_reserved hnew
  right
  change n < s.engine.nextPublicationId.toNat
  rw [h.next, UInt64.toNat_ofNat_of_lt' hn]
  exact n.lt_succ_self

lemma Numbered.committed {n} (h : Numbered s n) {pending}
    (hcommitted : s.committed a = some pending) : pending.id.value.toNat ≤ n ∧
      pending.id ∈ s.frames.map (·.pending.id) ∧
      pending.id ∉ (s.step a).frames.map (·.pending.id) := by
  obtain ⟨index, frame, object, rfl, hready, -, rfl⟩ := committed_some hcommitted
  obtain ⟨hfound, -⟩ := ready_mem hready
  have hmem := List.mem_of_getElem? hfound
  refine ⟨h.below frame hmem, List.mem_map_of_mem hmem, fun hother => ?_⟩
  obtain ⟨frame', hframe', heq⟩ := List.mem_map.mp hother
  change frame' ∈ (s.commit index).frames at hframe'
  rw [commit_frames hready] at hframe'
  obtain ⟨i, hi, hfound'⟩ := List.mem_eraseIdx_iff_getElem?.mp hframe'
  refine hi ((List.getElem?_inj ?_ h.distinct).mp ?_)
  · simpa using (List.getElem?_eq_some_iff.mp hfound').1
  · simp [hfound', hfound, heq]

lemma Numbered.boot : Numbered (Sys.boot config store) 0 := by
  refine ⟨?_, fun _ h => absurd h not_mem_boot_frames, by simp [boot_frames]⟩
  have hboot := boot_cases config store
  generalize Sys.boot config store = s at hboot ⊢
  cases hboot with
  | detached => rfl
  | refused => rfl
  | recovered => exact (recoverFrom_frame ..).1

/-- An engine is restarted only before it has taken a publication identity. -/
def RestartsUnnumbered (s : Sys σ) (a : Action) : Prop :=
  a.restarts = true → s.engine.nextPublicationId = 1

omit [StoreMedium σ] in
lemma Numbered.none_taken (h : Numbered s n) (hn : n + 1 ≤ UInt64.size)
    (hnext : s.engine.nextPublicationId = 1) : n = 0 := by
  by_contra hpos
  have hround : UInt64.ofNat (n + 1) = UInt64.ofNat 1 := h.next.symm.trans hnext
  have hvalue := congrArg UInt64.toNat hround
  rcases Nat.lt_or_eq_of_le hn with hlt | heq
  · rw [UInt64.toNat_ofNat_of_lt' hlt, UInt64.toNat_ofNat_of_lt' (by decide)] at hvalue
    omega
  · rw [heq] at hvalue
    exact absurd hvalue (by decide)

/-- A run commits every identity at most once: it is one of the calls in flight, or new. -/
lemma commits_ids_nodup : ∀ {s : Sys σ} {n : Nat}, Numbered s n →
    RunOk step RestartsUnnumbered s as → n + (s.reservations as).length < UInt64.size →
    ((s.commits as).map (·.id)).Nodup ∧ ∀ pending ∈ s.commits as,
      pending.id ∈ s.frames.map (·.pending.id) ∨ n < pending.id.value.toNat := by
  induction as with
  | nil => exact fun _ _ _ => ⟨List.nodup_nil, fun _ h => absurd h List.not_mem_nil⟩
  | cons a as ih =>
    intro s n h hrun hcount
    rcases a.restart_or with ⟨config, rfl⟩ | ha
    · -- nothing is taken yet, and the fresh engine starts where the old one did
      obtain rfl := h.none_taken (by omega) (hrun.1 rfl)
      have hboot : Numbered (s.step (.restart config)) 0 := .boot
      have hframes : (s.step (.restart config)).frames = [] := boot_frames ..
      obtain ⟨hnodup, hsource⟩ := ih hboot hrun.2 hcount
      rw [hframes] at hsource
      exact ⟨hnodup, fun pending hmem => .inr ((hsource pending hmem).resolve_left nofun)⟩
    rw [Sys.reservations, yields_cons, List.length_append, ← Nat.add_assoc] at hcount
    have hn : n + (s.reserved a).toList.length < UInt64.size := by omega
    -- the identities of the rest of the run are above those taken after the step
    obtain ⟨hrest, habove⟩ := ih (h.step ha hn) hrun.2 hcount
    have hsource : ∀ pending ∈ (s.step a).commits as,
        pending.id ∈ (s.step a).frames.map (·.pending.id) ∨ n < pending.id.value.toNat :=
      fun pending hmem => (habove pending hmem).imp_right fun hlt => by omega
    have hlater : ∀ pending ∈ (s.step a).commits as,
        pending.id ∈ s.frames.map (·.pending.id) ∨ n < pending.id.value.toNat :=
      fun pending hmem => (hsource pending hmem).elim (h.frame_id ha hn) .inr
    rw [commits_cons]
    cases hcommitted : s.committed a with
    | none => exact ⟨hrest, hlater⟩
    | some pending =>
      obtain ⟨hle, hmem, hgone⟩ := h.committed hcommitted
      rw [Option.toList_some, List.singleton_append, List.map_cons, List.nodup_cons]
      refine ⟨⟨fun hagain => ?_, hrest⟩, fun pending' hmem' => ?_⟩
      · obtain ⟨later, hlater', heq⟩ := List.mem_map.mp hagain
        rcases hsource later hlater' with hin | hlt
        · exact hgone (heq ▸ hin)
        · rw [heq] at hlt
          omega
      · rcases List.mem_cons.mp hmem' with rfl | hmem'
        · exact .inl hmem
        · exact hlater pending' hmem'

/-- **The version chain**: in the life of one engine the version of an object only changes in
a commit, by one, and no version of an object is committed twice; nor is a publication identity,
as long as the engine has not reserved all of them. -/
theorem version_chain (config : EngineConfig) (store : Option σ) (as : List Action)
    (hlife : ∀ a ∈ as, a.restarts = false)
    (hversions : RunOk Sys.step VersionsLast (Sys.boot config store) as) :
    RunOk Sys.step VersionStep (Sys.boot config store) as ∧
      (((Sys.boot config store).commits as).map
        fun pending => (pending.object, pending.version)).Nodup ∧
      (((Sys.boot config store).reservations as).length < UInt64.size →
        (((Sys.boot config store).commits as).map (·.id)).Nodup) := by
  refine ⟨?_, commits_versions_nodup Chained.boot hlife hversions, fun hids =>
    (commits_ids_nodup Numbered.boot (runOk_of_forall fun _ a ha hrestart =>
      absurd hrestart (Bool.eq_false_iff.mp (hlife a ha))) (by omega)).1⟩
  exact runOk_of_invariant (fun _ _ hok h => h.step (Action.ne_restart hok.2))
    (fun _ _ hok h => h.versionStep (Action.ne_restart hok.2) hok.1) Chained.boot
    (hversions.and_mem hlife)

def Duo.publishNext : PublishRequest := { publishRequest with expectedBaseVersion := ⟨1⟩ }

theorem version_chain_twice :
    let as := Duo.publishedOnce ++ [.publishReserve Duo.publishNext, .publishAppend 0,
      .publishCommit 0]
    (Duo.start.commits as).map (fun pending => (pending.id, pending.version)) =
        [(⟨1⟩, ⟨1⟩), (⟨2⟩, ⟨2⟩)] ∧
      RunOk Sys.step VersionStep Duo.start as ∧ ((Duo.start.commits as).map (·.id)).Nodup := by
  intro as
  obtain ⟨hsteps, -, hids⟩ :=
    version_chain {} (some ({} : LogStore)) as (by decide) (by decide +kernel)
  exact ⟨by decide +kernel, hsteps, hids (by decide +kernel)⟩

/-! ### The counter of publications comes round

A reservation does not keep the writer from making another one, so the 64-bit counter of
publications can be driven once around while the version of the object stands still. -/

section Round

/-- The writer may reserve for this request now, and it is not the retry of another one. -/
structure Reservable (e : Impl σ) (request : PublishRequest) (object : ObjectRecord) : Prop where
  reserves : ∃ participant policy region,
    e.resolveLocked request.context = .granted object participant ∧
      e.policyLocked object = some policy ∧ e.publishRefusal request policy object = .ok region
  first : request.context.request.defined = false
  keyed : object.id = request.context.object

lemma hasOutstanding_setObject {r : Records} {key object object'}
    (hfound : r.objects[key]? = some object)
    (hsame : object'.outstandingInvalidations = object.outstandingInvalidations)
    (id : ObjectId) : (r.setObject key object').hasOutstandingInvalidationsLocked id =
      r.hasOutstandingInvalidationsLocked id := by
  unfold Records.hasOutstandingInvalidationsLocked Records.setObject
  rw [getElem?_insert]
  by_cases hid : key = id
  · subst hid
    simp [hfound, hsame, Records.anyRequested]
  · rw [if_neg (by simpa using hid)]
    rfl

variable {e : Impl σ} {request : PublishRequest} {object : ObjectRecord}

omit [StoreMedium σ] in
lemma Reservable.reserve (h : Reservable e request object) : ∃ policy receipt,
    e.publishReserve request = (.reserved (e.reservation request policy object receipt).1,
      (e.reservation request policy object receipt).2) := by
  obtain ⟨participant, policy, region, hgranted, hpolicy, hallowed⟩ := h.reserves
  have hpolicy' : e.takeDecisionId.policyLocked object = some policy := hpolicy
  have hallowed' : e.takeDecisionId.publishRefusal request policy object = .ok region := hallowed
  unfold Impl.publishReserve
  simp only [hgranted, hpolicy', h.first, Bool.false_eq_true, if_false, hallowed']
  exact ⟨policy, _, rfl⟩

omit [StoreMedium σ] in
lemma reservation_publishRefusal (hfound : e.objects[request.context.object]? = some object)
    (policy policy' : CoherencePolicy) (receipt : PublicationReceipt)
    (pending : PendingPublication) (sequence : OperationSequence) :
    (e.reservation request policy' object receipt).2.publishRefusal request policy
        (object.reserve pending sequence) = e.publishRefusal request policy object := by
  have houtstanding :
      (e.reservation request policy' object receipt).2.hasOutstandingInvalidationsLocked
      (object.reserve pending sequence).id = e.hasOutstandingInvalidationsLocked object.id :=
    @hasOutstanding_setObject _ _ object (object.reserve _ _) hfound rfl object.id
  unfold Impl.publishRefusal
  rw [houtstanding]
  rfl

omit [StoreMedium σ] in
lemma Reservable.again (h : Reservable e request object) (policy : CoherencePolicy)
    (receipt : PublicationReceipt) :
    Reservable (e.reservation request policy object receipt).2 request
      (object.reserve (e.reservation request policy object receipt).1.pending e.sequence.next) := by
  obtain ⟨participant, policy', region, hgranted, hpolicy, hallowed⟩ := h.reserves
  obtain ⟨hrunning, hcaller, hepoch, hfound, hcheck, hparticipant, hlive⟩ :=
    resolveLocked_granted_iff.mp hgranted
  refine ⟨⟨participant, policy', region, ?_, hpolicy, ?_⟩, h.first, h.keyed⟩
  · exact resolveLocked_granted_iff.mpr ⟨hrunning, hcaller, hepoch,
      getElem?_insert_self, hcheck, hparticipant, hlive⟩
  · rw [reservation_publishRefusal hfound, hallowed]

/-- The last call in flight reserved for the request, and its reservation stands. -/
structure Poised (s : Sys σ) (request : PublishRequest) (frame : PublishFrame) : Prop where
  last : s.frames.getLast? = some frame
  waiting : frame.durableStatus = none
  detached : s.engine.store = none
  stands : ∃ object, Reservable s.engine request object ∧
    frame.pending.object = request.context.object ∧ object.holds frame.pending

omit [StoreMedium σ] in
lemma Reservable.found (h : Reservable e request object) :
    e.objects[request.context.object]? = some object := by
  obtain ⟨participant, policy, region, hgranted, -, -⟩ := h.reserves
  exact resolveLocked_found hgranted

lemma Reservable.step (h : Reservable s.engine request object) (hstore : s.engine.store = none) :
    ∃ frame, Poised (s.step (.publishReserve request)) request frame ∧
      frame.pending.id = ⟨s.engine.nextPublicationId⟩ ∧
      frame.pending.priorVersion = object.authoritativeVersion ∧
      (s.step (.publishReserve request)).engine.nextPublicationId =
        s.engine.nextPublicationId + 1 := by
  obtain ⟨policy, receipt, heq⟩ := h.reserve
  have hsys : s.step (.publishReserve request) =
      { s with
        engine := (s.engine.reservation request policy object receipt).2
        frames := s.frames ++ [(s.engine.reservation request policy object receipt).1] } := by
    change s.reserve request = _
    unfold Sys.reserve
    simp only [heq]
  rw [hsys]
  refine ⟨(s.engine.reservation request policy object receipt).1, ⟨by simp, rfl, hstore, ?_⟩, rfl,
    rfl, rfl⟩
  refine ⟨_, h.again policy receipt, h.keyed, ?_⟩
  simp [ObjectRecord.holds, ObjectRecord.reserve, Impl.reservePublication, Impl.newPending]

lemma Reservable.repeat : ∀ (n : Nat) {s : Sys σ} {object : ObjectRecord},
    Reservable s.engine request object → s.engine.store = none → ∃ frame,
      Poised (s.run (List.replicate (n + 1) (.publishReserve request))) request frame ∧
        frame.pending.id = ⟨s.engine.nextPublicationId + UInt64.ofNat n⟩ ∧
        frame.pending.priorVersion = object.authoritativeVersion
  | 0, s, object, h, hstore => by
    obtain ⟨frame, hpoised, hid, hprior, -⟩ := h.step hstore
    exact ⟨frame, hpoised, by simpa using hid, hprior⟩
  | n + 1, s, object, h, hstore => by
    obtain ⟨first, hpoised, -, hprior, hnext⟩ := h.step hstore
    obtain ⟨object', h', -, hholds⟩ := hpoised.stands
    obtain ⟨frame, hlast, hid, hprior'⟩ := h'.repeat n hpoised.detached
    refine ⟨frame, hlast, ?_, ?_⟩
    · rw [hid, hnext, UInt64.add_assoc, UInt64.ofNat_add, UInt64.add_comm 1]
      rfl
    · rw [hprior', (holds_prior hholds).2.2, hprior]

/-- Without a store the last call then passes phases 2 and 3. -/
lemma Poised.commits (h : Poised s request frame) :
    (s.step (.publishAppend (s.frames.length - 1))).committed
      (.publishCommit (s.frames.length - 1)) = some frame.pending := by
  obtain ⟨object, hreservable, hobject, hholds⟩ := h.stands
  have hlast : s.frames[s.frames.length - 1]? = some frame := by
    rw [← List.getLast?_eq_getElem?]
    exact h.last
  have hlt := (List.getElem?_eq_some_iff.mp hlast).1
  let recorded : PublishFrame := { frame with durableStatus := some .success }
  have happended : s.engine.publishAppend frame = (recorded, s.engine) := by
    unfold Impl.publishAppend
    simp only [h.detached, recorded]
  have hsys : s.step (.publishAppend (s.frames.length - 1)) =
      { s with frames := s.frames.set (s.frames.length - 1) recorded } := by
    change s.append _ = _
    unfold append
    simp only [hlast, h.waiting, happended, Option.isSome_none, Bool.false_eq_true, if_false]
  have hfound := hreservable.found
  rw [← hobject] at hfound
  have htarget : s.engine.commitTarget recorded = some object :=
    (if_pos rfl).trans (Option.filter_eq_some_iff.mpr ⟨hfound, hholds⟩)
  have hready : (s.step (.publishAppend (s.frames.length - 1))).ready (s.frames.length - 1) =
      some recorded := by
    rw [hsys]
    exact Option.filter_eq_some_iff.mpr ⟨List.getElem?_set_self hlt, rfl⟩
  rw [committed, hready, hsys]
  simp [htarget, recorded]

omit [StoreMedium σ] in
lemma Reservable.of_reserved (h : (e.publishReserve request).1 = .reserved frame)
    (hfirst : request.context.request.defined = false)
    (hkeyed : ∀ object ∈ e.objects[request.context.object]?, object.id = request.context.object) :
    ∃ object, Reservable e request object := by
  obtain ⟨object, participant, policy, region, receipt, hreserves, -, -⟩ :=
    publishReserve_reserved h
  exact ⟨object, ⟨participant, policy, region, hreserves.granted, hreserves.policy_found,
    hreserves.allowed⟩, hfirst, hkeyed _ hreserves.found⟩

lemma commits_eq_nil (h : ∀ a ∈ as, a.commits = false) : s.commits as = [] := by
  refine yields_eq_nil fun s a ha => ?_
  have hno := h a ha
  cases a <;> first | rfl | cases hno

end Round

abbrev Duo.detached : Sys LogStore := (boot {} none).run publishedOnce

lemma Duo.detached_reservable : ∃ object, Reservable detached.engine publishNext object ∧
    object.authoritativeVersion = ⟨1⟩ := by
  have hreserved : (detached.engine.publishReserve publishNext).1.frame?.isSome = true := by
    decide +kernel
  have hkeyed : ∀ object ∈ detached.engine.objects[publishNext.context.object]?,
      object.id = publishNext.context.object ∧ object.authoritativeVersion = ⟨1⟩ := by
    decide +kernel
  generalize detached.engine = e at hreserved hkeyed ⊢
  obtain ⟨frame, hframe⟩ := Option.isSome_iff_exists.mp hreserved
  obtain ⟨object, h⟩ := Reservable.of_reserved (Impl.Reservation.eq_reserved hframe) rfl
    fun object hobject => (hkeyed object hobject).1
  exact ⟨object, h, (hkeyed object h.found).2⟩

/-- The writer publishes once, reserves `n` times for its next publication and then publishes
with one more reservation: the second commit is under the identity after those. -/
lemma Duo.commits_after (n : Nat) : ∃ as : List Action, (∀ a ∈ as, a.restarts = false) ∧
    RunOk step VersionsLast (boot {} none : Sys LogStore) as ∧
      ((boot {} none : Sys LogStore).commits as).map (·.id) = [⟨1⟩, ⟨2 + UInt64.ofNat n⟩] := by
  obtain ⟨object, hreservable, hversion⟩ := detached_reservable
  have hstore : detached.engine.store.isNone = true := by decide +kernel
  have hnext : detached.engine.nextPublicationId = 2 := by decide +kernel
  have hfirst : ((boot {} none : Sys LogStore).commits publishedOnce).map (·.id) =
      [⟨1⟩] := by decide +kernel
  have hlast : RunOk step VersionsLast (boot {} none : Sys LogStore) publishedOnce := by
    decide +kernel
  have honce : ∀ a ∈ publishedOnce, a.restarts = false := by decide
  obtain ⟨frame, hpoised, hid, hprior⟩ :=
    hreservable.repeat n (Option.isNone_iff_eq_none.mp hstore)
  generalize hs : detached.run (List.replicate (n + 1) (.publishReserve publishNext)) = s
    at hpoised
  have hcommit := hpoised.commits
  generalize s.frames.length - 1 = index at hcommit
  let waits : List Action :=
    List.replicate (n + 1) (.publishReserve publishNext) ++ [.publishAppend index]
  have hrun : detached.run waits = s.step (.publishAppend index) := by
    rw [run_append, hs]
    rfl
  have hwaits : ∀ a ∈ waits, a.commits = false ∧ a.restarts = false := by
    intro a ha
    rcases List.mem_append.mp ha with ha | ha
    · rw [List.eq_of_mem_replicate ha]
      exact ⟨rfl, rfl⟩
    · rw [List.mem_singleton.mp ha]
      exact ⟨rfl, rfl⟩
  refine ⟨publishedOnce ++ (waits ++ [.publishCommit index]), fun a ha => ?_, ?_, ?_⟩
  · rcases List.mem_append.mp ha with ha | ha
    · exact honce a ha
    · rcases List.mem_append.mp ha with ha | ha
      · exact (hwaits a ha).2
      · rw [List.mem_singleton.mp ha]
        rfl
  · refine runOk_append.mpr
      ⟨hlast, runOk_append.mpr ⟨runOk_of_forall fun s a ha => ?_, ?_, trivial⟩⟩
    · intro pending hpending
      obtain ⟨_, _, _, rfl, -⟩ := committed_some hpending
      exact absurd (hwaits _ ha).1 nofun
    change VersionsLast (detached.run waits) _
    rw [hrun]
    intro pending hpending
    cases hcommit.symm.trans hpending
    rw [hprior, hversion]
    decide
  · rw [commits_append, commits_append, List.map_append, hfirst]
    rw [show run (boot {} none) publishedOnce = detached from rfl, hrun,
      commits_eq_nil fun a ha => (hwaits a ha).1]
    simp [commits, yields, hcommit, hid, hnext]

/-- The counter of publications has come round: two commits have the same identity. -/
theorem publication_identity_reused : ∃ as : List Action, (∀ a ∈ as, a.restarts = false) ∧
    RunOk Sys.step VersionsLast (Sys.boot {} none : Sys LogStore) as ∧
      ¬ (((Sys.boot {} none : Sys LogStore).commits as).map (·.id)).Nodup := by
  obtain ⟨as, hlife, hlast, hids⟩ := Duo.commits_after (UInt64.size - 1)
  refine ⟨as, hlife, hlast, ?_⟩
  have hround : (2 : UInt64) + UInt64.ofNat (UInt64.size - 1) = 1 := by decide
  rw [hids, hround]
  simp

end CoherenceFabric
