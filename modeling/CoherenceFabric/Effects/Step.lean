import CoherenceFabric.Effects.Registry
import CoherenceFabric.Effects.Access
import CoherenceFabric.Effects.Transfer

/-!
Every step of the system other than a restart is an evolution.
-/

namespace CoherenceFabric

open FiniteMap Relation

variable {σ : Type} [StoreMedium σ] {s : Sys σ} {frame : PublishFrame} {index : Nat}

lemma flushDurable_evolved : Evolved s .flushDurable s.engine.flushDurable.2 := by
  unfold Impl.flushDurable
  split
  · exact .init
  rename_i store hstore
  split
  · exact .init
  · exact Evolved.init.withLockstep (.single (.flush hstore rfl rfl))

omit [StoreMedium σ] in
lemma reserve_engine (request : PublishRequest) :
    (s.reserve request).engine = (s.engine.publishReserve request).2 := by
  unfold Sys.reserve
  dsimp only
  split <;> rfl

lemma reserve_frames {request} (h : (s.engine.publishReserve request).1 = .reserved frame) :
    (s.step (.publishReserve request)).frames = s.frames ++ [frame] := by
  change (s.reserve request).frames = _
  unfold Sys.reserve
  simp only [h]

lemma commit_eq (hready : s.ready index = some frame) :
    s.commit index =
      { s with
        engine := (s.engine.publishCommit frame).2
        frames := s.frames.eraseIdx index } := by
  obtain ⟨hfound, hstatus⟩ := Option.filter_eq_some_iff.mp hready
  unfold Sys.commit
  simp only [hfound]
  rw [if_neg (by simpa [Option.isSome_iff_ne_none] using hstatus)]

lemma commit_engine (hready : s.ready index = some frame) :
    (s.commit index).engine = (s.engine.publishCommit frame).2 := by
  rw [commit_eq hready]

lemma commit_frames (hready : s.ready index = some frame) :
    (s.commit index).frames = s.frames.eraseIdx index := by
  rw [commit_eq hready]

lemma commit_idle (h : s.ready index = none) : s.commit index = s := by
  unfold Sys.commit
  unfold Sys.ready at h
  split
  · rfl
  rename_i frame hframe
  rw [hframe, Option.filter_some, ite_eq_right_iff] at h
  rw [if_pos (by simpa [Option.isSome_iff_ne_none] using h)]

/-- What one step does to the engine. -/
theorem step_evolved (a : Action) (ha : a.Runs) : Evolved s a (s.step a).engine := by
  cases a with
  | createDomain name => exact createDomain_evolved name
  | registerParticipant name boot epoch label =>
    exact registerParticipant_evolved name boot epoch label
  | markSessionClosed id boot => exact markSessionClosed_evolved id boot
  | fenceParticipant id epoch reason => exact fenceParticipant_evolved
  | registerObject domain name length policy =>
    exact registerObject_evolved domain name length policy
  | setPolicy id generation expected next => exact setPolicy_evolved id generation expected next
  | registerRegion registration => exact registerRegion_evolved registration
  | retireRegion id generation epoch => exact retireRegion_evolved id generation epoch
  | acquireRead request => exact acquireRead_evolved request
  | explainRead request => exact explainRead_evolved request
  | acquireWrite request => exact acquireWrite_evolved request
  | markDirty request => exact markDirty_evolved request
  | publishReserve request =>
    change Evolved s _ (s.reserve request).engine
    rw [reserve_engine]
    exact publishReserve_evolved request
  | publishAppend index =>
    change Evolved s _ (s.append index).engine
    unfold Sys.append
    split
    · exact .init
    rename_i frame hframe
    split
    · exact .init
    · exact publishAppend_evolved hframe
  | publishCommit index =>
    change Evolved s _ (s.commit index).engine
    unfold Sys.commit
    split
    · exact .init
    rename_i frame hframe
    split
    · exact .init
    rename_i hstatus
    have hready : s.ready index = some frame := by
      simpa [Sys.ready, hframe, Option.isSome_iff_ne_none] using hstatus
    exact publishCommit_evolved hready
  | release request => exact release_evolved request
  | invalidate request => exact invalidate_evolved request
  | acknowledgeInvalidation ack => exact acknowledgeInvalidation_evolved ack
  | beginSync request => exact beginSync_evolved request
  | completeSync request => exact completeSync_evolved request
  | failSync request => exact failSync_evolved request
  | revalidateRegion request => exact revalidateRegion_evolved request
  | resolveRecovery id generation epoch note =>
    exact resolveRecovery_evolved id generation epoch note
  | retireObject id generation epoch => exact retireObject_evolved id generation epoch
  | beginShutdown epoch => exact beginShutdown_evolved epoch
  | completeShutdown epoch => exact completeShutdown_evolved epoch
  | flushDurable => exact flushDurable_evolved
  | restart config => exact absurd rfl (ha config)

end CoherenceFabric
