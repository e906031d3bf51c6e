import CoherenceFabric.Engine.Reads
import CoherenceFabric.Engine.Invalidation
import CoherenceFabric.Engine.Publish
import CoherenceFabric.Engine.Sync
import CoherenceFabric.Engine.Recovery

/-!
The engine as a system: operations in any order, publish calls between their phases, and
restarts on the store.

Operations run under the state lock, so they interleave as whole steps; a publish call is
three steps. A restart may happen between any two steps. It drops the engine and every call
in flight and attaches a fresh engine to what the store holds.
-/

namespace CoherenceFabric

/-- A store on a medium: what the next process opens after this one has stopped. -/
class StoreMedium (σ : Type) extends DurableStore σ where
  remount : σ → σ

structure Sys (σ : Type) where
  engine : Impl σ
  /-- Publish calls between their phases. -/
  frames : List PublishFrame := []
  /-- The store of an engine that could not open it. -/
  shelf : Option σ := none

/-- The steps of the system. -/
inductive Action where
  | createDomain (name : Text)
  | registerParticipant (name : Text) (boot : ParticipantBootId) (epoch : CoordinatorEpoch)
      (nodeLabel : Text)
  | markSessionClosed (id : ParticipantId) (boot : ParticipantBootId)
  | fenceParticipant (id : ParticipantId) (epoch : CoordinatorEpoch) (reason : Text)
  | registerObject (domain : CoherenceDomainId) (name : Text) (length : UInt64)
      (policy : CoherencePolicy)
  | setPolicy (id : ObjectId) (generation : ObjectGeneration) (expected : PolicyGeneration)
      (next : CoherencePolicy)
  | registerRegion (registration : RegionRegistration)
  | retireRegion (id : RegionId) (generation : RegionGeneration) (epoch : CoordinatorEpoch)
  | acquireRead (request : ReadRequest)
  | explainRead (request : ReadRequest)
  | acquireWrite (request : WriteRequest)
  | markDirty (request : DirtyRequest)
  | publishReserve (request : PublishRequest)
  /-- Phase 2 of the call in flight at this position. -/
  | publishAppend (index : Nat)
  /-- Phase 3 of the call in flight at this position. -/
  | publishCommit (index : Nat)
  | release (request : ReleaseRequest)
  | invalidate (request : InvalidationRequest)
  | acknowledgeInvalidation (acknowledgement : InvalidationAck)
  | beginSync (request : SyncRequest)
  | completeSync (request : SyncCompleteRequest)
  | failSync (request : SyncFailRequest)
  | revalidateRegion (request : RevalidateRequest)
  | resolveRecovery (id : ObjectId) (generation : ObjectGeneration) (epoch : CoordinatorEpoch)
      (note : Text)
  | retireObject (id : ObjectId) (generation : ObjectGeneration) (epoch : CoordinatorEpoch)
  | beginShutdown (epoch : CoordinatorEpoch)
  | completeShutdown (epoch : CoordinatorEpoch)
  | flushDurable
  | restart (config : EngineConfig)

namespace Impl

variable {σ : Type} [DurableStore σ]

def flushDurable (s : Impl σ) : Status × Impl σ :=
  match s.store with
  | none => (.success, s)
  | some store =>
    if !s.config.enableDurability then (.success, s)
    else
      let flushed := DurableStore.flush store
      (flushed.1, s.withPersistence { s.toPersistence with store := some flushed.2 })

end Impl

namespace Sys

variable {σ : Type} [StoreMedium σ] (s : Sys σ)

/-- A fresh engine, attached to a store if there is one. -/
def boot (config : EngineConfig) (store : Option σ) : Sys σ :=
  let engine := coherenceEngine σ config
  match store with
  | none => { engine := engine }
  | some store =>
    let attached := engine.attachStore store
    match attached.1 with
    | .ok _ => { engine := attached.2 }
    | .error _ =>
      { engine := attached.2, shelf := some (DurableStore.openStore store).2 }

def medium : Option σ := s.engine.store.or s.shelf

def lift (f : Impl σ → Impl σ) : Sys σ := { s with engine := f s.engine }

/-- Phase 1 of a publish call; a call that was not refused is then in flight. -/
def reserve (request : PublishRequest) : Sys σ :=
  let reserved := s.engine.publishReserve request
  match reserved.1 with
  | .done _ => { s with engine := reserved.2 }
  | .reserved frame => { s with engine := reserved.2, frames := s.frames ++ [frame] }

/-- Phase 2 of a call in flight that has not made it yet. -/
def append (index : Nat) : Sys σ :=
  match s.frames[index]? with
  | none => s
  | some frame =>
    if frame.durableStatus.isSome then s
    else
      let appended := s.engine.publishAppend frame
      { s with engine := appended.2, frames := s.frames.set index appended.1 }

/-- Phase 3 of a call in flight that has made phase 2; the call then returns. -/
def commit (index : Nat) : Sys σ :=
  match s.frames[index]? with
  | none => s
  | some frame =>
    if frame.durableStatus.isNone then s
    else { s with
      engine := (s.engine.publishCommit frame).2
      frames := s.frames.eraseIdx index }

def step : Action → Sys σ
  | .createDomain name => s.lift fun e => (e.createDomain name).2
  | .registerParticipant name boot epoch label =>
    s.lift fun e => (e.registerParticipant name boot epoch label).2
  | .markSessionClosed id boot => s.lift fun e => (e.markSessionClosed id boot).2
  | .fenceParticipant id epoch reason => s.lift fun e => (e.fenceParticipant id epoch reason).2
  | .registerObject domain name length policy =>
    s.lift fun e => (e.registerObject domain name length policy).2
  | .setPolicy id generation expected next =>
    s.lift fun e => (e.setPolicy id generation expected next).2
  | .registerRegion registration => s.lift fun e => (e.registerRegion registration).2
  | .retireRegion id generation epoch => s.lift fun e => (e.retireRegion id generation epoch).2
  | .acquireRead request => s.lift fun e => (e.acquireRead request).2
  | .explainRead request => s.lift fun e => (e.explainRead request).2
  | .acquireWrite request => s.lift fun e => (e.acquireWrite request).2
  | .markDirty request => s.lift fun e => (e.markDirty request).2
  | .publishReserve request => s.reserve request
  | .publishAppend index => s.append index
  | .publishCommit index => s.commit index
  | .release request => s.lift fun e => (e.release request).2
  | .invalidate request => s.lift fun e => (e.invalidate request).2
  | .acknowledgeInvalidation ack => s.lift fun e => (e.acknowledgeInvalidation ack).2
  | .beginSync request => s.lift fun e => (e.beginSync request).2
  | .completeSync request => s.lift fun e => (e.completeSync request).2
  | .failSync request => s.lift fun e => (e.failSync request).2
  | .revalidateRegion request => s.lift fun e => (e.revalidateRegion request).2
  | .resolveRecovery id generation epoch note =>
    s.lift fun e => (e.resolveRecovery id generation epoch note).2
  | .retireObject id generation epoch => s.lift fun e => (e.retireObject id generation epoch).2
  | .beginShutdown epoch => s.lift fun e => (e.beginShutdown epoch).2
  | .completeShutdown epoch => s.lift fun e => (e.completeShutdown epoch).2
  | .flushDurable => s.lift fun e => e.flushDurable.2
  | .restart config => boot config (s.medium.map StoreMedium.remount)

def run (actions : List Action) : Sys σ := actions.foldl step s

@[simp] lemma run_nil : run s [] = s := rfl

@[simp] lemma run_cons (a : Action) (as : List Action) : run s (a :: as) = run (step s a) as := rfl

lemma run_append (as bs : List Action) : run s (as ++ bs) = run (run s as) bs := by
  simp [run, List.foldl_append]

end Sys

end CoherenceFabric
