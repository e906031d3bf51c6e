import CoherenceFabric.Deployment
import CoherenceFabric.Effects.Fields
import CoherenceFabric.Lib.Tenure

/-!
One writer per ownership generation.

An ownership generation is a term of office in the sense of `Lib.Tenure`: a grant opens the next
one, a release closes it, a fence removes its holder, and a grant that the journal refuses is
taken back together with its generation. The calls in flight are the pledges.
-/

namespace CoherenceFabric

open FiniteMap Transition Tenure

variable {σ : Type}

def Action.claims : Action → Option ObjectId
  | .acquireWrite request => some request.context.object
  | .release request => some request.context.object
  | _ => none

/-- The generation a step opens is below the end of the 64-bit numbers. -/
def GenerationsLast (s : Sys σ) (a : Action) : Prop :=
  ∀ id ∈ a.claims, ∀ object ∈ s.engine.objects[id]?,
    object.ownershipGeneration.value.toNat + 1 < UInt64.size

instance (s : Sys σ) (a : Action) : Decidable (GenerationsLast s a) :=
  inferInstanceAs (Decidable (∀ id ∈ a.claims, _))

/-- A write under an ownership generation. -/
structure Write where
  object : ObjectId
  ownership : OwnershipGeneration
  writer : ParticipantId
  boot : ParticipantBootId
  deriving DecidableEq

def PendingPublication.write (pending : PendingPublication) : Write :=
  ⟨pending.object, pending.ownershipGeneration, pending.writer, pending.writerBoot⟩

def AuthorityContext.write (ctx : AuthorityContext) (ownership : OwnershipGeneration) : Write :=
  ⟨ctx.object, ownership, ctx.participant, ctx.boot⟩

/-- The write a step makes: `mark_dirty` succeeds, a publication passes phase 1, or one is
committed. A request answered with the publication it made earlier is not a write. -/
def Sys.write [DurableStore σ] (s : Sys σ) : Action → Option Write
  | .markDirty request =>
    if (s.engine.markDirty request).1.isOk then
      some (request.context.write request.ownershipGeneration)
    else none
  | .publishReserve request =>
    match (s.engine.publishReserve request).1 with
    | .reserved _ => some (request.context.write request.ownershipGeneration)
    | .done _ => none
  | .publishCommit index => (s.committed (.publishCommit index)).map PendingPublication.write
  | _ => none

def Sys.writes [StoreMedium σ] (s : Sys σ) (as : List Action) : List Write :=
  yields Sys.step (fun s a => (s.write a).toList) s as

/-! ### What a write has checked -/

section Checks

variable {e : Impl σ} {object : ObjectRecord} {region : RegionRecord} {request : DirtyRequest}

structure ObjectRecord.WrittenBy (object : ObjectRecord) (ctx : AuthorityContext)
    (ownership : OwnershipGeneration) : Prop where
  writer : object.writer = ctx.participant ∧ object.writerBoot = ctx.boot
  ownership : ownership = object.ownershipGeneration

lemma markDirty_isOk [DurableStore σ] (h : (e.markDirty request).1.isOk = true) :
    ∃ object participant, e.resolveLocked request.context = .granted object participant ∧
        object.WrittenBy request.context request.ownershipGeneration := by
  unfold Impl.markDirty at h
  dsimp only at h
  split at h
  · cases h
  rename_i object participant hgranted
  split at h
  · cases h
  · rename_i region hallowed
    obtain ⟨-, -, -, -, -, hwriter, hownership⟩ := markDirtyRefusal_ok hallowed
    exact ⟨object, participant, hgranted, hwriter, hownership⟩

end Checks

/-! ### The office of the writer -/

section Office

variable [DurableStore σ]

def office : Office (Sys σ) Action ObjectId Nat (ParticipantId × ParticipantBootId) where
  generation s id := (s.engine.objects[id]?).map (·.ownershipGeneration.value.toNat)
  holder s id := (s.engine.objects[id]?).bind fun object =>
    if object.writer = .nil then none else some (object.writer, object.writerBoot)
  pledged s id generation holder := ∃ frame ∈ s.frames, frame.pending.object = id ∧
    frame.pending.ownershipGeneration.value.toNat = generation ∧
    (frame.pending.writer, frame.pending.writerBoot) = holder
  act s a := (s.write a).map fun write =>
    (write.object, write.ownership.value.toNat, write.writer, write.boot)

end Office

section Lawful

variable {s : Sys σ} {a : Action} {key : ObjectId} {object object' : ObjectRecord}

/-- A step opens the next generation, or it keeps the generation and installs no writer. -/
lemma ObjectEffect.tenure (h : ObjectEffect s a key object object') :
    object'.ownershipGeneration = object.ownershipGeneration ∧ (object'.writer = .nil ∨
          object'.writer = object.writer ∧ object'.writerBoot = object.writerBoot) ∨
      a.claims = some key ∧ object'.ownershipGeneration = object.ownershipGeneration.next := by
  cases h with
  | keep same => exact .inl ⟨same.ownership, .inr same.writer⟩
  | revoke _ _ _ _ revoked => exact .inl ⟨revoked.ownership, .inl revoked.writer⟩
  | transferFailed =>
    refine .inl ⟨?_, .inl rfl⟩
    -- the generation is counted down again, also past the end of the numbers
    exact StrongId.ext (UInt64.add_sub_cancel _ _)
  | transfer => exact .inr ⟨rfl, rfl⟩
  | relinquish _ _ _ released => exact .inr ⟨rfl, released.ownership⟩
  | retire => exact .inl ⟨rfl, .inl rfl⟩
  | shutdown _ _ down => exact .inl ⟨down.ownership, .inl down.writer⟩
  | _ => exact .inl ⟨rfl, .inr ⟨rfl, rfl⟩⟩

lemma generation_eq [DurableStore σ] {n} (h : office.generation s key = some n) :
    ∃ object, s.engine.objects[key]? = some object ∧ object.ownershipGeneration.value.toNat = n :=
  Option.map_eq_some_iff.mp h

lemma holder_eq [DurableStore σ] {holder} (hobject : s.engine.objects[key]? = some object) :
    office.holder s key = some holder ↔
      object.writer ≠ .nil ∧ (object.writer, object.writerBoot) = holder := by
  simp [office, hobject]

variable [ReplayStore σ]

lemma holds_of_granted {ctx participant} {ownership}
    (hgranted : s.engine.resolveLocked ctx = .granted object participant)
    (hwritten : object.WrittenBy ctx ownership) :
    office.generation s ctx.object = some ownership.value.toNat ∧
      office.holder s ctx.object = some (ctx.participant, ctx.boot) := by
  have hfound := resolveLocked_found hgranted
  have hcaller := (resolveLocked_granted_iff.mp hgranted).2.1
  refine ⟨by simp [office, hfound, hwritten.ownership], (holder_eq hfound).mpr ?_⟩
  rw [hwritten.writer.1, hwritten.writer.2]
  exact ⟨hcaller, rfl⟩

lemma reserved_written {request frame}
    (hkeyed : LiveKeyed s) (hnew : (s.engine.publishReserve request).1 = .reserved frame) :
    frame.pending.write = request.context.write request.ownershipGeneration ∧
      office.generation s request.context.object = some request.ownershipGeneration.value.toNat ∧
      office.holder s request.context.object =
        some (request.context.participant, request.context.boot) := by
  obtain ⟨object, participant, policy, region, receipt, hreserves, rfl, -⟩ :=
    publishReserve_reserved hnew
  have hgranted := resolveLocked_granted hreserves.granted
  have hpublishable := publishRefusal_ok hreserves.allowed
  have hwritten : object.WrittenBy request.context request.ownershipGeneration :=
    ⟨hpublishable.writer.2, hpublishable.ownership⟩
  refine ⟨?_, holds_of_granted hreserves.granted hwritten⟩
  change (⟨object.id, object.ownershipGeneration, request.context.participant,
    receipt.writerBoot⟩ : Write) = _
  rw [hkeyed.live.objects _ _ hgranted.object_found, ← hwritten.ownership, hreserves.boot,
    hgranted.boot]
  rfl

theorem step_lawful (hkeyed : LiveKeyed s) (ha : a.Runs)
    (hlast : GenerationsLast s a) : Lawful office Sys.step s a where
  grows {id n} hbefore := by
    obtain ⟨object, hobject, rfl⟩ := generation_eq hbefore
    obtain ⟨object', hobject', hchange⟩ := (step_changes hkeyed ha).objects.forward hobject
    change (s.step a).engine.objects[id]? = some object' at hobject'
    refine ⟨object'.ownershipGeneration.value.toNat, by simp [office, hobject'], ?_⟩
    rcases hchange.effect.tenure with ⟨hsame, -⟩ | ⟨hclaims, hnext⟩
    · rw [hsame]
    · rw [hnext, StrongId.next_toNat (hlast id hclaims object hobject)]
      exact Nat.le_succ _
  installs {id n holder} hbefore hafter hholder := by
    obtain ⟨object, hobject, rfl⟩ := generation_eq hbefore
    obtain ⟨object', hobject', hchange⟩ := (step_changes hkeyed ha).objects.forward hobject
    obtain ⟨hwriter, rfl⟩ := (holder_eq hobject').mp hholder
    rcases hchange.effect.tenure with ⟨-, hnil | hsame⟩ | ⟨hclaims, hnext⟩
    · exact absurd hnil hwriter
    · refine (holder_eq hobject).mpr ⟨hsame.1 ▸ hwriter, ?_⟩
      rw [hsame.1, hsame.2]
    -- the generation has moved on
    obtain ⟨object'', hobject'', hsame⟩ := generation_eq hafter
    cases hobject'.symm.trans hobject''
    rw [hnext, StrongId.next_toNat (hlast id hclaims object hobject)] at hsame
    omega
  pledges {id n holder} hpledged := by
    obtain ⟨frame, hframe, rfl, rfl, rfl⟩ := hpledged
    rcases step_publication ha hframe with ⟨before, hbefore, hsame, -⟩ | ⟨request, rfl, hnew⟩
    · rw [hsame]
      exact .inl ⟨before, hbefore, rfl, rfl, rfl⟩
    · obtain ⟨hwrite, hheld⟩ := reserved_written hkeyed hnew
      simp only [PendingPublication.write, AuthorityContext.write, Write.mk.injEq] at hwrite
      rw [hwrite.1, hwrite.2.1, hwrite.2.2.1, hwrite.2.2.2]
      exact .inr hheld
  acts {id n holder} hact := by
    obtain ⟨write, hwrite, heq⟩ := Option.map_eq_some_iff.mp hact
    cases heq
    cases a
    case markDirty request =>
      simp only [Sys.write] at hwrite
      split at hwrite
      · cases hwrite
        obtain ⟨object, participant, hgranted, hwritten⟩ := markDirty_isOk ‹_›
        exact (holds_of_granted hgranted hwritten).imp_right .inl
      · cases hwrite
    case publishReserve request =>
      simp only [Sys.write] at hwrite
      split at hwrite
      · cases hwrite
        exact (reserved_written hkeyed ‹_›).2.imp_right .inl
      · cases hwrite
    case publishCommit index =>
      obtain ⟨pending, hcommitted, rfl⟩ := Option.map_eq_some_iff.mp hwrite
      obtain ⟨index, frame, object, -, hready, htarget, rfl⟩ := committed_some hcommitted
      obtain ⟨-, hobject, hholds⟩ := commitTarget_some htarget
      refine ⟨?_, .inr ⟨frame, List.mem_of_getElem? (ready_mem hready).1, rfl, rfl, rfl⟩⟩
      simp [office, PendingPublication.write, hobject, (holds_prior hholds).2.1]
    all_goals cases hwrite

end Lawful

/-! ### The generations of the replicas -/

section Bounded

/-- Every replica belongs to an object, which has at least its ownership generation.
Synchronizations and publications in flight are about replicas of their object. -/
structure Bounded (s : Sys σ) : Prop where
  regions : All (fun _ region => ∃ object, s.engine.objects[region.object]? = some object ∧
    region.ownershipGeneration.value ≤ object.ownershipGeneration.value) s.engine.regions
  syncs : All (fun _ record => ∃ region, s.engine.regions[record.destinationRegion]? = some region ∧
    region.object = record.object) s.engine.syncs
  frames : ∀ frame ∈ s.frames, ∃ region, s.engine.regions[frame.region]? = some region ∧
    region.object = frame.pending.object

variable {s : Sys σ} {a : Action}

lemma RegionEffect.ownership {key region region'}
    (h : RegionEffect s a key region region') (hkeyed : All (fun id object => object.id = id)
      s.engine.objects) (hregion : s.engine.regions[key]? = some region) (hbounded : Bounded s) :
    ∃ object, s.engine.objects[region.object]? = some object ∧
      region'.ownershipGeneration.value ≤ object.ownershipGeneration.value := by
  cases h with
  | keep same =>
    rw [same.ownership]
    exact hbounded.regions key region hregion
  | lower lowered =>
    rw [lowered.ownership]
    exact hbounded.regions key region hregion
  | markDirty granted allowed =>
    have hfound := resolveLocked_found granted
    rw [(markDirtyRefusal_ok allowed).2.1, hkeyed _ _ hfound]
    exact ⟨_, hfound, UInt64.le_refl _⟩
  | publish ready target =>
    obtain ⟨source, hsource, hobject⟩ :=
      hbounded.frames _ (List.mem_of_getElem? (ready_mem ready).1)
    cases hregion.symm.trans hsource
    obtain ⟨-, hfound, hholds⟩ := commitTarget_some target
    refine ⟨_, hobject ▸ hfound, ?_⟩
    rw [(holds_prior hholds).2.1]
    exact UInt64.le_refl _
  | completeSync completes =>
    obtain ⟨destination, hdestination, hobject⟩ := hbounded.syncs _ _ completes.planned
    cases hregion.symm.trans hdestination
    obtain ⟨participant, granted⟩ := completes.granted
    have hfound := resolveLocked_found granted
    rw [hobject, ← completes.object, hkeyed _ _ hfound]
    exact ⟨_, hfound, UInt64.le_refl _⟩
  | @revalidate request object participant _ seq granted allowed =>
    have hfound := resolveLocked_found granted
    rw [(revalidateRefusal_ok allowed).2.2.1, hkeyed _ _ hfound]
    refine ⟨_, hfound, ?_⟩
    rw [region.revalidate_ownership]
    exact UInt64.le_refl _

variable [ReplayStore σ]

theorem Bounded.step (h : Bounded s) (hkeyed : LiveKeyed s) (ha : a.Runs)
    (hlast : GenerationsLast s a) : Bounded (s.step a) := by
  have hchanges := step_changes hkeyed ha
  have hobjects := hkeyed.live.objects
  -- an object keeps its place and its generation does not go down
  have hgrows : ∀ {id : ObjectId} {object : ObjectRecord}, s.engine.objects[id]? = some object →
      ∃ object', (s.step a).engine.objects[id]? = some object' ∧
        object.ownershipGeneration.value ≤ object'.ownershipGeneration.value := by
    intro id object hobject
    obtain ⟨object', hobject', hchange⟩ := hchanges.objects.forward hobject
    refine ⟨object', hobject', ?_⟩
    rcases hchange.effect.tenure with ⟨hsame, -⟩ | ⟨hclaims, hnext⟩
    · rw [hsame]
      exact UInt64.le_refl _
    · rw [hnext, UInt64.le_iff_toNat_le, StrongId.next_toNat (hlast id hclaims object hobject)]
      exact Nat.le_succ _
  -- a replica stays with its object
  have hstays : ∀ {id : RegionId} {object : ObjectId}, (∃ region,
      s.engine.regions[id]? = some region ∧ region.object = object) →
      ∃ region, (s.step a).engine.regions[id]? = some region ∧ region.object = object := by
    rintro id object ⟨region, hregion, rfl⟩
    obtain ⟨region', hregion', hchange⟩ := hchanges.regions.forward hregion
    exact ⟨region', hregion', hchange.effect.samePlace.object⟩
  refine ⟨fun key region' hregion' => ?_, fun key record' hrecord' => ?_, fun frame hframe => ?_⟩
  · rcases hchanges.regions.origin hregion' with ⟨region, hregion, hchange⟩ | ⟨-, hnew⟩
    · obtain ⟨object, hobject, hle⟩ := hchange.effect.ownership hobjects hregion h
      obtain ⟨object', hobject', hle'⟩ := hgrows hobject
      rw [hchange.effect.samePlace.object]
      exact ⟨object', hobject', UInt64.le_trans hle hle'⟩
    cases hnew with
    | @register registration object participant allowed =>
      have hfound := (registerRegionRefusal_ok allowed).1
      obtain ⟨object', hobject', hle'⟩ := hgrows hfound
      refine ⟨object', ?_, hle'⟩
      change (s.step _).engine.objects[object.id]? = some object'
      rwa [hobjects _ _ hfound]
  · have hplan : NewSync s a key record' → ∃ region,
        s.engine.regions[record'.destinationRegion]? = some region ∧
          region.object = record'.object := by
      intro hnew
      obtain ⟨region, hregion, -, hobject⟩ := hnew.destination hkeyed.live.regions
      exact ⟨region, hregion, hobject⟩
    rcases hchanges.syncs.origin hrecord' with ⟨record, hrecord, hchange⟩ | ⟨-, hplanned⟩
    · cases hchange with
      | same => exact hstays (h.syncs key _ hrecord)
      | settle => exact hstays (h.syncs key record hrecord)
      | replace planned => exact hstays (hplan planned)
    · exact hstays (hplan hplanned)
  rcases step_publication ha hframe with ⟨before, hbefore, hsame⟩ | ⟨request, rfl, hnew⟩
  · rw [hsame.1, hsame.2]
    exact hstays (h.frames before hbefore)
  · obtain ⟨object, participant, policy, region, receipt, hreserves, rfl, -⟩ :=
      publishReserve_reserved hnew
    have hpublishable := publishRefusal_ok hreserves.allowed
    exact hstays ⟨region, hpublishable.found, hpublishable.owner.1⟩

end Bounded

/-! ### Every run -/

section Run

/-- A step takes no ownership generation back. -/
def OwnershipGrows [StoreMedium σ] (s : Sys σ) (a : Action) : Prop :=
  ∀ (id : ObjectId) (object object' : ObjectRecord), s.engine.objects[id]? = some object →
    (s.step a).engine.objects[id]? = some object' →
    object.ownershipGeneration.value ≤ object'.ownershipGeneration.value

variable {as : List Action}

lemma mem_acts_of_mem_writes [StoreMedium σ] {s : Sys σ} {write} (h : write ∈ s.writes as) :
    (write.object, write.ownership.value.toNat, write.writer, write.boot) ∈
      acts office Sys.step s as := by
  have hacts : acts office Sys.step s as = (s.writes as).map fun write =>
      (write.object, write.ownership.value.toNat, write.writer, write.boot) := by
    rw [Sys.writes, map_yields]
    exact yields_congr (runOk_of_forall fun _ _ _ => Option.toList_map)
  rw [hacts]
  exact List.mem_map_of_mem h

variable [ReplayStore σ] {s : Sys σ}

lemma ownershipGrows_of_lawful {a} (h : Lawful office Sys.step s a) : OwnershipGrows s a := by
  intro id object object' hobject hobject'
  obtain ⟨n, hn, hle⟩ := h.grows (k := id) (by simp only [office, hobject]; rfl)
  obtain ⟨object'', hobject'', rfl⟩ := generation_eq hn
  cases hobject'.symm.trans hobject''
  exact UInt64.le_iff_toNat_le.mpr hle

lemma lawful_run (hkeyed : LiveKeyed s) (hlife : ∀ a ∈ as, a.restarts = false)
    (hlast : RunOk Sys.step GenerationsLast s as) : RunOk Sys.step (Lawful office Sys.step) s as :=
  runOk_of_invariant (I := LiveKeyed) (fun _ _ _ h => h.step)
    (fun _ _ hok h => step_lawful h (Action.ne_restart hok.2) hok.1) hkeyed (hlast.and_mem hlife)

lemma Bounded.run (hkeyed : LiveKeyed s) (h : Bounded s) (hlife : ∀ a ∈ as, a.restarts = false)
    (hlast : RunOk Sys.step GenerationsLast s as) : Bounded (s.run as) :=
  (run_invariant (I := fun s : Sys σ => LiveKeyed s ∧ Bounded s)
    (fun _ _ hok h => ⟨h.1.step, h.2.step h.1 (Action.ne_restart hok.2) hok.1⟩) ⟨hkeyed, h⟩
    (hlast.and_mem hlife)).2

lemma Releases.reached {request object} (hkeyed : LiveKeyed s)
    (h : Releases s.engine request object) (hlast : GenerationsLast s (.release request)) :
    Reached office (s.step (.release request)) request.context.object
      (request.ownershipGeneration.value.toNat + 1) := by
  obtain ⟨participant, hgranted⟩ := h.granted
  have hfound := resolveLocked_found hgranted
  obtain ⟨object', hobject', -⟩ := (step_changes hkeyed
    (a := .release request) nofun).objects.forward hfound
  have hnext := h.ownership_after hobject'
  refine ⟨object'.ownershipGeneration.value.toNat, ?_, ?_⟩
  · change (Option.map _ (s.step (.release request)).engine.ledger.objects[_]?) = _
    rw [hobject']
    rfl
  · rw [hnext, StrongId.next_toNat (hlast _ rfl object hfound), h.ownership]

/-- **One writer per ownership generation**, in every run of one engine whose ownership
generations stay below the end of the numbers. Generations only grow. The writes under one
generation of an object are made by one incarnation of one participant, none of them after the
release of that generation. And if no replica was ahead of its object when the engine had
attached its store, none ever is. -/
theorem one_writer_per_generation (config : EngineConfig) (store : Option σ) (as : List Action)
    (hlife : ∀ a ∈ as, a.restarts = false)
    (hlast : RunOk Sys.step GenerationsLast (Sys.boot config store) as) :
    let s := Sys.boot config store
    RunOk Sys.step OwnershipGrows s as ∧
      (∀ write ∈ s.writes as, ∀ write' ∈ s.writes as, write.object = write'.object →
        write.ownership = write'.ownership →
        write.writer = write'.writer ∧ write.boot = write'.boot) ∧
      (∀ bs request cs object, as = bs ++ .release request :: cs →
        Releases (s.run bs).engine request object →
        ∀ write ∈ ((s.run bs).step (.release request)).writes cs,
          write.object = request.context.object →
          write.ownership ≠ request.ownershipGeneration) ∧
      (Bounded s → Bounded (s.run as)) := by
  intro s
  have hkeyed : LiveKeyed s := LiveKeyed.boot
  have hlawful := lawful_run hkeyed hlife hlast
  refine ⟨?_, ?_, ?_, fun hbounded => hbounded.run hkeyed hlife hlast⟩
  · exact runOk_of_invariant (I := fun _ => True) (fun _ _ _ _ => trivial)
      (fun _ _ h _ => ownershipGrows_of_lawful h) trivial hlawful
  · intro write hwrite write' hwrite' hobject hownership
    have hfresh : ∀ id n holder, ¬ office.pledged s id n holder := by
      rintro id n holder ⟨frame, hframe, -⟩
      exact not_mem_boot_frames hframe
    have hmem := mem_acts_of_mem_writes hwrite
    have hmem' := mem_acts_of_mem_writes hwrite'
    rw [hobject, hownership] at hmem
    exact Prod.mk.inj (holder_unique hfresh hlawful hmem hmem')
  rintro bs request cs object rfl hreleases write hwrite hobject hsame
  obtain ⟨hbefore, hlawful'⟩ := runOk_append.mp hlawful
  have hlast' := (runOk_append.mp hlast).2.1
  have hkeyed' : LiveKeyed (s.run bs) := foldl_invariant (fun _ _ h => h.step) hkeyed
  have hle := le_of_mem_acts hlawful'.2 (hreleases.reached hkeyed' hlast')
    (hobject ▸ mem_acts_of_mem_writes hwrite)
  rw [hsame] at hle
  omega

end Run

/-! ### Where the limits are -/

namespace Duo

def releaseRequest : ReleaseRequest :=
  { context := context 1, ownershipGeneration := ⟨2⟩, releaseWriteAuthority := true }

def release : Action := .release releaseRequest

/-- The ownership generations of the object of a replica and of the replica. -/
def generations (s : Sys LogStore) (id : RegionId) : Option (UInt64 × UInt64) := do
  let region ← s.engine.regions[id]?
  let object ← s.engine.objects[region.object]?
  return (object.ownershipGeneration.value, region.ownershipGeneration.value)

def answer (s : Sys LogStore) : Option PublicationState :=
  match (s.engine.publishReserve identified).1 with
  | .done (.ok receipt) => some receipt.state
  | _ => none

/-- A store with a planned synchronization whose destination is a replica of another object. -/
def crossed : Option LogStore :=
  (start.run (planned ++ [.registerObject ⟨1⟩ [2] 8 (strictPolicy [1])])).medium.map fun store =>
    { store with image := { store.image with
        regions := store.image.regions.map fun id region =>
          if id = ⟨1⟩ then { region with object := ⟨2⟩ } else region } }

end Duo

theorem one_writer_per_generation_released :
    let as := Duo.owned ++ [Duo.markDirty, Duo.release, Duo.markDirty]
    Duo.start.writes as = [⟨⟨1⟩, ⟨2⟩, ⟨1⟩, Duo.bootOf 1⟩] ∧
      RunOk Sys.step OwnershipGrows Duo.start as ∧ Bounded (Duo.start.run as) := by
  intro as
  have hempty : Duo.start.engine.regions.toList = [] ∧ Duo.start.engine.syncs.toList = [] := by
    decide +kernel
  have hstart : Bounded Duo.start := by
    refine ⟨fun key region hregion => ?_, fun key record hrecord => ?_, fun frame hframe => ?_⟩
    · rw [← mem_toList_iff_getElem?_eq_some, hempty.1] at hregion
      exact absurd hregion List.not_mem_nil
    · rw [← mem_toList_iff_getElem?_eq_some, hempty.2] at hrecord
      exact absurd hrecord List.not_mem_nil
    · exact absurd hframe not_mem_boot_frames
  have h := one_writer_per_generation {} (some ({} : LogStore)) as (by decide) (by decide +kernel)
  exact ⟨by decide +kernel, h.1, h.2.2.2 hstart⟩

/-- A publish request that has been committed is answered with success again after the release of
its generation. A generation at the end of the numbers is followed by an earlier one. When the
journal has refused a release but takes the next observation of the replica, the replica is ahead
of its object after a restart. And a restored synchronization that names a replica of another
object gives it the generation of its own object. -/
theorem generation_limits :
    (let s := Duo.start.run (Duo.owned ++
        [.publishReserve Duo.identified, .publishAppend 0, .publishCommit 0])
     (s.engine.release Duo.releaseRequest).1.isOk ∧
        Duo.answer (s.step Duo.release) = some .committed) ∧
    (let s := (Sys.boot {} (Duo.left fun object =>
        { object with ownershipGeneration := ⟨0 - 1⟩ })).run (Duo.resume 1)
     Duo.generations s ⟨1⟩ = some (0 - 1, 0 - 1) ∧
        Duo.generations (s.step Duo.acquireAgain) ⟨1⟩ = some (0, 0 - 1)) ∧
    (let s : Sys LogStore := (Sys.boot {} (some { script := .replicate 12 true ++ [false] })).run
        (Duo.owned ++ [Duo.release, Duo.observe 1])
     Duo.generations (s.step (.restart {})) ⟨1⟩ = some (2, 3)) ∧
    (let s := (Sys.boot {} Duo.crossed).run [.registerParticipant [1] (Duo.bootOf 1) ⟨2⟩ []]
     Duo.generations s ⟨1⟩ = some (1, 1) ∧ Duo.generations s ⟨2⟩ = some (2, 2) ∧
        Duo.generations (s.step (Duo.complete Duo.contextAgain Duo.content)) ⟨1⟩ =
          some (1, 2)) := by
  decide +kernel

end CoherenceFabric
