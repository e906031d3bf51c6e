import CoherenceFabric.Store.Contract

/-!
A small deployment: one object, and two participants with a replica each.

Concrete runs start here, on a store that keeps the image itself.
-/

namespace CoherenceFabric

namespace Duo

def bootOf (n : UInt64) : ParticipantBootId := ⟨⟨0, n⟩⟩

def context (n : UInt64) : AuthorityContext :=
  { epoch := ⟨1⟩, participant := ⟨n⟩, boot := bootOf n, object := ⟨1⟩, objectGeneration := ⟨1⟩ }

def content : ContentFingerprint := { length := 1, defined := true }

def join (n : UInt64) : Action := .registerParticipant [n.toUInt8] (bootOf n) ⟨1⟩ []

def region (n : UInt64) : Action :=
  .registerRegion
    { context := context n, name := [n.toUInt8], memoryDomain := .hostPinned,
      evidenceClass := .real, length := 8 }

def enrol : List Action :=
  [.createDomain [1], join 1, join 2, .registerObject ⟨1⟩ [1] 8 (strictPolicy [1]), region 1,
    region 2]

/-- A participant observes its replica at a version. -/
def observeAt (n version : UInt64) : Action :=
  .revalidateRegion
    { context := context n, region := ⟨n⟩, observedVersion := ⟨version⟩, content := content }

abbrev observe (n : UInt64) : Action := observeAt n 1

def acquire : Action := .acquireWrite { context := context 1, region := ⟨1⟩ }

def owned : List Action := enrol ++ [observe 1, acquire]

/-- The first participant waits for the second one's replica to be invalidated. -/
def contested : List Action := enrol ++ [observe 1, observe 2, acquire]

def markDirty : Action :=
  .markDirty { context := context 1, region := ⟨1⟩, ownershipGeneration := ⟨2⟩ }

def publishRequest : PublishRequest :=
  { context := context 1, ownershipGeneration := ⟨2⟩, region := ⟨1⟩, content := content,
    allowWithoutDirty := true }

def identified : PublishRequest :=
  { publishRequest with context := { context 1 with request := ⟨7⟩ } }

/-- The writer has made phases 1 and 2 of a publication. -/
def recorded : List Action := owned ++ [.publishReserve publishRequest, .publishAppend 0]

def publishedOnce : List Action := recorded ++ [.publishCommit 0]

def register : Action :=
  .registerRegion
    { context := context 2, name := [3], memoryDomain := .hostPinned, evidenceClass := .real,
      length := 8 }

def retire (n : UInt64) : Action := .retireRegion ⟨n⟩ ⟨1⟩ ⟨1⟩

abbrev start : Sys LogStore := Sys.boot {} (some {})

/-- What the enrolled deployment leaves in the store, with its object changed. -/
def left (change : ObjectRecord → ObjectRecord) : Option LogStore :=
  (start.run enrol).medium.map fun store =>
    { store with image := { store.image with
        objects := store.image.objects.map fun _ object => change object } }

def contextAgain : AuthorityContext := { context 1 with epoch := ⟨2⟩ }

/-- After a restart the first participant joins again and observes its replica at a version. -/
def resume (version : UInt64) : List Action :=
  [.registerParticipant [1] (bootOf 1) ⟨2⟩ [],
    .revalidateRegion
      { context := contextAgain, region := ⟨1⟩, observedVersion := ⟨version⟩, content := content }]

def acquireAgain : Action := .acquireWrite { context := contextAgain, region := ⟨1⟩ }

/-- All phases of a publication from a replica. -/
def publishFrom (ctx : AuthorityContext) (region base ownership : UInt64) : List Action :=
  [.publishReserve
      { publishRequest with
        context := ctx
        region := ⟨region⟩
        ownershipGeneration := ⟨ownership⟩
        expectedBaseVersion := ⟨base⟩ },
    .publishAppend 0, .publishCommit 0]

/-- The second participant publishes the first version, and the first participant asks for a
synchronization of its replica. -/
def planned : List Action :=
  enrol ++ [observe 2, .acquireWrite { context := context 2, region := ⟨2⟩ }] ++
    publishFrom (context 2) 2 0 2 ++
    [.beginSync { context := context 1, destinationRegion := ⟨1⟩, sourceRegion := ⟨2⟩ }]

def complete (ctx : AuthorityContext) (observed : ContentFingerprint) : Action :=
  .completeSync
    { context := ctx, operation := ⟨1⟩, destinationRegion := ⟨1⟩,
      destinationRegionGeneration := ⟨1⟩, destinationNewVersion := ⟨1⟩,
      observedContent := observed }

def fail : Action := .failSync { context := context 1, operation := ⟨1⟩ }

def fenceWriter : Action := .fenceParticipant ⟨1⟩ ⟨1⟩ []

end Duo

end CoherenceFabric
