import CoherenceFabric.Properties.Fencing
import CoherenceFabric.Properties.LostUpdate
import CoherenceFabric.Properties.Retirement
import CoherenceFabric.Properties.DurablePublication
import CoherenceFabric.Properties.Content
import CoherenceFabric.Properties.PublishedHistory
import CoherenceFabric.Properties.DirtyFlag
import CoherenceFabric.Properties.Settlement
import CoherenceFabric.Properties.Epochs
import CoherenceFabric.Properties.PublicationIds
import CoherenceFabric.Properties.ReadGrants
import CoherenceFabric.Properties.Outstanding
import CoherenceFabric.Properties.RecordCodec
import CoherenceFabric.Properties.Snapshots
import CoherenceFabric.Properties.JournalReplay
import CoherenceFabric.Properties.FrameStream
import CoherenceFabric.Properties.SessionReplay
import CoherenceFabric.Properties.Incarnations
import CoherenceFabric.Properties.AtMostOnce
import CoherenceFabric.Properties.Races
import CoherenceFabric.Properties.Mirror
import CoherenceFabric.Properties.FailedAppend
import CoherenceFabric.Properties.LegalTransitions
import CoherenceFabric.Properties.PolicyBinding
import CoherenceFabric.Properties.RestoredEvidence
import CoherenceFabric.Properties.Integrity
import CoherenceFabric.Properties.ReadOutcomes
import CoherenceFabric.Properties.SyncPlans
