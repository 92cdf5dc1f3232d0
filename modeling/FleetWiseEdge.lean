import FleetWiseEdge.Inspection.TriggerProtocol
import FleetWiseEdge.Inspection.Incremental
import FleetWiseEdge.Inspection.Isolation
import FleetWiseEdge.Inspection.Payload
import FleetWiseEdge.Inspection.Rejection
import FleetWiseEdge.Inspection.RawFrames
import FleetWiseEdge.Inspection.RingSafety
import FleetWiseEdge.Inspection.FixedWindows
import FleetWiseEdge.Inspection.ActiveDTCs
import FleetWiseEdge.Inspection.GeohashConditions
import FleetWiseEdge.Inspection.GeohashCells
import FleetWiseEdge.Inspection.FairDrain
import FleetWiseEdge.Inspection.WorkerSleep
import FleetWiseEdge.Inspection.LatestValue
import FleetWiseEdge.Ingestion.Condition
import FleetWiseEdge.Ingestion.ListRefinement
import FleetWiseEdge.Manager.Timeline
import FleetWiseEdge.Manager.CheckinTimer
import FleetWiseEdge.Manager.Update
import FleetWiseEdge.Manager.RebuildOrUpdate
import FleetWiseEdge.Manager.ChangeReporting
import FleetWiseEdge.Manager.HistoryIndependence
import FleetWiseEdge.Manager.FailedDocuments
import FleetWiseEdge.Manager.Flattening
import FleetWiseEdge.Manager.DecoderDictionary
import FleetWiseEdge.Decoding.OBDValues
import FleetWiseEdge.Decoding.SupportedPIDs
import FleetWiseEdge.Decoding.OBDAgreement
import FleetWiseEdge.Decoding.CANExtraction
import FleetWiseEdge.Decoding.CANMultiplexing
import FleetWiseEdge.Decoding.ManifestLookups
import FleetWiseEdge.Decoding.ManifestRebuild
import FleetWiseEdge.Diag.RequestLists
import FleetWiseEdge.Diag.TroubleCodes
import FleetWiseEdge.Diag.Session
import FleetWiseEdge.Consumer.ConnectionEvents
import FleetWiseEdge.Consumer.Reconnect
import FleetWiseEdge.Consumer.Acquisition
import FleetWiseEdge.Consumer.SleepingConsumer
import FleetWiseEdge.Consumer.Calls
import FleetWiseEdge.Consumer.FrameDecoding
import FleetWiseEdge.Dds.EventDelivery
import FleetWiseEdge.Connectivity.Disconnect
import FleetWiseEdge.Upload.Chunks
import FleetWiseEdge.Upload.RoundTrip
import FleetWiseEdge.Upload.Offline
import FleetWiseEdge.Upload.PersistencyQuota
import FleetWiseEdge.Upload.TruncatedFiles
import FleetWiseEdge.Upload.MemoryAccounting
import FleetWiseEdge.Upload.ProfilerLogs
import FleetWiseEdge.Pipeline.Campaigns
import FleetWiseEdge.Pipeline.Passes
