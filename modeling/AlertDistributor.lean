import AlertDistributor.Library.JsonText
import AlertDistributor.Library.Serde
import AlertDistributor.Library.UuidText
import AlertDistributor.Library.Backoff
import AlertDistributor.Library.Broadcast
import AlertDistributor.Library.Channel
import AlertDistributor.Library.FiniteMap
import AlertDistributor.Library.Keepalive
import AlertDistributor.Library.LastWrite
import AlertDistributor.Library.PartitionLog
import AlertDistributor.Library.Runs
import AlertDistributor.Library.Segments
import AlertDistributor.Model.SnsModels
import AlertDistributor.Model.AlertEvent
import AlertDistributor.Model.Cache
import AlertDistributor.Model.ControlPlane
import AlertDistributor.Model.Loader
import AlertDistributor.Model.ControlPlaneConsumer
import AlertDistributor.Model.Registry
import AlertDistributor.Model.SnsDispatcher
import AlertDistributor.Model.Config
import AlertDistributor.Model.SnsClient
import AlertDistributor.Model.HandleSocket
import AlertDistributor.Interface.Tables
import AlertDistributor.Interface.Events
import AlertDistributor.Model.Deserialize
import AlertDistributor.Interface.MessageGrammar
import AlertDistributor.Interface.MessageText
import AlertDistributor.Interface.Snapshot
import AlertDistributor.System.WebSocket
import AlertDistributor.Interface.Ledger
import AlertDistributor.System.DeviceSync
import AlertDistributor.System.SnsPush
import AlertDistributor.System.SnsWorker
import AlertDistributor.Interface.PushLedger
import AlertDistributor.System.AlertsConsumer
import AlertDistributor.Interface.DispatchLedger
import AlertDistributor.System.Service
import AlertDistributor.Interface.ServiceLedger
import AlertDistributor.System.ControlPlaneConsumer
import AlertDistributor.Interface.ControlLedger
import AlertDistributor.Analysis.Config
import AlertDistributor.Analysis.ControlPlaneSteps
import AlertDistributor.Analysis.ControlPlaneConsumer
import AlertDistributor.Analysis.ServiceLives
import AlertDistributor.Analysis.Service
import AlertDistributor.Analysis.ServiceProgress
import AlertDistributor.Analysis.ControlPlaneHealth
import AlertDistributor.Analysis.ControlPlaneStart
import AlertDistributor.Analysis.CacheIndexes
import AlertDistributor.Analysis.CacheTables
import AlertDistributor.Analysis.UnitOrg
import AlertDistributor.Analysis.Visibility
import AlertDistributor.Analysis.ControlPlane
import AlertDistributor.Analysis.EventFrame
import AlertDistributor.Analysis.Answers
import AlertDistributor.Analysis.SnapshotReplay
import AlertDistributor.Analysis.Interleaving
import AlertDistributor.Analysis.Convergence
import AlertDistributor.Analysis.Pausing
import AlertDistributor.Analysis.CacheStores
import AlertDistributor.Analysis.EndpointArn
import AlertDistributor.Analysis.RegistryIndexes
import AlertDistributor.Analysis.WebSocketSteps
import AlertDistributor.Analysis.ConnectionAuthority
import AlertDistributor.Analysis.ServiceSteps
import AlertDistributor.Analysis.DeviceSync
import AlertDistributor.Analysis.StaleCopies
import AlertDistributor.Analysis.PushTargets
import AlertDistributor.Analysis.Delivery
import AlertDistributor.Analysis.Accounting
import AlertDistributor.Analysis.AlertsConsumerSteps
import AlertDistributor.Analysis.Commits
import AlertDistributor.Analysis.Publish
import AlertDistributor.Analysis.HandleSocket
import AlertDistributor.Analysis.HandedInOrder
import AlertDistributor.Model.Auth
import AlertDistributor.System.WebSocketServer
import AlertDistributor.Interface.ServerLedger
import AlertDistributor.Analysis.Authentication
import AlertDistributor.Analysis.SocketTasks
import AlertDistributor.Model.SnsMessage
import AlertDistributor.Analysis.PushPayload
import AlertDistributor.Analysis.MessageGrammar
import AlertDistributor.Analysis.MessageText
import AlertDistributor.Analysis.AlertGrammar
