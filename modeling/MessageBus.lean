import MessageBus.Shared.Bytes
import MessageBus.Shared.CyclicIds
import MessageBus.Shared.Framing
import MessageBus.Shared.Tables
import MessageBus.Shared.Transition
import MessageBus.Wire.Content
import MessageBus.Wire.Readers
import MessageBus.Client.Futures
import MessageBus.Client.RemoteCalls
import MessageBus.Client.OwnAnswers
import MessageBus.Server.Connections
import MessageBus.Server.Effects
import MessageBus.Server.Pool
import MessageBus.Local.OwnOutcomes
import MessageBus.Net.ByteQueue
import MessageBus.Wire.MessageCodec
import MessageBus.Client.LookupsKept
import MessageBus.Client.LookupsUnderWay
import MessageBus.Client.PostOrder
import MessageBus.Net.ClientPool
import MessageBus.Net.TcpSock
import MessageBus.Net.Writability
import MessageBus.Net.WriteShutdown
import MessageBus.Shared.ByteText
import MessageBus.Shared.StructFormat
import MessageBus.Wire.ContentExchange
import MessageBus.Wire.PyAgreement
import MessageBus.Net.Affinity
import MessageBus.Net.EndReports
import MessageBus.Server.Ports
import MessageBus.Server.Relay
import MessageBus.Server.RelayOnce
import MessageBus.Server.RelayOrder
import MessageBus.Server.RequestBodies
import MessageBus.Server.SendMsgReq
import MessageBus.Wire.ForeignStreams
import MessageBus.Shared.Accounts
import MessageBus.Shared.Descriptors
import MessageBus.Net.SockDescriptors
import MessageBus.Client.ReceiverClients
import MessageBus.Shared.WeakRefs
import MessageBus.Local.HandlerRegistry
import MessageBus.Local.Batches
import MessageBus.Local.SendPaths
import MessageBus.Local.QueuedCalls
import MessageBus.Local.Merging
import MessageBus.Local.HandlerTypes
import MessageBus.Net.NotifyPipe
import MessageBus.Net.WakeUps
import MessageBus.Threads.NamedWorkers
import MessageBus.Shared.Reservations
import MessageBus.Client.ServerConnMgr
import MessageBus.Client.FuturesReturned
import MessageBus.Server.BusyStates
import MessageBus.Wire.PBEnvelope
import MessageBus.Wire.PayloadLengths
import MessageBus.Server.ServiceNames
import MessageBus.Wire.PyMsgText
import MessageBus.Net.PoolSize
import MessageBus.Client.SenderFilters
import MessageBus.Shared.Slots
import MessageBus.Threads.Timers
import MessageBus.Local.PyHandlers
import MessageBus.Shared.OrderedMap
import MessageBus.Json.Reread
import MessageBus.Json.Getters
import MessageBus.Net.Notifications
import MessageBus.Local.FailedSends
import MessageBus.Client.SendChain
import MessageBus.Server.LoadBalance
import MessageBus.System.AnsweredOnce
import MessageBus.System.RelayedOnce
import MessageBus.Threads.WorkerPool
import MessageBus.Net.SilentPeers
import MessageBus.Server.NamesServed
import MessageBus.Server.RegistrarPool
