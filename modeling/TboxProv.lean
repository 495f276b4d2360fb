import TboxProv.Json.RoundTrip
import TboxProv.Runs
import TboxProv.Persistence
import TboxProv.Protection
import TboxProv.CrashConsistency
import TboxProv.Identity
import TboxProv.ProvIpcDispatcher
import TboxProv.ProvClient
import TboxProv.Redelivery
import TboxProv.IpcSurface
import TboxProv.PathAgreement
import TboxProv.LockFlag
import TboxProv.SharedStore
import TboxProv.Lifecycle
import TboxProv.RewriteCount
import TboxProv.Retries
import TboxProv.RecordRoundTrip
import TboxProv.Crash.Relational
import TboxProv.Correspondence
import TboxProv.Isolation
import TboxProv.Disclosure
import TboxProv.Checksum
import TboxProv.VinGrammar
import TboxProv.ClientDecoding
import TboxProv.ReadbackFailure
import TboxProv.RecordWrites
import TboxProv.StrictDecoding
import TboxProv.DispatchTotal
import TboxProv.FlagCache
import TboxProv.AtomicWrite
import TboxProv.Yaml.Library
import TboxProv.Yaml.Schema
import TboxProv.ProvSchema
import TboxProv.CheckConfig
import TboxProv.SchemaEnforcement
import TboxProv.Crash.Trace
import TboxProv.Crash.Transaction
import TboxProv.Device
import TboxProv.DeviceRefinement
import TboxProv.DeviceRuns
import TboxProv.Durability
import TboxProv.ShippedProviders
import TboxProv.ProvCli
import TboxProv.CliSessions
import TboxProv.ClientSessions
import TboxProv.Crash.Simulation
import TboxProv.FileStore
import TboxProv.ConcurrentStore
import TboxProv.Daemon
import TboxProv.DaemonSessions
import TboxProv.DeviceSessions
import TboxProv.StaleProcesses
