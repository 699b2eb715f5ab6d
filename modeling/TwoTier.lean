import TwoTier.Call
import TwoTier.Call.Step
import TwoTier.Cluster
import TwoTier.Double
import TwoTier.Double.Text
import TwoTier.Error
import TwoTier.Flights
import TwoTier.Glob
import TwoTier.Glob.CharSet
import TwoTier.Glob.Pattern
import TwoTier.Http
import TwoTier.Http.Body
import TwoTier.Http.MediaType
import TwoTier.Invalidation
import TwoTier.Json
import TwoTier.Json.Parser
import TwoTier.Json.Printer
import TwoTier.Json.Scan
import TwoTier.Json.Skip
import TwoTier.Launch
import TwoTier.Ledger
import TwoTier.LogFilter
import TwoTier.Lru
import TwoTier.Main
import TwoTier.MessagePack
import TwoTier.MessagePack.Payload
import TwoTier.MessagePack.Reader
import TwoTier.MessagePack.Record
import TwoTier.Net.Address
import TwoTier.Node
import TwoTier.Proofs.Backoff
import TwoTier.Proofs.Call.Kinds
import TwoTier.Proofs.Call.Marks
import TwoTier.Proofs.Call.Postings
import TwoTier.Proofs.Call.Progress
import TwoTier.Proofs.Call.Removal
import TwoTier.Proofs.Call.Segment
import TwoTier.Proofs.CharacterClasses
import TwoTier.Proofs.Cluster.Absence
import TwoTier.Proofs.Cluster.Balance
import TwoTier.Proofs.Cluster.Doings
import TwoTier.Proofs.Cluster.Lines
import TwoTier.Proofs.Cluster.Provenance
import TwoTier.Proofs.Cluster.Run
import TwoTier.Proofs.Cluster.Tally
import TwoTier.Proofs.Cluster.Twins
import TwoTier.Proofs.Coherence
import TwoTier.Proofs.ConnectionRetries
import TwoTier.Proofs.Conservation
import TwoTier.Proofs.CrossInvalidation
import TwoTier.Proofs.Degradation
import TwoTier.Proofs.Deletion
import TwoTier.Proofs.ErrorAccounting
import TwoTier.Proofs.Eviction
import TwoTier.Proofs.FetchThrough
import TwoTier.Proofs.Flights.Standing
import TwoTier.Proofs.Glob.Expression
import TwoTier.Proofs.Glob.Matching
import TwoTier.Proofs.GlobTranslation
import TwoTier.Proofs.HiddenExpiry
import TwoTier.Proofs.HttpSurface
import TwoTier.Proofs.IntegerCrossing
import TwoTier.Proofs.Invalidation
import TwoTier.Proofs.InvalidationWindow
import TwoTier.Proofs.Keyed
import TwoTier.Proofs.LocalBooks
import TwoTier.Proofs.Lru.Counts
import TwoTier.Proofs.Lru.Departures
import TwoTier.Proofs.Lru.Inclusion
import TwoTier.Proofs.Lru.Residence
import TwoTier.Proofs.Maintenance
import TwoTier.Proofs.MessagePack.JsonPayload
import TwoTier.Proofs.MessagePack.Reading
import TwoTier.Proofs.MessagePack.Restored
import TwoTier.Proofs.Mirroring
import TwoTier.Proofs.Noninterference
import TwoTier.Proofs.PagedDeletion
import TwoTier.Proofs.PatternDeletion
import TwoTier.Proofs.PayloadRoundTrip
import TwoTier.Proofs.PrefixInvalidation
import TwoTier.Proofs.Remote.Containment
import TwoTier.Proofs.Remote.Query
import TwoTier.Proofs.RequestAccounting
import TwoTier.Proofs.Schedule.Clock
import TwoTier.Proofs.Schedule.Completion
import TwoTier.Proofs.Schedule.Glance
import TwoTier.Proofs.Schedule.Lockstep
import TwoTier.Proofs.Schedule.Prompt
import TwoTier.Proofs.Schedule.Removal
import TwoTier.Proofs.Schedule.Solo
import TwoTier.Proofs.Schedule.Strides
import TwoTier.Proofs.Settings.DocumentKeys
import TwoTier.Proofs.Settings.Layers
import TwoTier.Proofs.Settings.Leaves
import TwoTier.Proofs.Settings.Texts
import TwoTier.Proofs.Settings.Variables
import TwoTier.Proofs.SettingsLayering
import TwoTier.Proofs.SingleFlight
import TwoTier.Proofs.Site.Alike
import TwoTier.Proofs.Site.Coherent
import TwoTier.Proofs.Site.Landing
import TwoTier.Proofs.Site.Like
import TwoTier.Proofs.Site.Mirrored
import TwoTier.Proofs.Site.Slips
import TwoTier.Proofs.Site.Thinned
import TwoTier.Proofs.Site.Trips
import TwoTier.Proofs.Staleness
import TwoTier.Proofs.Store.Calm
import TwoTier.Proofs.Store.Contents
import TwoTier.Proofs.Store.Reference
import TwoTier.Proofs.Store.Share
import TwoTier.Proofs.TimeToLive
import TwoTier.Proofs.WireFormat
import TwoTier.Recorder
import TwoTier.Redis
import TwoTier.Redis.Reply
import TwoTier.Redis.Url
import TwoTier.Remote
import TwoTier.Remote.Calls
import TwoTier.Report
import TwoTier.Schedule
import TwoTier.Settings
import TwoTier.Settings.Document
import TwoTier.Settings.EnvFile
import TwoTier.Settings.Environment
import TwoTier.Settings.Load
import TwoTier.Settings.Reader
import TwoTier.Settings.Toml
import TwoTier.Settings.Tree
import TwoTier.Site
import TwoTier.Store
import TwoTier.Store.Fault
import TwoTier.Store.Request
import TwoTier.Text
import TwoTier.Time
