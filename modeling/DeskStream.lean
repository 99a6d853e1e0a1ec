import DeskStream.Audio.Buffer
import DeskStream.Audio.Path
import DeskStream.Audio.Pcm
import DeskStream.Audio.Playback
import DeskStream.Bytes
import DeskStream.Cli.Advertised
import DeskStream.Cli.Help
import DeskStream.Cli.Invocation
import DeskStream.Cli.LogFilter
import DeskStream.Cli.Plan
import DeskStream.Cli.Report
import DeskStream.Cli.Switch
import DeskStream.Cli.Watch
import DeskStream.Clock
import DeskStream.Crypto.Aead
import DeskStream.Crypto.ChaCha20
import DeskStream.Crypto.Poly1305
import DeskStream.Crypto.Sha256
import DeskStream.Discovery.Address
import DeskStream.Discovery.Browse
import DeskStream.Discovery.Error
import DeskStream.Discovery.Peer
import DeskStream.Discovery.PeerJson
import DeskStream.Discovery.Registry
import DeskStream.Discovery.Service
import DeskStream.Discovery.ServiceName
import DeskStream.Main
import DeskStream.Metrics
import DeskStream.Number.Binary
import DeskStream.Number.Fixed
import DeskStream.Number.Rounding
import DeskStream.Number.Shortest
import DeskStream.Pipeline
import DeskStream.Proofs.Metrics.Windows
import DeskStream.Proofs.Security.KeyHistory
import DeskStream.Proofs.Session.Coherence
import DeskStream.Proofs.Session.Invariant
import DeskStream.Proofs.Session.Operations
import DeskStream.Proofs.Session.Tasks
import DeskStream.Rehearsal.Decoder
import DeskStream.Rehearsal.Lock
import DeskStream.Rehearsal.Neighbourhood
import DeskStream.Rehearsal.Playout
import DeskStream.Rehearsal.Stage
import DeskStream.Rehearsal.Vault
import DeskStream.Security.Accounts
import DeskStream.Security.Error
import DeskStream.Security.KeyRing
import DeskStream.Security.Redacted
import DeskStream.Security.SharedKey
import DeskStream.Session.Basic
import DeskStream.Session.Config
import DeskStream.Session.Connect
import DeskStream.Session.Error
import DeskStream.Session.Ready
import DeskStream.Session.Receive
import DeskStream.Session.Send
import DeskStream.Session.State
import DeskStream.Session.Step
import DeskStream.Settings.Client
import DeskStream.Settings.Session
import DeskStream.Text.Blank
import DeskStream.Text.Combining
import DeskStream.Text.Dots
import DeskStream.Text.Hex
import DeskStream.Text.Json
import DeskStream.Text.Printable
import DeskStream.Text.Quoted
import DeskStream.Text.Reader
import DeskStream.Text.Utf8
import DeskStream.Toml.Document
import DeskStream.Toml.Scalar
import DeskStream.Toml.Value
import DeskStream.Transport.Config
import DeskStream.Transport.Connection
import DeskStream.Transport.Error
import DeskStream.Transport.Frame
import DeskStream.Video.Decoder
import DeskStream.Video.FrameQueue
import DeskStream.Video.Path
import DeskStream.Wire.Audio
import DeskStream.Wire.DecodeError
import DeskStream.Wire.Error
import DeskStream.Wire.Input
import DeskStream.Wire.Packet
import DeskStream.Wire.Video
import DeskStream.Proofs.Session.Farewell
import DeskStream.Proofs.Session.Presentation
import DeskStream.Proofs.Session.Superseded
import DeskStream.Proofs.Session.Transitions
import DeskStream.Proofs.Session.Outgoing
import DeskStream.Proofs.Video.Order
import DeskStream.Proofs.Transport.Reception
import DeskStream.Proofs.Security.Layout
import DeskStream.Proofs.Session.Confidential
import DeskStream.Proofs.Video.Account
import DeskStream.Proofs.Video.Sessions
import DeskStream.Proofs.Session.Dialling
import DeskStream.Proofs.Session.SendFailures
import DeskStream.Proofs.Pipeline.Restart
import DeskStream.Proofs.Metrics.Loss
import DeskStream.Proofs.Discovery.Lifetime
import DeskStream.Proofs.Discovery.Snapshot
import DeskStream.Proofs.Session.Release
import DeskStream.Proofs.Video.Queue
import DeskStream.Proofs.Audio.Schedule
import DeskStream.Proofs.Session.Messages
import DeskStream.Proofs.Session.Timers
import DeskStream.Proofs.Session.Budget
import DeskStream.Proofs.Session.Counters
import DeskStream.Proofs.Rehearsal.Playout
import DeskStream.Proofs.Pipeline.Apart
import DeskStream.Proofs.Video.Failures
import DeskStream.Proofs.Audio.Silence
import DeskStream.Proofs.Wire.Payload
import DeskStream.Proofs.Discovery.Restart
import DeskStream.Proofs.Metrics.Delays
import DeskStream.Proofs.Security.KeyText
import DeskStream.Proofs.Discovery.Identity
import DeskStream.Proofs.Session.KeepAlives
import DeskStream.Proofs.Transport.Sending
import DeskStream.Proofs.Transport.Lengths
import DeskStream.Proofs.Settings.Capacities
import DeskStream.Proofs.Discovery.Addresses
