import SealedTunnel.Address
import SealedTunnel.Bytes
import SealedTunnel.Cipher
import SealedTunnel.Command.Files
import SealedTunnel.Command.LogField
import SealedTunnel.Command.LogFilter
import SealedTunnel.Command.Memory
import SealedTunnel.Command.Options
import SealedTunnel.Command.Run
import SealedTunnel.Config.Basic
import SealedTunnel.Config.Decode
import SealedTunnel.Config.Profile
import SealedTunnel.Config.Written
import SealedTunnel.Conn.Carrier
import SealedTunnel.Conn.Channel
import SealedTunnel.Conn.Line
import SealedTunnel.Conn.Reader
import SealedTunnel.Conn.Settings
import SealedTunnel.Conn.Wire
import SealedTunnel.Crypto.Aes
import SealedTunnel.Crypto.Base64
import SealedTunnel.Crypto.ChaChaPoly
import SealedTunnel.Crypto.Gcm
import SealedTunnel.Crypto.Hkdf
import SealedTunnel.Crypto.Sha256
import SealedTunnel.Ends.Admission
import SealedTunnel.Ends.Dialing
import SealedTunnel.Ends.Egress
import SealedTunnel.Ends.Ingress
import SealedTunnel.Error
import SealedTunnel.Frame.Compression
import SealedTunnel.Frame.Header
import SealedTunnel.Loopback.Dialer
import SealedTunnel.Loopback.Link
import SealedTunnel.Loopback.Machine
import SealedTunnel.Loopback.Pipe
import SealedTunnel.Loopback.Proxy
import SealedTunnel.Loopback.Scene
import SealedTunnel.Loopback.World
import SealedTunnel.Main
import SealedTunnel.Network.Endpoint
import SealedTunnel.Network.Ip
import SealedTunnel.Obfuscation
import SealedTunnel.Obfuscation.Jitter
import SealedTunnel.Obfuscation.Padding
import SealedTunnel.Opening
import SealedTunnel.Pattern.Automaton
import SealedTunnel.Pattern.Basic
import SealedTunnel.Pattern.Brackets
import SealedTunnel.Pattern.Reader
import SealedTunnel.Pattern.Sign
import SealedTunnel.Pool
import SealedTunnel.Proofs.Address
import SealedTunnel.Proofs.Address.Canonical
import SealedTunnel.Proofs.Address.Text
import SealedTunnel.Proofs.Bytes
import SealedTunnel.Proofs.Config.Agreement
import SealedTunnel.Proofs.Config.Framing
import SealedTunnel.Proofs.Config.Profiles
import SealedTunnel.Proofs.Config.Range
import SealedTunnel.Proofs.Config.Resolved
import SealedTunnel.Proofs.Config.RoundTrip
import SealedTunnel.Proofs.Conn.Aftermath
import SealedTunnel.Proofs.Conn.Bounds
import SealedTunnel.Proofs.Conn.Buffers
import SealedTunnel.Proofs.Conn.Carrier
import SealedTunnel.Proofs.Conn.Fetching
import SealedTunnel.Proofs.Conn.Flow
import SealedTunnel.Proofs.Conn.Parsing
import SealedTunnel.Proofs.Conn.Pause
import SealedTunnel.Proofs.Conn.Payload
import SealedTunnel.Proofs.Conn.Provenance
import SealedTunnel.Proofs.Conn.Reading
import SealedTunnel.Proofs.Conn.Serving
import SealedTunnel.Proofs.Conn.Session
import SealedTunnel.Proofs.Conn.Traffic
import SealedTunnel.Proofs.Conn.Writing
import SealedTunnel.Proofs.Crypto.Hash
import SealedTunnel.Proofs.Crypto.Inverse
import SealedTunnel.Proofs.Crypto.Standard
import SealedTunnel.Proofs.Digits
import SealedTunnel.Proofs.Ends.Activity
import SealedTunnel.Proofs.Ends.Admission
import SealedTunnel.Proofs.Ends.Connecting
import SealedTunnel.Proofs.Ends.Egress
import SealedTunnel.Proofs.Ends.Incidents
import SealedTunnel.Proofs.Ends.Ingress
import SealedTunnel.Proofs.Frame.Body
import SealedTunnel.Proofs.Frame.Compression
import SealedTunnel.Proofs.Frame.Header
import SealedTunnel.Proofs.Loopback.Counters
import SealedTunnel.Proofs.Loopback.Pipe
import SealedTunnel.Proofs.Obfuscation.Codec
import SealedTunnel.Proofs.Obfuscation.Decoys
import SealedTunnel.Proofs.Obfuscation.Jitter
import SealedTunnel.Proofs.Obfuscation.Padding
import SealedTunnel.Proofs.Path.Far
import SealedTunnel.Proofs.Path.Fidelity
import SealedTunnel.Proofs.Path.Near
import SealedTunnel.Proofs.Path.Station
import SealedTunnel.Proofs.Path.Telling
import SealedTunnel.Proofs.Pool.Clones
import SealedTunnel.Proofs.Pool.Lending
import SealedTunnel.Proofs.Random
import SealedTunnel.Proofs.Random.Rejection
import SealedTunnel.Proofs.Random.Supply
import SealedTunnel.Proofs.Random.Uniform
import SealedTunnel.Proofs.Relay.Counting
import SealedTunnel.Proofs.Relay.Guide
import SealedTunnel.Proofs.Relay.Record
import SealedTunnel.Proofs.Relay.Steps
import SealedTunnel.Proofs.Relay.Tally
import SealedTunnel.Proofs.Relay.Within
import SealedTunnel.Proofs.Sealing
import SealedTunnel.Proofs.Snappy.Expansion
import SealedTunnel.Proofs.Snappy.RoundTrip
import SealedTunnel.Proofs.Snappy.Size
import SealedTunnel.Proofs.Socks.Order
import SealedTunnel.Proofs.Socks.Request
import SealedTunnel.Proofs.Socks.Verdict
import SealedTunnel.Proofs.Stream.Calls
import SealedTunnel.Proofs.Stream.Opening
import SealedTunnel.Proofs.Stream.Outcome
import SealedTunnel.Proofs.Stream.Polls
import SealedTunnel.Proofs.Stream.Reliable
import SealedTunnel.Proofs.Stream.Requests
import SealedTunnel.Proofs.Stream.Talk
import SealedTunnel.Proofs.Stream.Target
import SealedTunnel.Proofs.Stream.Within
import SealedTunnel.Proofs.Toml.Document
import SealedTunnel.Proofs.Toml.Number
import SealedTunnel.Proofs.Toml.Quoted
import SealedTunnel.Random
import SealedTunnel.Relay
import SealedTunnel.Snappy.Block
import SealedTunnel.Snappy.Element
import SealedTunnel.Socks.Session
import SealedTunnel.Stats
import SealedTunnel.Stream.Duplex
import SealedTunnel.Stream.Talk
import SealedTunnel.Stream.Tunnel
import SealedTunnel.Text.Alphanumeric
import SealedTunnel.Text.Blank
import SealedTunnel.Text.Extent
import SealedTunnel.Text.Hexadecimal
import SealedTunnel.Toml.Character
import SealedTunnel.Toml.Document
import SealedTunnel.Toml.Moment
import SealedTunnel.Toml.Number
import SealedTunnel.Toml.Quoted
import SealedTunnel.Toml.Value
