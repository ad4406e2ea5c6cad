import Netcode.Lib.LittleEndian
import Netcode.Lib.Ring
import Netcode.Lib.Trace
import Netcode.Model.Basic
import Netcode.Model.Crypto
import Netcode.Model.Token
import Netcode.Model.Replay
import Netcode.Model.Packet
import Netcode.Model.TokenEntries
import Netcode.Model.Encryption
import Netcode.Model.Server
import Netcode.Model.Client
import Netcode.Model.Sample
import Netcode.Server.Atom
import Netcode.Server.Binding
import Netcode.Server.Chain
import Netcode.Server.Alike
import Netcode.Server.SlotMapping
import Netcode.Server.Provenance
import Netcode.Server.Tokens
import Netcode.Server.Nonces
import Netcode.Server.Identity
import Netcode.Server.Restart
import Netcode.Server.Invisible
import Netcode.Client.Steps
import Netcode.Server.Slots
import Netcode.Server.Occupancy
import Netcode.Server.Handling
import Netcode.Server.Reached
import Netcode.Client.Expiry
import Netcode.Codec.Fields
import Netcode.Codec.Tokens
import Netcode.Codec.Writer
import Netcode.Codec.Packets
import Netcode.Model.Address
import Netcode.Codec.AddressText
import Netcode.Model.Generate
import Netcode.Codec.Pipeline
import Netcode.Server.Handshake
import Netcode.Client.Handshake
import Netcode.System.Completeness
import Netcode.Client.Nonces
import Netcode.Server.Sessions
import Netcode.Client.Connection
import Netcode.Tables.History
import Netcode.Tables.Mappings
import Netcode.Tables.Window
import Netcode.Server.Amplification
import Netcode.Client.Fallback
import Netcode.Client.Fresh
import Netcode.Client.Leave
import Netcode.Client.Elsewhere
import Netcode.Server.Reentrant
import Netcode.System.Network
import Netcode.System.Agreement
import Netcode.Lib.Refinement
import Netcode.Tables.Queue
import Netcode.Tables.Inbox
import Netcode.Server.Inboxes
import Netcode.Server.Outgoing
import Netcode.Client.Inbox
import Netcode.Client.Outgoing
import Netcode.System.Delivery
import Netcode.Model.Simulator
import Netcode.System.Simulator
import Netcode.Codec.Reader
import Netcode.Server.Checked
import Netcode.Server.InRange
import Netcode.Server.Bounds
import Netcode.Lib.Duplex
import Netcode.Server.Line
import Netcode.Client.Session
import Netcode.System.Link
import Netcode.System.Session
import Netcode.Server.Loopback
import Netcode.System.Loopback
import Netcode.Server.Windows
import Netcode.System.Heard
import Netcode.Server.Independence
import Netcode.Server.Timing
import Netcode.Server.Solicited
