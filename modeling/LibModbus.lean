import LibModbus.Library.Program
import LibModbus.Library.Parts
import LibModbus.Library.Progress
import LibModbus.Library.Rounds
import LibModbus.Library.Memory
import LibModbus.Library.Stores
import LibModbus.Library.Words
import LibModbus.Library.Bits
import LibModbus.Library.Bytes
import LibModbus.Library.Ranges
import LibModbus.Library.ShiftRegister
import LibModbus.Library.Heap
import LibModbus.Library.Schedules
import LibModbus.Library.Objects
import LibModbus.Model.Context
import LibModbus.Model.Crc
import LibModbus.Model.Backend
import LibModbus.Model.Connection
import LibModbus.Model.Messages
import LibModbus.Model.Reply
import LibModbus.Model.Client
import LibModbus.Model.Device
import LibModbus.Model.Actor
import LibModbus.Link.Attached
import LibModbus.Link.Neutral
import LibModbus.Link.Descriptors
import LibModbus.Link.Endings
import LibModbus.Model.Listening
import LibModbus.Model.SerialPort
import LibModbus.Link.Servers
import LibModbus.Link.SerialPorts
import LibModbus.Framing.Length
import LibModbus.Framing.Receive
import LibModbus.Framing.Turns
import LibModbus.Framing.Delivery
import LibModbus.Framing.Frames
import LibModbus.Framing.Adu
import LibModbus.Framing.Pdu
import LibModbus.Framing.Crc
import LibModbus.Framing.LineErrors
import LibModbus.Client.Calls
import LibModbus.Client.Uses
import LibModbus.Client.Sessions
import LibModbus.Client.Connecting
import LibModbus.Client.Storage
import LibModbus.Client.Stops
import LibModbus.Client.Endings
import LibModbus.Client.Loops
import LibModbus.Server.Loops
import LibModbus.Server.BitTables
import LibModbus.Server.Dispatch
import LibModbus.Client.Requests
import LibModbus.Client.Sent
import LibModbus.Client.Arrays
import LibModbus.Client.Contexts
import LibModbus.Client.Timeouts
import LibModbus.Client.Answers
import LibModbus.Client.Checksums
import LibModbus.Client.Transactions
import LibModbus.Client.ErrorCodes
import LibModbus.Client.Writes
import LibModbus.Server.Atomic
import LibModbus.Server.Bounds
import LibModbus.Server.Locality
import LibModbus.Server.Responses
import LibModbus.Stream.InFrame
import LibModbus.Stream.Serving
import LibModbus.Stream.Sync
import LibModbus.Bank.Abstract
import LibModbus.Stream.Stores
import LibModbus.Bank.Server
import LibModbus.Bank.Client
import LibModbus.Bank.Refinement
import LibModbus.Bank.Packers
import LibModbus.Bank.Answering
import LibModbus.Client.Reads
import LibModbus.Client.Flushes
import LibModbus.Stream.Exceptions
import LibModbus.Stream.Bus
import LibModbus.Stream.Torn
import LibModbus.Storage.Mappings
import LibModbus.Storage.Lifetimes
import LibModbus.Storage.Copies
import LibModbus.Storage.Contexts
import LibModbus.Shared.Exchanges
import LibModbus.Shared.Masters
import LibModbus.Shared.Slaves
import LibModbus.Shared.Broadcasts
import LibModbus.Shared.Delays
import LibModbus.Shared.Stale
import LibModbus.Shared.Once
import LibModbus.Device.Registers
import LibModbus.Device.Positions
import LibModbus.Device.Strings
import LibModbus.Device.Methods
import LibModbus.Device.Jobs
import LibModbus.Device.Initialisers
import LibModbus.Device.Connection
import LibModbus.Device.Requests
import LibModbus.Device.Units
import LibModbus.Device.Endings
import LibModbus.Device.Timers
import LibModbus.Device.Wakeups
import LibModbus.Model.Network
import LibModbus.Model.Storage
import LibModbus.Device.Addresses
import LibModbus.Device.Live
import LibModbus.Device.Floats
