import SpiWifi.Main
import SpiWifi.Link.Script
import SpiWifi.Socket.DatagramSocket
import SpiWifi.Socket.Listener
import SpiWifi.Socket.Queued
import SpiWifi.Proofs.Wire.Reading
import SpiWifi.Proofs.Wire.Grammar
import SpiWifi.Proofs.Wire.RoundTrip
import SpiWifi.Proofs.Wire.Sizes
import SpiWifi.Proofs.Text.Utf8
import SpiWifi.Proofs.Wire.Slots
import SpiWifi.Proofs.Device.Serving
import SpiWifi.Proofs.Link.Exchange
import SpiWifi.Proofs.Link.Transparency
import SpiWifi.Proofs.Link.Journal
import SpiWifi.Proofs.Link.Discipline
import SpiWifi.Proofs.Link.Delivery
import SpiWifi.Proofs.Socket.Cache
import SpiWifi.Proofs.Socket.Conservation
import SpiWifi.Proofs.Socket.Queued
import SpiWifi.Proofs.Socket.Requests
import SpiWifi.Proofs.Socket.Receiving
import SpiWifi.Proofs.Socket.Connecting
import SpiWifi.Proofs.Socket.Conversation
import SpiWifi.Proofs.Socket.ByteStream
import SpiWifi.Proofs.Link.Outcome
import SpiWifi.Proofs.Device.Sockets
import SpiWifi.Proofs.Device.Rejection
import SpiWifi.Proofs.Socket.Uses
import SpiWifi.Proofs.Socket.Openings
import SpiWifi.Proofs.Socket.Fetching
import SpiWifi.Proofs.Socket.Backlog
import SpiWifi.Proofs.Socket.Reuse
import SpiWifi.Proofs.Socket.Sending
import SpiWifi.Proofs.Socket.Obliging
import SpiWifi.Proofs.Socket.Refilling
import SpiWifi.Proofs.Socket.Configured
import SpiWifi.Proofs.Socket.Ending
import SpiWifi.Proofs.Board.Basic
import SpiWifi.Proofs.Device.Replies
import SpiWifi.Proofs.Board.Ledger
import SpiWifi.Proofs.Board.Moves
import SpiWifi.Proofs.Board.Operations
import SpiWifi.Proofs.Board.Steps
import SpiWifi.Proofs.Board.Exclusivity
import SpiWifi.Proofs.Board.Accounting
import SpiWifi.Proofs.Board.Records
import SpiWifi.Proofs.Board.Sent
import SpiWifi.Proofs.Board.Connections
import SpiWifi.Proofs.Board.Resets
import SpiWifi.Proofs.Board.Accepting
import SpiWifi.Proofs.Socket.Assembling
import SpiWifi.Proofs.Socket.Boundaries
import SpiWifi.Proofs.Board.Datagrams
import SpiWifi.Proofs.Board.Packets
import SpiWifi.Proofs.Board.Received
import SpiWifi.Proofs.Socket.Isolation
import SpiWifi.Proofs.Wire.Writing
import SpiWifi.Proofs.Wire.Renewal
import SpiWifi.Proofs.Wire.Interrupted
import SpiWifi.Proofs.Wire.Streaming
import SpiWifi.Proofs.Socket.Awaiting
import SpiWifi.Proofs.Socket.Accepted
import SpiWifi.Proofs.Socket.Stopping
import SpiWifi.Proofs.Link.Questions
import SpiWifi.Proofs.Station.Stages
import SpiWifi.Proofs.Station.Inquiries
import SpiWifi.Proofs.Station.Joining
import SpiWifi.Proofs.Station.Names
import SpiWifi.Proofs.Station.Scanning
import SpiWifi.Proofs.Station.Entries
import SpiWifi.Proofs.Station.Losses
import SpiWifi.Proofs.Station.Remembered
import SpiWifi.Proofs.Text.Decimal
import SpiWifi.Proofs.Text.Dotted
import SpiWifi.Proofs.Station.Resolving
import SpiWifi.Proofs.Settings.Fields
import SpiWifi.Proofs.Station.Assigning
import SpiWifi.Proofs.Settings.Precedence
import SpiWifi.Proofs.Document.Lines
import SpiWifi.Proofs.Document.Sections
import SpiWifi.Proofs.Settings.Reloading
import SpiWifi.Proofs.Text.Numeral
import SpiWifi.Proofs.Text.Hex
import SpiWifi.Proofs.Wire.Commands
import SpiWifi.Proofs.Cli.HexText
import SpiWifi.Proofs.Cli.Meaning
import SpiWifi.Proofs.Document.Json
import SpiWifi.Proofs.Cli.RoundTrip
import SpiWifi.Proofs.Cli.Spacing
