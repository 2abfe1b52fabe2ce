import WebSocketClient.Frame
import WebSocketClient.Frame.Rules
import WebSocketClient.Text.Base64
import WebSocketClient.Digest.Sha1
import WebSocketClient.Text.Quoted
import WebSocketClient.Text.Decoder
import WebSocketClient.Text.Latin1
import WebSocketClient.Text.Blank
import WebSocketClient.Handshake.Key
import WebSocketClient.Handshake.Request
import WebSocketClient.Handshake.Response
import WebSocketClient.Close.Frame
import WebSocketClient.Message
import WebSocketClient.Endpoint
import WebSocketClient.Stream.Source
import WebSocketClient.Frame.Reading
import WebSocketClient.Handshake.Reading
import WebSocketClient.Stream.Sink
import WebSocketClient.Stream.Output
import WebSocketClient.Frame.Writing
import WebSocketClient.Event
import WebSocketClient.Receiver.Assembly
import WebSocketClient.Connection.State
import WebSocketClient.Diagnostic
import WebSocketClient.Connection.Basic
import WebSocketClient.Connection.Running
import WebSocketClient.Receiver
import WebSocketClient.Connection.Surroundings
import WebSocketClient.Proofs.Journal
import WebSocketClient.Proofs.Output
import WebSocketClient.Proofs.Moves
import WebSocketClient.Proofs.Outline
import WebSocketClient.Proofs.Changes
import WebSocketClient.Proofs.Calls
import WebSocketClient.Proofs.Reception
import WebSocketClient.Proofs.Simulation
import WebSocketClient.Proofs.Wire
import WebSocketClient.Proofs.Messages
import WebSocketClient.Proofs.Sequencing
import WebSocketClient.Proofs.Listening
import WebSocketClient.Proofs.Closing
import WebSocketClient.Proofs.Characters
import WebSocketClient.Proofs.Supply
import WebSocketClient.Proofs.Masking
import WebSocketClient.Proofs.Layout
import WebSocketClient.Proofs.Framing
import WebSocketClient.Proofs.RoundTrip
import WebSocketClient.Proofs.Transcripts
import WebSocketClient.Proofs.Assembling
import WebSocketClient.Proofs.Hearing
import WebSocketClient.Proofs.Returning
import WebSocketClient.Proofs.Cuts
import WebSocketClient.Proofs.Acceptance
import WebSocketClient.Proofs.Standing
import WebSocketClient.Proofs.Pasts
import WebSocketClient.Proofs.Openings
import WebSocketClient.Proofs.Attempts
import WebSocketClient.Proofs.Attending
import WebSocketClient.Proofs.Farewells
import WebSocketClient.Proofs.Settling
import WebSocketClient.Proofs.Parting
import WebSocketClient.Proofs.Lines
import WebSocketClient.Proofs.Requests
import WebSocketClient.Proofs.Offers
import WebSocketClient.Proofs.Endpoints
import WebSocketClient.Proofs.Arrivals
import WebSocketClient.Proofs.Lagging
import WebSocketClient.Proofs.Unattended
import WebSocketClient.Proofs.Splitting
import WebSocketClient.Proofs.Forecast
import WebSocketClient.Proofs.Heeding
import WebSocketClient.Proofs.Speaking
import WebSocketClient.Proofs.Directions
import WebSocketClient.Proofs.Fidelity
import WebSocketClient.Proofs.Afterwords
import WebSocketClient.Proofs.Fields
import WebSocketClient.Proofs.Headers
import WebSocketClient.Proofs.Heads
import WebSocketClient.Proofs.Chunks
import WebSocketClient.Proofs.ClosePayloads
import WebSocketClient.Proofs.Prefixes
import WebSocketClient.Proofs.Deadlines
import WebSocketClient.Proofs.Dropping
import WebSocketClient.Proofs.Appending
import WebSocketClient.Proofs.Keys
import WebSocketClient.Proofs.Reasons
import WebSocketClient.Proofs.Allowances
