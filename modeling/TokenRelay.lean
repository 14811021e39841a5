import TokenRelay.Event.Frame
import TokenRelay.Server.Respond
import TokenRelay.Settings.Load
import TokenRelay.Proofs.Auth.Keys
import TokenRelay.Proofs.Auth.Ring
import TokenRelay.Proofs.Chat.Cuts
import TokenRelay.Proofs.Chat.Drain
import TokenRelay.Proofs.Chat.Errors
import TokenRelay.Proofs.Chat.Mark
import TokenRelay.Proofs.Chat.Overtaking
import TokenRelay.Proofs.Event.Bodies
import TokenRelay.Proofs.Event.Normal
import TokenRelay.Proofs.Registry.Ledger
import TokenRelay.Proofs.Relay.Backpressure
import TokenRelay.Proofs.Relay.Isolation
import TokenRelay.Proofs.Relay.Mirror
import TokenRelay.Proofs.Relay.Progress
import TokenRelay.Proofs.Relay.Reuse
import TokenRelay.Proofs.Relay.Transcript
import TokenRelay.Proofs.Server.Capacity
import TokenRelay.Proofs.Server.Discretion
import TokenRelay.Proofs.Server.Echo
import TokenRelay.Proofs.Settings.Agreement
import TokenRelay.Proofs.Settings.Blank
import TokenRelay.Proofs.Settings.Discretion
import TokenRelay.Proofs.Transcript.Conversation
import TokenRelay.Proofs.Transcript.Pseudonym
import TokenRelay.Proofs.Transcript.Record
import TokenRelay.Proofs.Transcript.Storing
