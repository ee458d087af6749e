import FileChat.Config.Redacted
import FileChat.Event.Bus
import FileChat.Main
import FileChat.Wire.Artifact
import FileChat.Wire.Event
import FileChat.Proofs.Backend.RequestBody
import FileChat.Proofs.Backend.Resolution
import FileChat.Proofs.Context.Budget
import FileChat.Proofs.Context.History
import FileChat.Proofs.Ingest.Loading
import FileChat.Proofs.Session.Abandonment
import FileChat.Proofs.Session.Ingestion
import FileChat.Proofs.Session.Observer
import FileChat.Proofs.Session.Request
import FileChat.Proofs.Session.TurnLog
import FileChat.Proofs.Stream.Delivery
import FileChat.Proofs.Wire.Values
import FileChat.Proofs.Context.Ranking
import FileChat.Proofs.Context.Summary
import FileChat.Proofs.Terminal.Turn
import FileChat.Proofs.Terminal.Conversation
import FileChat.Proofs.Context.Preview
import FileChat.Proofs.Session.Mentions
import FileChat.Proofs.Ingest.Content
import FileChat.Proofs.Number.Order
import FileChat.Proofs.Backend.Temperature
import FileChat.Proofs.Config.Ranges
import FileChat.Proofs.Session.Focus
import FileChat.Proofs.Session.Search
import FileChat.Proofs.Context.Payload
import FileChat.Proofs.Context.Modes
import FileChat.Proofs.Terminal.Commands
import FileChat.Proofs.Session.Changes
import FileChat.Proofs.Config.Redaction
