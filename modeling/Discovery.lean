import Discovery.Address.Ipv6
import Discovery.Agent.Basic
import Discovery.Agent.Description
import Discovery.Agent.Error
import Discovery.Bytes
import Discovery.Clock
import Discovery.Config.Basic
import Discovery.Config.Document
import Discovery.Config.Environment
import Discovery.Config.File
import Discovery.Config.Location
import Discovery.Datagram.Frame
import Discovery.Datagram.SequenceFilter
import Discovery.Datagram.Session
import Discovery.Datagram.Settings
import Discovery.Datagram.Transport
import Discovery.Json.Reader
import Discovery.Json.Value
import Discovery.Network.Basic
import Discovery.Proofs.Agent.Accounting
import Discovery.Proofs.Agent.Agenda
import Discovery.Proofs.Agent.Amending
import Discovery.Proofs.Agent.Callbacks
import Discovery.Proofs.Agent.Closing
import Discovery.Proofs.Agent.Consistency
import Discovery.Proofs.Agent.Diary
import Discovery.Proofs.Agent.Editing
import Discovery.Proofs.Agent.Effects
import Discovery.Proofs.Agent.Farewell
import Discovery.Proofs.Agent.Finality
import Discovery.Proofs.Agent.Handling
import Discovery.Proofs.Agent.Moments
import Discovery.Proofs.Agent.Notification
import Discovery.Proofs.Agent.Occasion
import Discovery.Proofs.Agent.Querying
import Discovery.Proofs.Agent.Reading
import Discovery.Proofs.Agent.Refusal
import Discovery.Proofs.Agent.Scheduling
import Discovery.Proofs.Agent.Serial
import Discovery.Proofs.Agent.Silence
import Discovery.Proofs.Agent.Tenancy
import Discovery.Proofs.Agent.Timetable
import Discovery.Proofs.Agent.Transmission
import Discovery.Proofs.Agent.Truth
import Discovery.Proofs.Agent.Usage
import Discovery.Proofs.Config.Categories
import Discovery.Proofs.Config.Override
import Discovery.Proofs.Convergence.Community
import Discovery.Proofs.Convergence.Conduct
import Discovery.Proofs.Convergence.Exchange
import Discovery.Proofs.Convergence.Hearing
import Discovery.Proofs.Convergence.History
import Discovery.Proofs.Convergence.Loss
import Discovery.Proofs.Convergence.Operation
import Discovery.Proofs.Convergence.Receipt
import Discovery.Proofs.Convergence.Rest
import Discovery.Proofs.Convergence.Scene
import Discovery.Proofs.Convergence.Speech
import Discovery.Proofs.Convergence.View
import Discovery.Proofs.Datagram.Filtering
import Discovery.Proofs.Datagram.Frame
import Discovery.Proofs.Datagram.Layout
import Discovery.Proofs.Datagram.Ordering
import Discovery.Proofs.Datagram.Receiving
import Discovery.Proofs.Datagram.Remembrance
import Discovery.Proofs.Json.Reading
import Discovery.Proofs.Network.Delivery
import Discovery.Proofs.Network.Periods
import Discovery.Proofs.Publisher.Arrangement
import Discovery.Proofs.Publisher.Editing
import Discovery.Proofs.Publisher.Interval
import Discovery.Proofs.Publisher.Punctuality
import Discovery.Proofs.Publisher.Regularity
import Discovery.Proofs.Publisher.Schedule
import Discovery.Proofs.Publisher.Step
import Discovery.Proofs.Publisher.Utterance
import Discovery.Proofs.Publisher.Vigilance
import Discovery.Proofs.Resource.Amendment
import Discovery.Proofs.Resource.Snapshot
import Discovery.Proofs.Resource.Spelling
import Discovery.Proofs.Simulation.Clock
import Discovery.Proofs.Subscriber.Chronicle
import Discovery.Proofs.Subscriber.Consistency
import Discovery.Proofs.Subscriber.Enrolment
import Discovery.Proofs.Subscriber.Holding
import Discovery.Proofs.Subscriber.Interleaving
import Discovery.Proofs.Subscriber.Knowledge
import Discovery.Proofs.Subscriber.Marking
import Discovery.Proofs.Subscriber.Membership
import Discovery.Proofs.Subscriber.Revision
import Discovery.Proofs.Subscriber.Serial
import Discovery.Proofs.Subscriber.Step
import Discovery.Proofs.Subscriber.Upkeep
import Discovery.Proofs.Text.Hex
import Discovery.Proofs.Text.Numeral
import Discovery.Proofs.Text.Utf8
import Discovery.Proofs.Timer.Deadline
import Discovery.Proofs.Timer.Reference
import Discovery.Proofs.Wire.Agreement
import Discovery.Proofs.Wire.Grammar
import Discovery.Proofs.Wire.Prefix
import Discovery.Publisher.Basic
import Discovery.Publisher.Interval
import Discovery.Resource.Attributes
import Discovery.Resource.Changes
import Discovery.Resource.Id
import Discovery.Resource.Info
import Discovery.Resource.Local
import Discovery.Resource.Remote
import Discovery.Rounding
import Discovery.Simulation.Event
import Discovery.Simulation.Run
import Discovery.Simulation.Step
import Discovery.Simulation.World
import Discovery.Subscriber.Basic
import Discovery.Subscriber.Subscription
import Discovery.Table
import Discovery.Table.Lemmas
import Discovery.Text.Blank
import Discovery.Text.Digit
import Discovery.Text.Hex
import Discovery.Text.Numeral
import Discovery.Text.Printable
import Discovery.Text.Quoted
import Discovery.Text.Separated
import Discovery.Timer
import Discovery.Toml.Number
import Discovery.Toml.Reader
import Discovery.Toml.Space
import Discovery.Toml.Text
import Discovery.Toml.Value
import Discovery.Transport.Basic
import Discovery.Wire.Decode
import Discovery.Wire.Encode
import Discovery.Wire.Limits
import Discovery.Wire.Message
