import TopicConsumer.Batch.Compaction
import TopicConsumer.Batch.Context
import TopicConsumer.Batch.Delay
import TopicConsumer.Batch.Dispatch
import TopicConsumer.Batch.Executor
import TopicConsumer.Broker.Call
import TopicConsumer.Broker.Client
import TopicConsumer.Broker.ClientCall
import TopicConsumer.Broker.ClientError
import TopicConsumer.Broker.ClientSettings
import TopicConsumer.Broker.Error
import TopicConsumer.Broker.ErrorCode
import TopicConsumer.Broker.Property
import TopicConsumer.Broker.PropertyValue
import TopicConsumer.Broker.Rebalance
import TopicConsumer.Broker.TopicPattern
import TopicConsumer.Config.Consumer
import TopicConsumer.Config.Decode
import TopicConsumer.Config.Directory
import TopicConsumer.Config.Format
import TopicConsumer.Config.Ini
import TopicConsumer.Config.Installation
import TopicConsumer.Config.Json
import TopicConsumer.Config.Json5
import TopicConsumer.Config.Layers
import TopicConsumer.Config.Path
import TopicConsumer.Config.Ron
import TopicConsumer.Config.Toml.Document
import TopicConsumer.Config.Toml.Scalar
import TopicConsumer.Config.Value
import TopicConsumer.Config.Yaml.Document
import TopicConsumer.Config.Yaml.Scalar
import TopicConsumer.Config.Yaml.Scan
import TopicConsumer.Consumer.Assignment
import TopicConsumer.Consumer.Basic
import TopicConsumer.Consumer.Error
import TopicConsumer.Consumer.Lifecycle
import TopicConsumer.Consumer.Polling
import TopicConsumer.Consumer.Settings
import TopicConsumer.Consumer.Shutdown
import TopicConsumer.Entries
import TopicConsumer.Log
import TopicConsumer.Message.Basic
import TopicConsumer.Message.Headers
import TopicConsumer.Message.Partition
import TopicConsumer.Message.Shown
import TopicConsumer.Number.Binary64
import TopicConsumer.Number.SixDigits
import TopicConsumer.Pipeline.Basic
import TopicConsumer.Routine.Basic
import TopicConsumer.Simulation.Command
import TopicConsumer.Simulation.Cue
import TopicConsumer.Simulation.Handling
import TopicConsumer.Simulation.Moves
import TopicConsumer.Simulation.Probe
import TopicConsumer.Simulation.Scene
import TopicConsumer.Simulation.Schedule
import TopicConsumer.Simulation.Script
import TopicConsumer.Simulation.Stage
import TopicConsumer.Simulation.Step
import TopicConsumer.Simulation.Trace
import TopicConsumer.Simulation.World
import TopicConsumer.State.Manager
import TopicConsumer.Subscription.Basic
import TopicConsumer.Subscription.BatchSettings
import TopicConsumer.Text.Blank
import TopicConsumer.Text.Fold
import TopicConsumer.Text.JsonText
import TopicConsumer.Text.Numeral
import TopicConsumer.Text.Printable
import TopicConsumer.Text.Quoted
import TopicConsumer.Text.Reader
import TopicConsumer.Text.Utf8
import TopicConsumer.Time.Calendar
import TopicConsumer.Time.Rfc3339
import TopicConsumer.Time.Sleep
import TopicConsumer.Time.Timestamp
import TopicConsumer.Worker.Basic
import TopicConsumer.Worker.Batcher
import TopicConsumer.Worker.Disposal
import TopicConsumer.Worker.Intake
import TopicConsumer.Worker.Retry
import TopicConsumer.Proofs.State.Effects
import TopicConsumer.Proofs.Worker.Moves
import TopicConsumer.Proofs.Worker.Workshop
import TopicConsumer.Proofs.Worker.Worksite
import TopicConsumer.Proofs.Worker.Admission
import TopicConsumer.Proofs.Worker.Handover
import TopicConsumer.Proofs.Worker.Order
import TopicConsumer.Proofs.Worker.Capacity
import TopicConsumer.Proofs.Worker.Wakeup
import TopicConsumer.Proofs.Broker.PartitionLog
import TopicConsumer.Proofs.Worker.Feed
import TopicConsumer.Proofs.Worker.Account
import TopicConsumer.Proofs.Worker.Front
import TopicConsumer.Proofs.Worker.Delivery
import TopicConsumer.Proofs.Consumer.Assignment
import TopicConsumer.Proofs.Consumer.Moves
import TopicConsumer.Proofs.Consumer.Placement
import TopicConsumer.Proofs.Worker.Company
import TopicConsumer.Proofs.Consumer.Answerable
import TopicConsumer.Proofs.Consumer.Service
import TopicConsumer.Proofs.Consumer.Redelivery
import TopicConsumer.Proofs.Worker.Permits
import TopicConsumer.Proofs.Worker.Dismissal
import TopicConsumer.Proofs.Worker.Turns
import TopicConsumer.Proofs.Worker.Withdrawal
import TopicConsumer.Proofs.Worker.Progress
import TopicConsumer.Proofs.Worker.Conduct
import TopicConsumer.Proofs.Worker.Release
import TopicConsumer.Proofs.Worker.Refusal
import TopicConsumer.Proofs.Consumer.Passage
import TopicConsumer.Proofs.Consumer.Succession
import TopicConsumer.Proofs.State.Position
import TopicConsumer.Proofs.State.Isolation
import TopicConsumer.Proofs.State.Pauses
import TopicConsumer.Proofs.State.Agreement
import TopicConsumer.Proofs.Consumer.Office
import TopicConsumer.Proofs.Consumer.Whereabouts
import TopicConsumer.Proofs.Consumer.Landmarks
import TopicConsumer.Proofs.Consumer.Standing
import TopicConsumer.Proofs.Consumer.Validation
import TopicConsumer.Proofs.Consumer.Identity
import TopicConsumer.Proofs.Consumer.Acceptance
import TopicConsumer.Proofs.Consumer.Replacement
import TopicConsumer.Proofs.Consumer.Closure
import TopicConsumer.Proofs.Consumer.Rounds
import TopicConsumer.Proofs.Pipeline.Walk
import TopicConsumer.Proofs.Routine.Talk
import TopicConsumer.Proofs.Batch.Crew
import TopicConsumer.Proofs.Batch.Records
import TopicConsumer.Proofs.Batch.Return
import TopicConsumer.Proofs.Batch.Supervision
import TopicConsumer.Proofs.Batch.InPlace
import TopicConsumer.Proofs.Batch.Parallelism
import TopicConsumer.Proofs.Batch.Concord
import TopicConsumer.Proofs.Batch.Staging
import TopicConsumer.Proofs.Batch.Portrayal
import TopicConsumer.Proofs.Batch.Compaction
import TopicConsumer.Proofs.Worker.Clock
import TopicConsumer.Proofs.Worker.Boundaries
import TopicConsumer.Proofs.Worker.Retrial
import TopicConsumer.Proofs.Worker.Allocation
import TopicConsumer.Proofs.Worker.Patience
import TopicConsumer.Proofs.Text.Spelling
import TopicConsumer.Proofs.Time.Years
import TopicConsumer.Proofs.Message.Headers
import TopicConsumer.Proofs.Message.Roll
import TopicConsumer.Proofs.Message.Conversion
import TopicConsumer.Proofs.Batch.Deferral
import TopicConsumer.Proofs.Batch.Delay
import TopicConsumer.Proofs.Consumer.Commencement
import TopicConsumer.Proofs.Consumer.ClosingCall
import TopicConsumer.Proofs.Consumer.Limits
