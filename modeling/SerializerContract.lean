import SerializerContract.Proofs.Barrier.Progress
import SerializerContract.Proofs.Channel.Memory
import SerializerContract.Proofs.Channel.Order
import SerializerContract.Proofs.DeepEquality.OwnEquality
import SerializerContract.Proofs.Detection.Matrix
import SerializerContract.Proofs.Incomparable.Fixture
import SerializerContract.Proofs.Nesting.Clone
import SerializerContract.Proofs.Nesting.Compatibility
import SerializerContract.Proofs.Nesting.Reading
import SerializerContract.Proofs.Nullable.Reuse
import SerializerContract.Proofs.Schedules.Runs
import SerializerContract.Proofs.ValueType.ByteOrder
import SerializerContract.Proofs.ValueType.LeastSize
import SerializerContract.Proofs.ValueType.OversizedLength
import SerializerContract.Proofs.ValueType.Renewal
import SerializerContract.SelfCheck.Cases
import SerializerContract.Session
import SerializerContract.Proofs.DeepEquality.Coverage
import SerializerContract.Proofs.Samples.Basic
import SerializerContract.Proofs.Samples.Reading
import SerializerContract.Proofs.ValueType.Description
import SerializerContract.Proofs.Samples.Writing
import SerializerContract.Proofs.Samples.History
import SerializerContract.Proofs.Interchange.Operations
import SerializerContract.Proofs.Interchange.Optional
import SerializerContract.Proofs.Nesting.Interchange
import SerializerContract.Proofs.Wrapping.Level
import SerializerContract.Proofs.Wrapping.Tower
import SerializerContract.Proofs.Nullable.Decision
import SerializerContract.Proofs.Snapshot.ReadBack
import SerializerContract.Proofs.Failure
import SerializerContract.Proofs.Snapshot.Frame
import SerializerContract.Proofs.Snapshot.Truncation
import SerializerContract.Proofs.Snapshot.Acceptance
import SerializerContract.Proofs.Nesting.Acceptance
import SerializerContract.Proofs.Stateless.Repetition
import SerializerContract.Proofs.Stateless.Agreement
import SerializerContract.Proofs.Stateless.Scripts
