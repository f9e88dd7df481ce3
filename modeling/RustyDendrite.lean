import RustyDendrite.AxonUtils.Basic
import RustyDendrite.AxonUtils.EventStore
import RustyDendrite.AxonUtils.Aggregate
import RustyDendrite.AxonUtils.OutputStream
import RustyDendrite.AxonUtils.Worker
import RustyDendrite.AxonUtils.Lemmas.OutputStream
import RustyDendrite.AxonUtils.Lemmas.Worker
import RustyDendrite.AxonUtils.Lemmas.Progress
import RustyDendrite.AxonUtils.Lemmas.Pipeline
import RustyDendrite.AxonUtils.Lemmas.Registry
import RustyDendrite.AxonUtils.Lemmas.Sequence
import RustyDendrite.AxonUtils.Lemmas.Sequential
import RustyDendrite.AxonUtils.Lemmas.Shutdown
import RustyDendrite.AxonUtils.Lemmas.Completion
import RustyDendrite.AxonUtils.Lemmas.Writes
import RustyDendrite.AxonUtils.Theorems
