import Moshwatch.Coherence.Epochs
import Moshwatch.Coherence.Roaming
import Moshwatch.Core.Sanitized
import Moshwatch.Daemon.ConfigFile
import Moshwatch.Daemon.Delivery
import Moshwatch.Daemon.Frames
import Moshwatch.Daemon.Listing
import Moshwatch.Daemon.Received
import Moshwatch.Daemon.Streams
import Moshwatch.History.Futile
import Moshwatch.History.RoundTrip
import Moshwatch.Install.UserContent
import Moshwatch.Metrics.Confined
import Moshwatch.Metrics.Reordering
import Moshwatch.Metrics.Resets
import Moshwatch.Metrics.TokenRecovery
import Moshwatch.Metrics.Unambiguous
import Moshwatch.State.Closing
import Moshwatch.State.Counters
import Moshwatch.State.Cutoffs
import Moshwatch.State.Handoff
import Moshwatch.State.Peer
import Moshwatch.State.Settings
import Moshwatch.State.Silence
import Moshwatch.State.Unknown
import Moshwatch.Ui.EndToEnd
import Moshwatch.Ui.Health
