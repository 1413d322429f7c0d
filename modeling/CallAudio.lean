import CallAudio.Config.Document
import CallAudio.Bench.Scenario
import CallAudio.Bench.Delayed
import CallAudio.Transition.Run
import CallAudio.Proofs.Transition.Outcomes
import CallAudio.Proofs.AudioEvents
import CallAudio.Proofs.RouteActive
import CallAudio.Proofs.StaleFailure
import CallAudio.Proofs.Pauses
import CallAudio.Proofs.Undisturbed
import CallAudio.Proofs.Deeds
import CallAudio.Proofs.HeldTimers
import CallAudio.Proofs.Deadline
import CallAudio.Proofs.Services
import CallAudio.Proofs.Operations
import CallAudio.Proofs.Automaton
import CallAudio.Proofs.Moments
import CallAudio.Proofs.CancelledRetry
import CallAudio.Proofs.Devices
import CallAudio.Proofs.LiveDevice
import CallAudio.Proofs.ActivePresence
import CallAudio.Proofs.CommunicationDevice
import CallAudio.Proofs.BegunTransition
import CallAudio.Proofs.SwitchRetry
import CallAudio.Proofs.Transition.Tokens
import CallAudio.Proofs.Transition.Coverage
import CallAudio.Proofs.Transition.Deactivation
import CallAudio.Proofs.Signals
import CallAudio.Proofs.AwaitedSignals
import CallAudio.Proofs.ForeignFailure
import CallAudio.Proofs.LostOrigin
import CallAudio.Proofs.TornDown
import CallAudio.Proofs.RefusedDevice
import CallAudio.Proofs.ReportedTeardown
import CallAudio.Proofs.RetryBudget
import CallAudio.Proofs.DetachedService
import CallAudio.Proofs.StaleLoss
import CallAudio.Proofs.StaleTimeout
import CallAudio.Proofs.ConnectionDeadline
import CallAudio.Proofs.Arrivals
import CallAudio.Proofs.Renaming.Runs
import CallAudio.Proofs.ConnectTarget
import CallAudio.Proofs.ConnectedListing
import CallAudio.Proofs.ReaffirmedConnect
import CallAudio.Proofs.FailedConnect
import CallAudio.Proofs.UniqueListing
import CallAudio.Proofs.RecentlyUsed
import CallAudio.Proofs.Delayed.Delivery
import CallAudio.Proofs.SpeakerSignals
import CallAudio.Proofs.Address.Texts
import CallAudio.Proofs.Backoff
import CallAudio.Proofs.Settings
import CallAudio.Proofs.LatestEntries
