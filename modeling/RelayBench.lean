import RelayBench.Exchange
import RelayBench.Main
import RelayBench.Polling
import RelayBench.Proofs.Action
import RelayBench.Proofs.Net.FaultQueue
import RelayBench.Proofs.Net.Link
import RelayBench.Proofs.Net.Sending
import RelayBench.Proofs.Net.Event
import RelayBench.Proofs.Net.Door
import RelayBench.Proofs.Net.Twin
import RelayBench.Proofs.Net.Candor
import RelayBench.Proofs.FanOut
import RelayBench.Proofs.FanOut.Account
import RelayBench.Proofs.Workload
import RelayBench.Proofs.Relay.Wait
import RelayBench.Proofs.Relay.Step
import RelayBench.Proofs.Relay.Turn
import RelayBench.Proofs.Relay.Dispatch
import RelayBench.Proofs.Relay.Binding
import RelayBench.Proofs.Relay.Run
import RelayBench.Proofs.Relay.Membership
import RelayBench.Proofs.Relay.Priority
import RelayBench.Proofs.Relay.Integrity
import RelayBench.Proofs.Relay.Delivery
import RelayBench.Proofs.Relay.Resilience
import RelayBench.Proofs.Relay.Counters
import RelayBench.Proofs.Relay.Isolation
import RelayBench.Proofs.Relay.Drain
import RelayBench.Proofs.Relay.Loop
import RelayBench.Proofs.Device.Attendance
import RelayBench.Proofs.Relay.Ending
import RelayBench.Proofs.Relay.Teardown
import RelayBench.Proofs.Relay.Heeding
import RelayBench.Proofs.Relay.Lasting
import RelayBench.Proofs.Relay.Request
import RelayBench.Proofs.Device.Parking
import RelayBench.Proofs.Device.Foreground
import RelayBench.Proofs.Device.Output
import RelayBench.Proofs.Device.Play
import RelayBench.Proofs.Device.Overlay
import RelayBench.Proofs.Device.Respond
import RelayBench.Proofs.Settings
import RelayBench.Proofs.Net.Opening
import RelayBench.Proofs.Listening
import RelayBench.Proofs.Relay.Progress
import RelayBench.Proofs.Polling
import RelayBench.Proofs.Relay.Overrides
import RelayBench.Proofs.Log.JsonReading
import RelayBench.Proofs.Log.JsonLine
import RelayBench.Proofs.Net.Reliance
import RelayBench.Proofs.Net.Holdings
import RelayBench.Proofs.Relay.Foreground
import RelayBench.Proofs.Device.Housing
import RelayBench.Proofs.CommandLine
