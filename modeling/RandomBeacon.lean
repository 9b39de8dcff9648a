import RandomBeacon.Client.World
import RandomBeacon.Demo.Program
import RandomBeacon.LogFilter
import RandomBeacon.Main
import RandomBeacon.Proofs.Broadcast
import RandomBeacon.Proofs.Closing
import RandomBeacon.Proofs.Actions
import RandomBeacon.Proofs.Budgeted
import RandomBeacon.Proofs.Client.Attempt
import RandomBeacon.Proofs.Guard
import RandomBeacon.Proofs.Lifecycle
import RandomBeacon.Scenario.Client
import RandomBeacon.Scenario.Ledger
import RandomBeacon.Scenario.Race
import RandomBeacon.Scenario.Reconnect
import RandomBeacon.Scenario.Registry
import RandomBeacon.Wire.Config
import RandomBeacon.Wire.Message
import RandomBeacon.Proofs.Attempts
import RandomBeacon.Proofs.Replies
import RandomBeacon.Proofs.ReconnectionBudget
import RandomBeacon.Proofs.Client.Changes
import RandomBeacon.Proofs.Client.Veil
import RandomBeacon.Proofs.History
import RandomBeacon.Proofs.Client.Mute
import RandomBeacon.Proofs.Isolation
import RandomBeacon.Proofs.Wire.RoundTrip
import RandomBeacon.Proofs.DispatchPath
import RandomBeacon.Proofs.Registry.Emission
import RandomBeacon.Proofs.Opening
import RandomBeacon.Proofs.Receipts
import RandomBeacon.Proofs.Clock
import RandomBeacon.Proofs.Reconnection.Reference
import RandomBeacon.Proofs.Reconnection.Cancellation
import RandomBeacon.Proofs.Exchanges
import RandomBeacon.Proofs.Deadlines
import RandomBeacon.Proofs.Inquiries
import RandomBeacon.Proofs.Breakdowns
import RandomBeacon.Proofs.Entries
import RandomBeacon.Proofs.Trips
import RandomBeacon.Proofs.Lookups
import RandomBeacon.Proofs.Detachment
import RandomBeacon.Proofs.Metering
import RandomBeacon.Proofs.Client.Invocations
import RandomBeacon.Proofs.Backoff
import RandomBeacon.Proofs.Resolution
import RandomBeacon.Proofs.Readiness
import RandomBeacon.Proofs.Demo.Reported
import RandomBeacon.Proofs.Stamps
import RandomBeacon.Proofs.Names
import RandomBeacon.Proofs.Bureau
