import PyFrp.Server.Ports
import PyFrp.Server.Tunnels
import PyFrp.Server.Departures
import PyFrp.Server.Pairing
import PyFrp.Server.Leaks
import PyFrp.Server.Replies
import PyFrp.Server.Tokens
import PyFrp.Client.Client
import PyFrp.Client.Routing
import PyFrp.Server.Deadlock
import PyFrp.Server.Preemption
import PyFrp.Server.Ownership
import PyFrp.Server.PublicPorts
import PyFrp.Supervisor.Supervisor
import PyFrp.Supervisor.Breaker
import PyFrp.Coding.PrefixCode
import PyFrp.Python.Stream
import PyFrp.Protocol.Frames
import PyFrp.Protocol.Relay
import PyFrp.Protocol.Copies
import PyFrp.Protocol.Pipe
import PyFrp.Protocol.Transparency
import PyFrp.Protocol.Messages
import PyFrp.Supervisor.Children
import PyFrp.Security.Fingerprint
import PyFrp.Supervisor.RestartLoop
import PyFrp.Coding.Base64
import PyFrp.Supervisor.Handoff
import PyFrp.Supervisor.Identity
import PyFrp.Supervisor.Continuity
import PyFrp.Client.Trust
import PyFrp.Server.Restored
import PyFrp.Supervisor.Restarts
import PyFrp.Client.Run
import PyFrp.Client.Pinning
import PyFrp.Config.Fields
import PyFrp.Config.Documents
import PyFrp.Config.Ini
import PyFrp.Config.Load
import PyFrp.Config.Failures
import PyFrp.Config.Verdicts
import PyFrp.Config.Readings
import PyFrp.Config.Modes
import PyFrp.Config.Spellings
import PyFrp.Security.Patterns
import PyFrp.Protocol.Decoder
import PyFrp.Server.Rollback
import PyFrp.Server.Shutdown
import PyFrp.Server.Closing
import PyFrp.Server.Restarting
import PyFrp.Python.Numerals
import PyFrp.Coding.Hosts
import PyFrp.Config.Addresses
import PyFrp.Coding.Occurrences
import PyFrp.Config.PortPool
import PyFrp.Python.Maximum
import PyFrp.Supervisor.Installed
import PyFrp.Coding.Windows
import PyFrp.Supervisor.Accounting
import PyFrp.Coop.Cancel
import PyFrp.Server.Cancellation
import PyFrp.Server.Handover
import PyFrp.Coop.Refinement
import PyFrp.Storage.Replace
import PyFrp.Supervisor.Course
import PyFrp.Supervisor.Files
import PyFrp.Supervisor.Exchange
import PyFrp.Supervisor.Origins
import PyFrp.Supervisor.Commands
import PyFrp.Supervisor.Replacement
import PyFrp.Client.Conversations
import PyFrp.Client.Resources
import PyFrp.Client.Dialogue
import PyFrp.Server.Greeting
import PyFrp.Session.Agreement
import PyFrp.Session.Echo
