import LteModem.Lib.Strings
import LteModem.Lib.Prog
import LteModem.Lib.Machine
import LteModem.Lib.Latest
import LteModem.Lib.Keyed
import LteModem.Lib.Msgq
import LteModem.Lib.Bytes
import LteModem.Lib.Ring
import LteModem.Lib.Printer
import LteModem.Lib.Labels
import LteModem.Lib.Unfiltered
import LteModem.Lib.Connection
import LteModem.Lib.Mailbox
import LteModem.Lib.Monitor
import LteModem.Lib.Json
import LteModem.Lib.JsonText
import LteModem.Lib.Records
import LteModem.FixedString
import LteModem.FixedString.Buffer
import LteModem.AtCommand
import LteModem.ModemController
import LteModem.Controller.Chunking
import LteModem.Controller.UrcBuffer
import LteModem.Controller.Pairing
import LteModem.Lib.Layout
import LteModem.RadioLte.Messages
import LteModem.RadioLte.Channels
import LteModem.Hal.MessageChannel
import LteModem.RadioLte.Requests
import LteModem.RadioLte.Matching
import LteModem.Timer
import LteModem.Hal.Timers
import LteModem.Hal.TimerThread
import LteModem.Hal.EventFlags
import LteModem.MessageQueue
import LteModem.Hal.SocketQueue
import LteModem.Hal.ZephyrQueue
import LteModem.XE310.Commands
import LteModem.XE310.Replies
import LteModem.NetworkLte.State
import LteModem.NetworkLte.World
import LteModem.NetworkLte.Machine
import LteModem.NetworkLte.Api
import LteModem.NetworkLte.Frame
import LteModem.NetworkLte.StateTimer
import LteModem.NetworkLte.StaleTimeout
import LteModem.NetworkLte.Detached
import LteModem.NetworkLte.Sockets
import LteModem.NetworkLte.NoStall
import LteModem.NetworkLte.Subscriptions
import LteModem.NetworkLte.OffMode
import LteModem.NetworkLte.AttachBudget
import LteModem.NetworkLte.Requested
import LteModem.NetworkLte.Notifications
import LteModem.NetworkLte.ColdBoot
import LteModem.NetworkLte.Reboots
import LteModem.NetworkLte.PowerOn
import LteModem.NetworkLte.FreshFix
import LteModem.NetworkLte.ReadyInfo
import LteModem.NetworkLte.Transparent
import LteModem.NetworkLte.GnssPower
import LteModem.NetworkLte.Accounting
import LteModem.NetworkLte.Alike
import LteModem.NetworkLte.LateNmea
import LteModem.XE310.Reports
import LteModem.NetworkLte.Convergence
import LteModem.RadioLte.ServerIds
import LteModem.NetworkLte.Payloads
import LteModem.XE310.Datagrams
import LteModem.Controller.Trailing
import LteModem.Controller.ExchangePaths
import LteModem.XE310.Interleaved
import LteModem.XE310.WholeCommands
import LteModem.XE310.Queries
import LteModem.XE310.Operations
import LteModem.XE310.Outcomes
import LteModem.XE310.Leftovers
import LteModem.NetworkLte.ServerConnect
import LteModem.NetworkLte.AtOnce
import LteModem.NetworkLte.SendData
import LteModem.Controller.Splitter
import LteModem.NetworkLte.RegistrationLines
import LteModem.XE310.OperatorList
import LteModem.XE310.Contexts
import LteModem.XE310.Settings
import LteModem.XE310.Surveys
import LteModem.NetworkLte.Progress
import LteModem.NetworkLte.Trace
import LteModem.Blocking
import LteModem.NetworkLte.Deliveries
import LteModem.Ipc.Server
import LteModem.Rpc.Json
import LteModem.Rpc.Config
import LteModem.Rpc.Requests
import LteModem.Ipc.Servers
