import Sonic.Lib.Transition
import Sonic.Lib.Outcome
import Sonic.Lib.FieldMap
import Sonic.Lib.ObjectStore
import Sonic.Redis.Db
import Sonic.Redis.Lua
import Sonic.Common.Table
import Sonic.Common.ProducerStateTable
import Sonic.Lib.ChangeQueue
import Sonic.Common.ConsumerStateTable
import Sonic.Common.StateTable
import Sonic.Common.TableDump
import Sonic.Common.TableRead
import Sonic.Common.TempView
import Sonic.StateTable.Runs
import Sonic.StateTable.View
import Sonic.StateTable.ViewSwitch
import Sonic.Common.Select
import Sonic.StateTable.Wakeup
import Sonic.Lib.OrderedSet
import Sonic.Common.MultiSelect
import Sonic.Common.Tokenize
import Sonic.StateTable.Subscriber
import Sonic.WarmRestart.Assist
import Sonic.WarmRestart.Helper
import Sonic.Orchagent.Consumer
import Sonic.Lib.Numeral
import Sonic.Lib.Inet
import Sonic.Lib.Json
import Sonic.Sai.Number
import Sonic.Sai.Address
import Sonic.Sai.Enum
import Sonic.Sai.MetaKey
import Sonic.Sai.ListCodec
import Sonic.Sai.AttrValue
import Sonic.Sai.AttrRoundTrip
import Sonic.Sai.Transfer
import Sonic.Lib.Table
import Sonic.Lib.RefCount
import Sonic.Sai.Metadata
import Sonic.Sai.MetaDb
import Sonic.Sai.MetaValidation
import Sonic.Sai.MetaApi
import Sonic.Sai.MetaReferences
import Sonic.Sai.MetaCalls
import Sonic.Sai.MetaFailures
import Sonic.Sai.MetaRuns
import Sonic.Sai.MetaLists
import Sonic.Orchagent.IpPrefix
import Sonic.Orchagent.NextHop
import Sonic.Orchagent.RouteOrch
import Sonic.Orchagent.RouteRun
import Sonic.Orchagent.FailedGroups
import Sonic.Mibs.LldpRun
import Sonic.Orchagent.CrmRun
import Sonic.Orchagent.PolicerTasks
import Sonic.Orchagent.VlanTasks
import Sonic.Orchagent.AclFaithful
import Sonic.Orchagent.WatermarkRun
import Sonic.Orchagent.Observers
import Sonic.Orchagent.VrfReference
import Sonic.Syncd.Notifications
import Sonic.Syncd.FdbEvent
import Sonic.Syncd.ApplyView
import Sonic.Orchagent.AclRule
import Sonic.Orchagent.AclTask
import Sonic.Orchagent.AclSteps
import Sonic.Orchagent.AclRun
import Sonic.Orchagent.AclRanges
import Sonic.Orchagent.MirrorSessions
import Sonic.Orchagent.AclResources
import Sonic.Orchagent.AclTables
import Sonic.Orchagent.TaskLoop
import Sonic.Cfgmgr.SflowMgr
import Sonic.Lib.Countdown
import Sonic.Orchagent.PfcWdCounters
import Sonic.Orchagent.PfcWdDb
import Sonic.Orchagent.PfcScripts
import Sonic.Lib.Visit
import Sonic.Lib.DepthFirst
import Sonic.Orchagent.PfcWdHandlers
import Sonic.Orchagent.PfcWdOrch
import Sonic.Orchagent.PfcWdRun
import Sonic.Orchagent.PortsOrch
import Sonic.Orchagent.PortsRun
import Sonic.Orchagent.SubPorts
import Sonic.Orchagent.References
import Sonic.Orchagent.ReferencesExact
import Sonic.Lib.LastEntry
import Sonic.Orchagent.VNetObservers
import Sonic.Lib.Ownership
import Sonic.Orchagent.CoppOrch
import Sonic.Orchagent.CoppRun
import Sonic.Orchagent.VxlanOrch
import Sonic.Orchagent.VxlanRun
import Sonic.Orchagent.VxlanNextHops
import Sonic.Orchagent.VNetOrch
import Sonic.Orchagent.VNetRun
import Sonic.Lib.LexPrefix
import Sonic.Lib.StructPack
import Sonic.AgentX.Encodings
import Sonic.AgentX.Mib
import Sonic.AgentX.GetNext
import Sonic.AgentX.Pdu
import Sonic.AgentX.RoundTrip
import Sonic.AgentX.PduRoundTrip
import Sonic.AgentX.Consistency
import Sonic.AgentX.ValueRoundTrip
import Sonic.AgentX.Protocol
import Sonic.AgentX.Stream
import Sonic.Common.ConsumerTable
import Sonic.Syncd.BulkEvent
import Sonic.Common.OrderedQueue
import Sonic.Lib.Links
import Sonic.Orchagent.Sweep
import Sonic.Cfgmgr.VxlanMgr
import Sonic.Cfgmgr.VxlanDevices
import Sonic.Cfgmgr.VxlanConsistency
import Sonic.Cfgmgr.VxlanDaemon
import Sonic.Cfgmgr.VrfMgr
import Sonic.Cfgmgr.VrfHandshake
import Sonic.Redis.Glob
import Sonic.Common.ClearTable
import Sonic.Lib.PyText
import Sonic.Lib.LastWins
import Sonic.Swsssdk.ConfigDb
import Sonic.Swsssdk.Entry
import Sonic.Swsssdk.Tables
import Sonic.Swsssdk.ConfigRows
import Sonic.Swsssdk.ModConfig
import Sonic.AclLoader.Convert
import Sonic.AclLoader.Priorities
import Sonic.AclLoader.Update
import Sonic.AclLoader.Rows
import Sonic.AclLoader.Agreement
import Sonic.AclLoader.UpdatesAgree
import Sonic.Fpmsyncd.FpmLink
import Sonic.Fpmsyncd.Framing
import Sonic.Lib.TreeMap
import Sonic.Orchagent.SflowOrch
import Sonic.Orchagent.SflowRun
import Sonic.Orchagent.TunnelDecapOrch
import Sonic.Orchagent.TunnelDecapRun
import Sonic.Fpmsyncd.RouteSync
import Sonic.Orchagent.RequestGrammar
import Sonic.Orchagent.RequestParser
import Sonic.Orchagent.RequestRun
import Sonic.Lib.NetworkOrder
import Sonic.Orchagent.IpIntervals
import Sonic.Orchagent.RouteText
