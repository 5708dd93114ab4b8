import Oxlab.Library.Serial
import Oxlab.Library.Run
import Oxlab.Library.Table
import Oxlab.Common.Media
import Oxlab.Bot.RtpPublisher
import Oxlab.LossAccounting
import Oxlab.Reordering
import Oxlab.Bot.RtcpParser
import Oxlab.Bot.Cap
import Oxlab.Bot.Subscribe
import Oxlab.FastPath
import Oxlab.Judge.Checkpoint
import Oxlab.Scenario.CheckpointEval
import Oxlab.GateRace
import Oxlab.Bot.Floor
import Oxlab.FloorDrain
import Oxlab.PttBursts
import Oxlab.FloorRace
import Oxlab.Common.Signaling
import Oxlab.SignalingCancel
import Oxlab.SignalingRequest
import Oxlab.Common.Rtcp
import Oxlab.MbcpCompound
import Oxlab.FloorBodies
import Oxlab.PliKeyframe
import Oxlab.SenderReports
import Oxlab.PacketRoundTrip
import Oxlab.Common.Stun
import Oxlab.StunRequest
import Oxlab.FanOut
import Oxlab.Bot.Events
import Oxlab.TracksReady
import Oxlab.Bot.Lifecycle
import Oxlab.Judge.Regression
import Oxlab.Scenario.Engine
import Oxlab.MediaTasks
import Oxlab.Scenario.Result
import Oxlab.ScriptErrors
import Oxlab.Scenario.Evaluate
import Oxlab.Scenario.Criteria
import Oxlab.Layer1Counts
import Oxlab.CategoryFilter
import Oxlab.HashOrder
import Oxlab.MoreBots
import Oxlab.Judge.Gate
import Oxlab.WorseRuns
import Oxlab.AcceptLoop
import Oxlab.BaselineStore
import Oxlab.EventOrder
import Oxlab.DelayedSends
import Oxlab.Scenario.NetFilters
import Oxlab.PristineGate
import Oxlab.BandwidthLimit
import Oxlab.Cli.Distributed
import Oxlab.WorkerShares
import Oxlab.JitterReordering
import Oxlab.Library.Positional
import Oxlab.SsrcAllocation
import Oxlab.VerdictJoin
import Oxlab.RtcpWalkers
import Oxlab.FirstMessage
import Oxlab.LayerSwitches
import Oxlab.SwitchTimestamps
import Oxlab.Library.SharedCounters
import Oxlab.Library.Rank
import Oxlab.Library.Census
import Oxlab.Bot.CapBots
import Oxlab.Cli.Capacity
import Oxlab.CapacityRun
import Oxlab.CapLatency
import Oxlab.MeasureWindow
import Oxlab.Cli.CapSetup
import Oxlab.ReadySync
import Oxlab.Bench.Media
import Oxlab.Bench.Conference
import Oxlab.ConferenceRun
import Oxlab.ConferenceReport
import Oxlab.ReceivePaths
import Oxlab.Bot.Publishing
import Oxlab.InjectedLoss
import Oxlab.Common.Connect
import Oxlab.Handshake
import Oxlab.Library.Pipe
import Oxlab.Common.MediaSetup
import Oxlab.DtlsDemux
import Oxlab.Cli.RunCommand
import Oxlab.TalkTurns
import Oxlab.RunControl
import Oxlab.Bot.PublishIntent
import Oxlab.StreamDiscovery
import Oxlab.StricterGate
import Oxlab.BaselineDrift
import Oxlab.FanOutReport
