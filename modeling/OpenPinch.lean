import OpenPinch.Lib.SortedMap
import OpenPinch.Common.Policy
import OpenPinch.Common.Hardening
import OpenPinch.Externals
import OpenPinch.Common.Crypto
import OpenPinch.Engine.Encryption
import OpenPinch.Engine.Protocol
import OpenPinch.Lib.Disk
import OpenPinch.Common.Skill
import OpenPinch.Lib.Op
import OpenPinch.Engine.World
import OpenPinch.Engine.Text
import OpenPinch.Lib.Like
import OpenPinch.Engine.StateStore
import OpenPinch.Engine.BrainTables
import OpenPinch.Engine.BrainManager
import OpenPinch.Engine.Orchestrator
import OpenPinch.Engine.Runtime
import OpenPinch.Lib.Wp
import OpenPinch.Engine.Rules
import OpenPinch.Engine.StoreRules
import OpenPinch.Engine.BrainRules
import OpenPinch.Engine.LockDiscipline
import OpenPinch.Engine.RuntimeRules
import OpenPinch.Engine.Calls
import OpenPinch.Engine.Pairing
import OpenPinch.Lib.Pool
import OpenPinch.Engine.PairingRace
import OpenPinch.Engine.Generation
import OpenPinch.Common.JsonText
import OpenPinch.Engine.ReplyCache
import OpenPinch.Engine.Exchanges
import OpenPinch.Engine.Sessions
import OpenPinch.Engine.SessionCalls
import OpenPinch.Engine.SessionRace
import OpenPinch.Tools.Authorization
import OpenPinch.Engine.Queue
import OpenPinch.Lib.Threads
import OpenPinch.Engine.QueueRules
import OpenPinch.Lib.Admission
import OpenPinch.Engine.QueueDepth
import OpenPinch.Engine.QueueWorker
import OpenPinch.Engine.QueueRows
import OpenPinch.Engine.BrainCode
import OpenPinch.Engine.BrainIndex
import OpenPinch.Engine.BrainForget
import OpenPinch.Engine.PrefixKey
import OpenPinch.Gateway.Telegram
import OpenPinch.Lib.Ack
import OpenPinch.Gateway.Polling
import OpenPinch.Gateway.EventHub
import OpenPinch.Gateway.Scheduler
import OpenPinch.Engine.Routes
import OpenPinch.Engine.StoreFailures
import OpenPinch.Engine.RecallScope
import OpenPinch.Engine.BrainPayload
import OpenPinch.Engine.BrainForgotten
import OpenPinch.Engine.BrainWrites
import OpenPinch.Engine.BrainScopes
import OpenPinch.Engine.PrefixLookup
import OpenPinch.Engine.Speculation
import OpenPinch.Engine.BrainRuns
import OpenPinch.Engine.RelationKeys
import OpenPinch.Engine.Retention
import OpenPinch.Engine.RecallResults
import OpenPinch.Engine.RecallCut
import OpenPinch.Engine.Suggestions
import OpenPinch.Engine.TaskUpdate
import OpenPinch.Engine.TaskMerge
import OpenPinch.Engine.BrainClock
import OpenPinch.Engine.BrainKeys
import OpenPinch.Engine.NotedTasks
import OpenPinch.Engine.Redelivery
import OpenPinch.Engine.Listings
import OpenPinch.Engine.Resolutions
import OpenPinch.Engine.PendingFlags
import OpenPinch.Engine.Cutoffs
import OpenPinch.Tools.PolicyReport
import OpenPinch.Tools.SkillRoutes
import OpenPinch.Lib.FileFrames
import OpenPinch.Lib.DiskRules
import OpenPinch.Lib.DiskRuns
import OpenPinch.Common.SkillFrames
import OpenPinch.Tools.Installs
import OpenPinch.Tools.FailedInstalls
import OpenPinch.Tools.SkillOrder
import OpenPinch.Lib.Words
import OpenPinch.Engine.Similarity
import OpenPinch.Lib.StableQueue
import OpenPinch.Engine.QueueOrder
import OpenPinch.Lib.Rfc3339
import OpenPinch.Engine.Timestamps
import OpenPinch.Lib.Lines
import OpenPinch.Gateway.TailLogs
import OpenPinch.Cli.DesktopRecords
import OpenPinch.Cli.ShowLogs
import OpenPinch.Lib.Toml
import OpenPinch.Common.Config
import OpenPinch.Common.LoadOrInit
import OpenPinch.Common.Parse
import OpenPinch.Common.ConfigEdits
import OpenPinch.Common.NewConnectors
import OpenPinch.Gateway.Config
import OpenPinch.Engine.Outbound
import OpenPinch.Gateway.Sends
import OpenPinch.Lib.Utf8
import OpenPinch.Engine.Extractions
import OpenPinch.Engine.ContextPack
import OpenPinch.Lib.History
import OpenPinch.Lib.Account
import OpenPinch.Lib.Alone
import OpenPinch.Engine.Api
import OpenPinch.Engine.BrainStatements
import OpenPinch.Engine.Evolution
import OpenPinch.Engine.Integrity
import OpenPinch.Engine.Accounts
import OpenPinch.Lib.Proto
import OpenPinch.Gateway.Schema
import OpenPinch.Gateway.Bridge
import OpenPinch.Gateway.Handlers
import OpenPinch.Gateway.Relay
import OpenPinch.Lib.Trap
import OpenPinch.Engine.Deadlock
import OpenPinch.Lib.Weights
import OpenPinch.Engine.QueueBalance
import OpenPinch.Lib.Http
import OpenPinch.Sandbox.Backends
import OpenPinch.Sandbox.Conversation
