import MavlinkHub.Library.Transition
import MavlinkHub.Library.Tally
import MavlinkHub.Library.KeyedLoop
import MavlinkHub.Library.Holdings
import MavlinkHub.Library.Register
import MavlinkHub.Library.Scan
import MavlinkHub.Library.Assignments
import MavlinkHub.Library.Fallible
import MavlinkHub.Library.Machine
import MavlinkHub.Library.SerialHistory
import MavlinkHub.Library.Monitor
import MavlinkHub.Library.AtomicObject
import MavlinkHub.Library.Lifetimes
import MavlinkHub.Library.Lineage
import MavlinkHub.Types
import MavlinkHub.AgentRegistry
import MavlinkHub.Sdk
import MavlinkHub.World
import MavlinkHub.Manager
import MavlinkHub.Plan
import MavlinkHub.Effects
import MavlinkHub.Run
import MavlinkHub.SampleSdk
import MavlinkHub.UserCount
import MavlinkHub.AgentRun
import MavlinkHub.Ledger
import MavlinkHub.Accounting
import MavlinkHub.EndpointUsers
import MavlinkHub.Ownership
import MavlinkHub.Locality
import MavlinkHub.AgentConfigs
import MavlinkHub.PlanExecution
import MavlinkHub.PlanPolicy
import MavlinkHub.PlanFrame
import MavlinkHub.PlanRerun
import MavlinkHub.AgentTwins
import MavlinkHub.EntryViews
import MavlinkHub.PlanOrder
import MavlinkHub.Json
import MavlinkHub.JsonUtils
import MavlinkHub.PlanDocuments
import MavlinkHub.OmittedFlags
import MavlinkHub.AppService
import MavlinkHub.CurrentPlan
import MavlinkHub.AppConfig
import MavlinkHub.LibLists
import MavlinkHub.Startup
import MavlinkHub.StartupProtocol
import MavlinkHub.ArgsParser
import MavlinkHub.Overview
import MavlinkHub.BulkQueries
import MavlinkHub.QueryAgreement
import MavlinkHub.PlanReports
import MavlinkHub.DefinedOutcomes
import MavlinkHub.StatusDecoding
import MavlinkHub.LibLoader
import MavlinkHub.PluginRegistration
import MavlinkHub.ConfiguredPlugins
import MavlinkHub.PluginOrder
import MavlinkHub.HubStartup
import MavlinkHub.ShutdownController
import MavlinkHub.SignalHandler
import MavlinkHub.SignalMask
import MavlinkHub.SignalLeftovers
import MavlinkHub.CliUiHandler
import MavlinkHub.CliUiController
import MavlinkHub.ResultPane
import MavlinkHub.ServiceCalls
import MavlinkHub.FailedLaunch
import MavlinkHub.ShutdownLatch
import MavlinkHub.SignalReach
import MavlinkHub.SignalStop
import MavlinkHub.Stopping
import MavlinkHub.ServedUi
import MavlinkHub.ElementarySteps
import MavlinkHub.ObjectLifetimes
import MavlinkHub.Teardown
import MavlinkHub.PluginLifetimes
import MavlinkHub.AppRun
import MavlinkHub.AppShutdown
import MavlinkHub.Library.FocusTree
import MavlinkHub.Ftxui
import MavlinkHub.UserInterface
import MavlinkHub.FocusNavigation
import MavlinkHub.PostedClosures
import MavlinkHub.BoxKeys
import MavlinkHub.KeyboardUse
