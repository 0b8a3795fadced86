import CloudOps.Cost.AnomaliesCurrent
import CloudOps.Cost.CostBillingSync
import CloudOps.Cost.BudgetPace
import CloudOps.Cost.CommitmentUse
import CloudOps.Cost.CostAllocation
import CloudOps.Cost.CostDashboard
import CloudOps.Cost.MonitorVerdict
import CloudOps.Cost.MonthEnd
import CloudOps.Cost.MonthlyRuns
import CloudOps.Cost.OneTicketPerResource
import CloudOps.Cost.ReportExport
import CloudOps.Cost.ReportMails
import CloudOps.Cost.SavingsSweep
import CloudOps.Cost.SweepIsolation
import CloudOps.DailySeries
import CloudOps.EventBus.Batch
import CloudOps.EventBus.Redelivery
import CloudOps.Monitoring.AgentMonitor
import CloudOps.Monitoring.AlertRulesWellFormed
import CloudOps.Monitoring.AlertTicket
import CloudOps.Monitoring.Debounce
import CloudOps.Monitoring.DiskForecast
import CloudOps.Monitoring.EscalationOnce
import CloudOps.Monitoring.LocationQuorum
import CloudOps.Monitoring.LogAlertSweep
import CloudOps.Monitoring.MetricResolution
import CloudOps.Monitoring.NetworkPoller
import CloudOps.Monitoring.ProbeLocations
import CloudOps.Monitoring.SpanTrees
import CloudOps.Monitoring.StaleAgents
import CloudOps.Notifications.SentOnce
import CloudOps.Platform.Guards
import CloudOps.Platform.Mfa
import CloudOps.Platform.PasswordReset
import CloudOps.Platform.SessionRevocation
import CloudOps.Platform.SettingsScope
import CloudOps.Platform.TotpWindow
import CloudOps.RateLimits
import CloudOps.SignedTokens
import CloudOps.SweepNotices
import CloudOps.Ticketing.AiRankings
import CloudOps.Ticketing.ChatHandoff
import CloudOps.Ticketing.ChatPolling
import CloudOps.Ticketing.CustomFields
import CloudOps.Ticketing.DashboardService
import CloudOps.Ticketing.DueDates
import CloudOps.Ticketing.FirstResponse
import CloudOps.Ticketing.ImportOnce
import CloudOps.Ticketing.KbMining
import CloudOps.Ticketing.LinkViews
import CloudOps.Ticketing.LocalMinutes
import CloudOps.Ticketing.MailThreading
import CloudOps.Ticketing.MergeConserves
import CloudOps.Ticketing.MergePointers
import CloudOps.Ticketing.OneContact
import CloudOps.Ticketing.OverdueAttempts
import CloudOps.Ticketing.OverdueOnce
import CloudOps.Ticketing.ReplyThreading
import CloudOps.Ticketing.ReportAllowlist
import CloudOps.Ticketing.ResolutionMet
import CloudOps.Ticketing.ResolvedAt
import CloudOps.Ticketing.RoundRobin
import CloudOps.Ticketing.RuleRows
import CloudOps.Ticketing.SavedRules
import CloudOps.Ticketing.SlaFollowsType
import CloudOps.Ticketing.TicketTags
import CloudOps.Ticketing.TimeAutomationOnce
import CloudOps.Ticketing.TimelineReplays
import CloudOps.Ticketing.TriageConfined
import CloudOps.Ticketing.TriageTags
import CloudOps.Ticketing.WorkloadCap
import CloudOps.Monitoring.IngestKeys
import CloudOps.Platform.SsoService
import CloudOps.Platform.Access
import CloudOps.Platform.LiveKeys
import CloudOps.Platform.SsoUsers
import CloudOps.Js.PosixPath
import CloudOps.Ticketing.ObjectStorage
import CloudOps.Ticketing.AttachmentsService
import CloudOps.Ai.AskService
import CloudOps.Ai.AskConfined
import CloudOps.Platform.TenantIsolation
