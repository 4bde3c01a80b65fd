import IotMonitoring.Shared.ByteStrings
import IotMonitoring.Shared.Binary64
import IotMonitoring.Shared.CircularTables
import IotMonitoring.Shared.SlotTables
import IotMonitoring.Shared.LockedPrograms
import IotMonitoring.Shared.Runs
import IotMonitoring.Shared.AtomicObjects
import IotMonitoring.Shared.Mutexes
import IotMonitoring.Server.State
import IotMonitoring.Server.Utils
import IotMonitoring.Server.Alerts
import IotMonitoring.Server.SensorHandler
import IotMonitoring.Server.Calls
import IotMonitoring.Server.BoundedHistories
import IotMonitoring.Server.Interleaving
import IotMonitoring.Server.Reachable
import IotMonitoring.Server.Attribution
import IotMonitoring.Server.AlertHistory
import IotMonitoring.Server.AlertLevels
import IotMonitoring.Server.Identity
import IotMonitoring.Server.Sessions
import IotMonitoring.Server.Clients
import IotMonitoring.Server.Fleets
import IotMonitoring.Server.Processes
import IotMonitoring.Server.Refinement
import IotMonitoring.Server.Linearization
import IotMonitoring.Server.CriticalSections
import IotMonitoring.Server.AccessLevel
import IotMonitoring.Server.ExecutedLines
import IotMonitoring.Server.Replies
import IotMonitoring.Server.ReplyTexts
import IotMonitoring.Server.QuitRaces
import IotMonitoring.Server.Frames
import IotMonitoring.Server.TableShape
import IotMonitoring.Server.AcceptedMetrics
import IotMonitoring.Server.SafeBand
import IotMonitoring.Server.RegisteredTypes
import IotMonitoring.Server.Isolation
import IotMonitoring.Server.HttpServer
import IotMonitoring.Server.LineRuns
import IotMonitoring.Server.AlertsPage
import IotMonitoring.Shared.Rounding
import IotMonitoring.Client.SensorClient
import IotMonitoring.Client.Payloads
import IotMonitoring.Client.WireNumbers
import IotMonitoring.Client.Readings
import IotMonitoring.Client.Names
import IotMonitoring.Auth.AuthClient
import IotMonitoring.Auth.AuthServer
import IotMonitoring.Auth.Agreement
import IotMonitoring.Server.MetricsPage
import IotMonitoring.Server.HistoryPages
import IotMonitoring.Server.SensorsPage
import IotMonitoring.Server.Dashboard
import IotMonitoring.Server.Populations
import IotMonitoring.Server.HttpRequests
import IotMonitoring.Server.HttpResponses
import IotMonitoring.Server.AuthTraffic
import IotMonitoring.Server.LoginNames
import IotMonitoring.Shared.JsonTexts
import IotMonitoring.Shared.HttpMessages
import IotMonitoring.Auth.AuthFailures
import IotMonitoring.Server.Grammar
import IotMonitoring.Server.AuditLog
import IotMonitoring.Server.LogFile
import IotMonitoring.Shared.Markup
import IotMonitoring.Server.PageTexts
import IotMonitoring.Server.FaithfulPages
import IotMonitoring.Shared.Pieces
import IotMonitoring.Server.ReceivedPieces
import IotMonitoring.Client.MessageLimits
import IotMonitoring.Client.RecordedSessions
import IotMonitoring.Server.FormLogins
import IotMonitoring.Server.CommandLines
