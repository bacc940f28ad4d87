import McServerNap.Evidence
import McServerNap.Launches
import McServerNap.Shutdown
import McServerNap.Retention
import McServerNap.Coalescing
import McServerNap.IdleStop
import McServerNap.IdlePeriod
import McServerNap.NewCycle
import McServerNap.LastResort
import McServerNap.PhaseLimits
import McServerNap.Watchdog
import McServerNap.Panics
import McServerNap.Grammar
import McServerNap.RoundTrip
import McServerNap.Transparency
import McServerNap.ActivityLog
import McServerNap.FailureStreak
import McServerNap.RuntimeOutcome
import McServerNap.DaemonOutcome
import McServerNap.RconSession
import McServerNap.PlayerCountGrammar
import McServerNap.Varints
import McServerNap.CursorSafety
import McServerNap.Deadlines
import McServerNap.EndpointRules
import McServerNap.Interaction.Passage
import McServerNap.Secrets
import McServerNap.Exchange
import McServerNap.ClientPrograms
import McServerNap.ConnectionAlone
import McServerNap.ConnectionLimit
