import WistAgentd.Control.AppliedUplink
import WistAgentd.Control.WorkIds
import WistAgentd.Discovery.ProbeHealth
import WistAgentd.Discovery.SearchPolicy
import WistAgentd.Discovery.SnapshotCache
import WistAgentd.Exec.NoOrphan
import WistAgentd.Exec.StreamCapture
import WistAgentd.Exec.Vanishing
import WistAgentd.Investigate.DiskRanking
import WistAgentd.Investigate.Safety
import WistAgentd.Runtime.CatchupBudget
import WistAgentd.Runtime.CommandOnce
import WistAgentd.Runtime.LaunchDiscipline
import WistAgentd.Runtime.LocalCommand
import WistAgentd.Runtime.ResultReports
import WistAgentd.Runtime.StatusDelivery
import WistAgentd.Runtime.TerminalQuiescence
import WistAgentd.Telemetry.CleanStall
import WistAgentd.Telemetry.CsvAlignment
import WistAgentd.Telemetry.Files.AtLeastOnce
import WistAgentd.Telemetry.Files.FamilyPruning
import WistAgentd.Telemetry.Files.Rotation
import WistAgentd.Telemetry.Files.SpoolBound
import WistAgentd.Upgrade.Readiness
