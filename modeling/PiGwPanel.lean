import PiGwPanel.ActiveNodeRuns
import PiGwPanel.BackupRotation
import PiGwPanel.CredentialEpochs
import PiGwPanel.DataUsed
import PiGwPanel.DeviceCounters
import PiGwPanel.DnsmasqSupervisor
import PiGwPanel.EmergencyDeny
import PiGwPanel.FailedApply
import PiGwPanel.FailoverPacing
import PiGwPanel.FeedFetch
import PiGwPanel.FeedShrink
import PiGwPanel.GeoData
import PiGwPanel.HealthRows
import PiGwPanel.JournalledSets
import PiGwPanel.LinkDeletions
import PiGwPanel.LogTail
import PiGwPanel.LoginThrottle
import PiGwPanel.NestedTransactions
import PiGwPanel.OutputScrubbing
import PiGwPanel.PrefixWatcher
import PiGwPanel.ProbeProvenance
import PiGwPanel.RemoteAccessArtifacts
import PiGwPanel.RevocationRuns
import PiGwPanel.RollbackProvenance
import PiGwPanel.RuleChecks
import PiGwPanel.SubScheduler
import PiGwPanel.SweepBackoff
import PiGwPanel.WatchdogPacing
