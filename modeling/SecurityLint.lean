import SecurityLint.Fingerprint
import SecurityLint.Scanner
import SecurityLint.Tree.Builder
import SecurityLint.Proofs.Linking
import SecurityLint.Proofs.DepthFirst
import SecurityLint.Proofs.Ascent
import SecurityLint.Proofs.Flaws
import SecurityLint.Proofs.Building
import SecurityLint.Proofs.BottomUp
import SecurityLint.Proofs.RenderedTexts
import SecurityLint.Proofs.ScopeMemo
import SecurityLint.Proofs.DocumentOrder
import SecurityLint.Proofs.EngineScan
import SecurityLint.Proofs.JsonText
import SecurityLint.Proofs.Records
import SecurityLint.Proofs.TreeJson
import SecurityLint.Proofs.StoredFindings
import SecurityLint.Proofs.SortedEntries
import SecurityLint.Proofs.Verdicts
import SecurityLint.Proofs.JoinedVerdicts
import SecurityLint.Proofs.LenientPolicies
import SecurityLint.Proofs.PrunedValues
import SecurityLint.Proofs.PartialConfigs
import SecurityLint.Proofs.Reports
import SecurityLint.Proofs.Counterparts
import SecurityLint.Proofs.Rule.MassAssignment
import SecurityLint.Proofs.Rule.PlaintextSecret
import SecurityLint.Proofs.Rule.UnsafeMarkup
import SecurityLint.Proofs.Rule.InsecureRecovery
import SecurityLint.Proofs.ScannerRules
import SecurityLint.Proofs.Lookups
import SecurityLint.Proofs.ScanSafety
import SecurityLint.Proofs.UniformScan
import SecurityLint.Proofs.Subscriptions
import SecurityLint.Proofs.Renumbering
import SecurityLint.Proofs.Relabelling
import SecurityLint.Proofs.Placement
import SecurityLint.Proofs.JoinedFiles
import SecurityLint.Proofs.DisabledRules
import SecurityLint.Proofs.ChangedSections
import SecurityLint.Proofs.MarkupChecks
import SecurityLint.Proofs.UnknownRules
import SecurityLint.Proofs.RuleCores
import SecurityLint.Proofs.LossyTexts
import SecurityLint.Proofs.Paths
import SecurityLint.Proofs.Identity
import SecurityLint.Proofs.DistinctReports
import SecurityLint.Proofs.ArraySecrets
import SecurityLint.Proofs.SanitizedTexts
import SecurityLint.Proofs.RecoveryReports
import SecurityLint.Proofs.BetweenBlanks
import SecurityLint.Proofs.LoweredTexts
import SecurityLint.Proofs.OwnSpelling
import SecurityLint.Proofs.EmbeddedMatches
import SecurityLint.Proofs.WordsApart
import SecurityLint.Proofs.SecureMembers
import SecurityLint.Proofs.WordGaps
import SecurityLint.Proofs.StringValues
