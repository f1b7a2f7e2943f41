import AsyncActions.Finding.Value
import AsyncActions.Main
import AsyncActions.Proofs.DocumentOrder
import AsyncActions.Proofs.Splice
import AsyncActions.Proofs.SplicedSource
import AsyncActions.Proofs.Reporting
import AsyncActions.Proofs.Flagging
import AsyncActions.Proofs.InsertionPoints
import AsyncActions.Proofs.MendedTree
import AsyncActions.Proofs.MendedFunctions
import AsyncActions.Proofs.MendedShape
import AsyncActions.Proofs.PartialFix
import AsyncActions.Proofs.StringValue
import AsyncActions.Proofs.FoundSources
import AsyncActions.Proofs.JoinedSources
import AsyncActions.Proofs.DirectPaths
import AsyncActions.Proofs.CollectedFiles
import AsyncActions.Proofs.BalancedMarkup
import AsyncActions.Proofs.UnbrokenReport
import AsyncActions.Proofs.RewrittenFiles
import AsyncActions.Proofs.CommandEffects
import AsyncActions.Proofs.EncodedText
import AsyncActions.Proofs.FindingOrder
import AsyncActions.Proofs.FixesInTurn
import AsyncActions.Proofs.PastEnd
import AsyncActions.Proofs.TextEdits
import AsyncActions.Proofs.DirectiveSpelling
import AsyncActions.Proofs.WrittenLiterals
import AsyncActions.Proofs.RulesInTurn
import AsyncActions.Proofs.DirectoryFiles
import AsyncActions.Proofs.SeparateRuns
import AsyncActions.Proofs.DirectoryRuns
import AsyncActions.Proofs.ReadParts
import AsyncActions.Proofs.SeverityHistory
import AsyncActions.Proofs.FailSafe
import AsyncActions.Proofs.LoadedSources
import AsyncActions.Proofs.BrokenListings
import AsyncActions.Proofs.AsyncPositions
import AsyncActions.Proofs.FullReport
import AsyncActions.Proofs.VerbatimReport
import AsyncActions.Proofs.RuleSelection
import AsyncActions.Proofs.EscapeBoundaries
import AsyncActions.Proofs.TreeWalks
