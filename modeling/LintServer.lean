import LintServer.Config.Loader
import LintServer.Files.Tree
import LintServer.Lint.Engine.Replacement
import LintServer.Lint.Engine.Scripted
import LintServer.Lint.Engine.TrailingSpaces
import LintServer.Markdown.Engine
import LintServer.Server.QuickFix
import LintServer.Server.Session
import LintServer.Server.Wire.Outgoing
import LintServer.Main
import LintServer.Proofs.Config.Load
import LintServer.Proofs.Server.FixAll
import LintServer.Proofs.Server.QuickFix
import LintServer.Proofs.Server.Shown
import LintServer.Proofs.Server.Apart
import LintServer.Proofs.Server.FailOpen
import LintServer.Proofs.Server.Settings
import LintServer.Proofs.Server.QuickFixBatch
import LintServer.Proofs.Server.FixAllSurfaces
import LintServer.Proofs.Lint.BatchOrder
import LintServer.Proofs.Server.SpanRange
import LintServer.Proofs.Config.KeyPaths
import LintServer.Proofs.Server.RangeOrder
import LintServer.Proofs.Server.QuickFixTarget
import LintServer.Proofs.Server.WholeDocument
import LintServer.Proofs.Config.LayerLaws
import LintServer.Proofs.Lint.FixLoop
import LintServer.Proofs.Config.Nearest
import LintServer.Proofs.Lint.Splice
import LintServer.Proofs.Server.LineRanges
import LintServer.Proofs.Text.TwoLines
import LintServer.Proofs.Server.QuickFixOrder
import LintServer.Proofs.Server.QuickFixEndings
import LintServer.Proofs.Lint.Tidying
import LintServer.Proofs.Server.QuickFixTitle
