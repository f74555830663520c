import Literate.Proofs.ScannerRules
import Literate.Main
import Literate.CommandLine.Run
import Literate.Markdown
import Literate.Settings
import Literate.Toml.Reader
import Literate.Discovery
import Literate.FileTree
import Literate.Glob
import Literate.Block.Splitter
import Literate.Diagnostic
import Literate.Text.Punctuation
import Literate.Text.Width
import Literate.Proofs.LexerLossless
import Literate.Proofs.LexicalGrammar
import Literate.Proofs.BlockEvents
import Literate.Proofs.ProseTrimming
import Literate.Proofs.BlockGrouping
import Literate.Proofs.BlockPartition
import Literate.Proofs.SplitterRuns
import Literate.Proofs.BlockGrowth
import Literate.Proofs.FormatAgreement
import Literate.Proofs.TrimAgreement
import Literate.Proofs.FencePlacement
import Literate.Proofs.FailedRuns
import Literate.Proofs.OutputCollisions
import Literate.Proofs.InputSafety
import Literate.Proofs.LineEndings
import Literate.Proofs.DefaultCommand
import Literate.Proofs.RepeatedRuns
import Literate.Proofs.FaultLocations
import Literate.Proofs.TriviaAttachment
import Literate.Proofs.LexerRestart
import Literate.Proofs.SelectedFiles
import Literate.Proofs.MalformedComments
import Literate.Proofs.TrimmedProse
import Literate.Proofs.FenceClosing
import Literate.Proofs.CodeAfterProse
import Literate.Proofs.LineDecomposition
import Literate.Proofs.Margins
import Literate.Proofs.HeadingTitles
