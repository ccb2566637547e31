import SourceLens.Api.Service
import SourceLens.Function.File
import SourceLens.Language.Definition
import SourceLens.Main
import SourceLens.Proofs.Highlight.Markup
import SourceLens.Proofs.Highlight.Views
import SourceLens.Proofs.Language.Tokens
import SourceLens.Proofs.Scan.Visits
import SourceLens.Proofs.Json.Scalars
import SourceLens.Proofs.Json.RoundTrip
import SourceLens.Proofs.Files.Places
import SourceLens.Proofs.Json.Ascii
import SourceLens.Proofs.Text.Utf8
import SourceLens.Proofs.Files.Writing
import SourceLens.Proofs.Settings.Loading
import SourceLens.Proofs.Settings.Saving
import SourceLens.Proofs.Json.Fuel
import SourceLens.Proofs.Language.Names
import SourceLens.Proofs.Language.Comments
import SourceLens.Proofs.Scan.Lifecycle
import SourceLens.Proofs.Language.Literals
import SourceLens.Proofs.Scan.Polling
import SourceLens.Proofs.Language.Scoping
import SourceLens.Proofs.Function.Snippets
import SourceLens.Proofs.Language.ClosedLiterals
import SourceLens.Proofs.Language.PythonLiterals
import SourceLens.Proofs.Language.Words
import SourceLens.Proofs.Language.Identifiers
import SourceLens.Proofs.Function.Balance
import SourceLens.Proofs.Scan.CancelledResults
import SourceLens.Proofs.Function.Nesting
import SourceLens.Proofs.Function.MethodNames
import SourceLens.Proofs.Function.Tiling
import SourceLens.Proofs.Scan.Relocation
import SourceLens.Proofs.Language.OwnKeys
import SourceLens.Proofs.Highlight.Applying
import SourceLens.Proofs.Highlight.Terminal
import SourceLens.Proofs.Function.Closing
import SourceLens.Proofs.Highlight.Runs
import SourceLens.Proofs.Function.PublicNames
