import ComponentScan.Context.Json
import ComponentScan.Files.Tree
import ComponentScan.Main
import ComponentScan.Proofs.Engine.Atomicity
import ComponentScan.Proofs.Engine.Runs
import ComponentScan.Proofs.Contributor.Findings
import ComponentScan.Proofs.Contributor.Calls
import ComponentScan.Proofs.Descriptor.Identity
import ComponentScan.Proofs.Text.Replacing
import ComponentScan.Proofs.Rule.Anchors
import ComponentScan.Proofs.Extraction.Deduplication
import ComponentScan.Proofs.Absorption.Accounting
import ComponentScan.Proofs.Engine.Passes
import ComponentScan.Proofs.Engine.Expansions
import ComponentScan.Proofs.Absorption.Unsupplied
import ComponentScan.Proofs.Scan.Request
import ComponentScan.Proofs.Scan.Conservation
import ComponentScan.Proofs.Absorption.Order
import ComponentScan.Proofs.Engine.Order
import ComponentScan.Proofs.Scan.Order
import ComponentScan.Proofs.Rule.OwnFiles
import ComponentScan.Proofs.Engine.Purging
import ComponentScan.Proofs.Rule.Directories
import ComponentScan.Proofs.Config.Limits
import ComponentScan.Proofs.Config.Loading
import ComponentScan.Proofs.Anchor.Repetitions
import ComponentScan.Proofs.Extraction.Repetition
import ComponentScan.Proofs.Glob.Entries
import ComponentScan.Proofs.Suffix.Expression
import ComponentScan.Proofs.Suffix.Meaning
import ComponentScan.Proofs.Absorption.Balance
import ComponentScan.Proofs.Absorption.MatchOrder
import ComponentScan.Proofs.Absorption.LiteralIncludes
import ComponentScan.Proofs.Glob.Compiling
import ComponentScan.Proofs.Rule.Templates
import ComponentScan.Proofs.Anchor.Roots
import ComponentScan.Proofs.Anchor.RootSpellings
import ComponentScan.Proofs.Rule.Placeholders
import ComponentScan.Proofs.Absorption.Assets
import ComponentScan.Proofs.Rule.Loaded
import ComponentScan.Proofs.Config.RoundTrip
import ComponentScan.Proofs.Path.Canonical
