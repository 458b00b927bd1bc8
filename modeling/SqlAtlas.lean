import SqlAtlas.Command
import SqlAtlas.Config
import SqlAtlas.Gate
import SqlAtlas.Json.Encode
import SqlAtlas.Log.Report
import SqlAtlas.Main
import SqlAtlas.NativeType.Reader
import SqlAtlas.Proofs.Command.Disclosure
import SqlAtlas.Proofs.Command.Trace
import SqlAtlas.Proofs.Gate.Effectiveness
import SqlAtlas.Proofs.Gate.Restyling
import SqlAtlas.Proofs.NativeType.Compatible
import SqlAtlas.Proofs.NativeType.Grammar
import SqlAtlas.Proofs.NativeType.Sound
import SqlAtlas.Proofs.Overrides.Entries
import SqlAtlas.Proofs.SqlName.Safe
import SqlAtlas.Proofs.Text.Splitting
import SqlAtlas.Proofs.TypeMap.Acceptance
import SqlAtlas.Proofs.TypeMap.Attributes
import SqlAtlas.Proofs.TypeMap.Consistency
import SqlAtlas.Proofs.TypeMap.Introspection
import SqlAtlas.Proofs.TypeMap.Invariants
import SqlAtlas.Proofs.TypeMap.Notation
import SqlAtlas.Proofs.TypeMap.Pinned
import SqlAtlas.Proofs.TypeMap.Pinning
import SqlAtlas.Proofs.TypeMap.Restyling
import SqlAtlas.Proofs.TypeMap.Splicing
import SqlAtlas.Proofs.TypeMap.Towers
import SqlAtlas.Proofs.TypeMap.Widths
import SqlAtlas.Toml.Reader
import SqlAtlas.TypeMap.Resolve
import SqlAtlas.TypeMap.Reverse
