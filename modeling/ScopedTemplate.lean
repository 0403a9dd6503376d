import ScopedTemplate.Cache
import ScopedTemplate.Config
import ScopedTemplate.Config.Fault
import ScopedTemplate.Config.Field
import ScopedTemplate.Config.Files
import ScopedTemplate.Config.Setting
import ScopedTemplate.Config.Source
import ScopedTemplate.Dependency
import ScopedTemplate.Environment
import ScopedTemplate.Environment.Access
import ScopedTemplate.Failure
import ScopedTemplate.Graph
import ScopedTemplate.Markdown
import ScopedTemplate.Number.Binary64
import ScopedTemplate.Number.Literal
import ScopedTemplate.Number.Numeral
import ScopedTemplate.Number.Shortest
import ScopedTemplate.Outcome
import ScopedTemplate.Proofs.Cache.Order
import ScopedTemplate.Proofs.Evaluation.Computation
import ScopedTemplate.Proofs.Evaluation.Domain
import ScopedTemplate.Proofs.Evaluation.Lookup
import ScopedTemplate.Proofs.Evaluation.Meaning
import ScopedTemplate.Proofs.Evaluation.Outcome
import ScopedTemplate.Proofs.Evaluation.Reduction
import ScopedTemplate.Proofs.Resolver.Calls
import ScopedTemplate.Proofs.Resolver.Detection
import ScopedTemplate.Proofs.Resolver.Fresh
import ScopedTemplate.Proofs.Resolver.Nodes
import ScopedTemplate.Proofs.Resolver.NormalForm
import ScopedTemplate.Proofs.Resolver.Refinement
import ScopedTemplate.Proofs.Resolver.Rewriting
import ScopedTemplate.Proofs.Resolver.Selection
import ScopedTemplate.Proofs.Resolver.Settled
import ScopedTemplate.Proofs.Resolver.SingleEvaluation
import ScopedTemplate.Proofs.Run.After
import ScopedTemplate.Proofs.Run.Custody
import ScopedTemplate.Proofs.Run.Memo
import ScopedTemplate.Proofs.Run.Quiet
import ScopedTemplate.Proofs.Sharing.Answers
import ScopedTemplate.Proofs.Sharing.Flatten
import ScopedTemplate.Proofs.Sharing.Ordinary
import ScopedTemplate.Proofs.Term.Access
import ScopedTemplate.Proofs.Term.Normal
import ScopedTemplate.Proofs.Term.Outline
import ScopedTemplate.Proofs.Term.Sorted
import ScopedTemplate.Proofs.Term.Within
import ScopedTemplate.Resolver.Body
import ScopedTemplate.Resolver.Lookup
import ScopedTemplate.Resolver.Member
import ScopedTemplate.Resolver.Named
import ScopedTemplate.Resolver.Reading
import ScopedTemplate.Resolver.Resolve
import ScopedTemplate.Resolver.Rules
import ScopedTemplate.Resolver.Step
import ScopedTemplate.Run
import ScopedTemplate.Standard
import ScopedTemplate.Template
import ScopedTemplate.Term
import ScopedTemplate.Term.Content
import ScopedTemplate.Term.Display
import ScopedTemplate.Term.Entries
import ScopedTemplate.Term.Identity
import ScopedTemplate.Term.Key
import ScopedTemplate.Term.Kind
import ScopedTemplate.Term.Order
import ScopedTemplate.Term.Slot
import ScopedTemplate.Term.Tagged
import ScopedTemplate.Term.Type
import ScopedTemplate.Term.Written
import ScopedTemplate.Text.Base64
import ScopedTemplate.Text.Blank
import ScopedTemplate.Text.Compact
import ScopedTemplate.Text.Encoding
import ScopedTemplate.Text.Lower
import ScopedTemplate.Text.Printable
import ScopedTemplate.Text.Quoted
import ScopedTemplate.Text.Sorted
import ScopedTemplate.Text.Upper
import ScopedTemplate.Trace
import ScopedTemplate.Trace.Threshold
import ScopedTemplate.ValueType.Library.AToC
import ScopedTemplate.ValueType.Library.DToH
import ScopedTemplate.ValueType.Library.Hidden
import ScopedTemplate.ValueType.Library.IToO
import ScopedTemplate.ValueType.Library.PToS
import ScopedTemplate.ValueType.Library.TToZ
import ScopedTemplate.ValueType.Registry
import ScopedTemplate.Yaml.Block
import ScopedTemplate.Yaml.Cursor
import ScopedTemplate.Yaml.Document
import ScopedTemplate.Yaml.Draft
import ScopedTemplate.Yaml.Fault
import ScopedTemplate.Yaml.Node
import ScopedTemplate.Yaml.Plain
import ScopedTemplate.Yaml.Property
import ScopedTemplate.Yaml.Quoted
import ScopedTemplate.Yaml.Scalar
import ScopedTemplate.Yaml.Tag
import ScopedTemplate.Yaml.Timestamp
import ScopedTemplate.Yaml.Token
import ScopedTemplate.Yaml.Value
import ScopedTemplate.Proofs.Cycles.Reference
import ScopedTemplate.Proofs.Cycles.Tracing
import ScopedTemplate.Proofs.Cycles.Exact
import ScopedTemplate.Proofs.Graph.Agreement
import ScopedTemplate.Proofs.Run.Settles
import ScopedTemplate.Proofs.Termination.Lookups
import ScopedTemplate.Proofs.Termination.Nodes
import ScopedTemplate.Proofs.Termination.Ends
import ScopedTemplate.Proofs.Bindings.Pinned
import ScopedTemplate.Proofs.Lockstep.Access
import ScopedTemplate.Proofs.Lockstep.Calls
import ScopedTemplate.Proofs.Lockstep.Nodes
import ScopedTemplate.Proofs.Bindings.Descent
import ScopedTemplate.Proofs.Bindings.Merged
import ScopedTemplate.Proofs.Resolver.Idempotence
import ScopedTemplate.Proofs.Strict.Check
import ScopedTemplate.Proofs.Bindings.Chains
import ScopedTemplate.Proofs.Removal.Agreement
import ScopedTemplate.Proofs.Sharing.Siblings
import ScopedTemplate.Proofs.Prefix.Agreement
import ScopedTemplate.Proofs.Twin.Terms
import ScopedTemplate.Proofs.Twin.Runs
import ScopedTemplate.Proofs.Twin.Nodes
import ScopedTemplate.Proofs.Twin.Calls
import ScopedTemplate.Proofs.Cache.Moved
import ScopedTemplate.Proofs.Relevance.Names
import ScopedTemplate.Proofs.Relevance.Agreement
import ScopedTemplate.Proofs.Run.Memoized
import ScopedTemplate.Proofs.Term.Codes
import ScopedTemplate.Proofs.Reuse.Fingerprints
import ScopedTemplate.Proofs.Reuse.Tables
import ScopedTemplate.Proofs.Reuse.Pairs
import ScopedTemplate.Proofs.Reuse.Lookups
import ScopedTemplate.Proofs.Reuse.Sessions
import ScopedTemplate.Proofs.Reuse.Blocks
import ScopedTemplate.Proofs.Graph.Reads
import ScopedTemplate.Proofs.Graph.Coverage
import ScopedTemplate.Proofs.Resolver.Views
import ScopedTemplate.Proofs.Resolver.Replacement
import ScopedTemplate.Proofs.Blocks.Frame
import ScopedTemplate.Proofs.Blocks.Programs
import ScopedTemplate.Proofs.Config.Loading
import ScopedTemplate.Proofs.Graph.Cycles
import ScopedTemplate.Proofs.Removal.Remains
import ScopedTemplate.Proofs.Sharing.Comparable
import ScopedTemplate.Proofs.Sharing.Permuted
import ScopedTemplate.Proofs.Graph.Leaves
import ScopedTemplate.Proofs.Run.Calls
import ScopedTemplate.Proofs.Sharing.Contents
import ScopedTemplate.Proofs.Graph.Peeling
import ScopedTemplate.Proofs.Bindings.Handles
