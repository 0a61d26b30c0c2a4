import ConditionalGateway.Lifecycle.Shutdown
import ConditionalGateway.Main
import ConditionalGateway.Proofs.ExceptLaws
import ConditionalGateway.Proofs.Traced
import ConditionalGateway.Proofs.Predicate.Grammar
import ConditionalGateway.Proofs.Predicate.TokenLaws
import ConditionalGateway.Proofs.Predicate.CursorLaws
import ConditionalGateway.Proofs.Predicate.SelectorLaws
import ConditionalGateway.Proofs.Predicate.ConditionLaws
import ConditionalGateway.Proofs.Predicate.Parsing
import ConditionalGateway.Proofs.Predicate.Typing
import ConditionalGateway.Proofs.Pipeline.CounterLaws
import ConditionalGateway.Proofs.Pipeline.Delivery
import ConditionalGateway.Proofs.Pipeline.Resolution
import ConditionalGateway.Proofs.Pipeline.Construction
import ConditionalGateway.Proofs.Config.Soundness
import ConditionalGateway.Proofs.RateLimit.Exact
import ConditionalGateway.Proofs.RateLimit.Isolation
import ConditionalGateway.Proofs.Predicate.LexingLaws
import ConditionalGateway.Proofs.Predicate.Nesting
import ConditionalGateway.Proofs.Pipeline.Unfolding
import ConditionalGateway.Proofs.Predicate.Composition
import ConditionalGateway.Proofs.Pipeline.Outcome
import ConditionalGateway.Proofs.Pipeline.Lockstep
import ConditionalGateway.Proofs.Pipeline.Transparency
import ConditionalGateway.Proofs.Pipeline.Assembly
import ConditionalGateway.Proofs.Pipeline.Preservation
import ConditionalGateway.Proofs.Pipeline.Frame
import ConditionalGateway.Proofs.RateLimit.Balance
import ConditionalGateway.Proofs.RateLimit.Throughput
import ConditionalGateway.Proofs.RateLimit.Conformance
import ConditionalGateway.Proofs.Unicode.Blanks
import ConditionalGateway.Proofs.Predicate.Spelling
import ConditionalGateway.Proofs.Predicate.Spacing
import ConditionalGateway.Proofs.Pipeline.Registration
import ConditionalGateway.Proofs.Config.Labels
import ConditionalGateway.Proofs.RateLimit.Retention
import ConditionalGateway.Proofs.Lifecycle.Notification
import ConditionalGateway.Proofs.Text.ByteLength
import ConditionalGateway.Proofs.Text.Encoding
import ConditionalGateway.Proofs.Http.PathQueryLaws
import ConditionalGateway.Proofs.Http.TargetLaws
import ConditionalGateway.Proofs.Http.WellFormed
import ConditionalGateway.Proofs.Pipeline.Rewriting
import ConditionalGateway.Proofs.Config.Report
import ConditionalGateway.Proofs.Predicate.LexicalErrors
import ConditionalGateway.Proofs.Predicate.Blame
import ConditionalGateway.Proofs.Predicate.CanonicalNames
import ConditionalGateway.Proofs.Pipeline.Forwarding
import ConditionalGateway.Proofs.Pipeline.Stripping
import ConditionalGateway.Proofs.Predicate.Indexing
import ConditionalGateway.Proofs.Predicate.Emptiness
import ConditionalGateway.Proofs.Pipeline.Layering
import ConditionalGateway.Proofs.Pipeline.Abandonment
import ConditionalGateway.Proofs.Text.Digits
import ConditionalGateway.Proofs.Net.AddressLaws
import ConditionalGateway.Proofs.Net.HostLaws
import ConditionalGateway.Proofs.Http.AuthorityLaws
import ConditionalGateway.Proofs.RateLimit.Identity
import ConditionalGateway.Proofs.Config.RoundTrip
import ConditionalGateway.Proofs.Predicate.Placement
import ConditionalGateway.Proofs.Predicate.IndexedSelectors
import ConditionalGateway.Proofs.Gateway.Startup
import ConditionalGateway.Proofs.Predicate.Walking
import ConditionalGateway.Proofs.Predicate.Steps
import ConditionalGateway.Proofs.Predicate.Bounds
import ConditionalGateway.Proofs.Pipeline.Stacking
