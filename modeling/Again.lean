import Again.Tracer.ForkHold
import Again.Pytest.RuntimeMounts
import Again.Pytest.TreeBinding
import Again.Privacy.JwtShapes
import Again.Team.LookupFraming
import Again.Team.TrustCheckpoint
import Again.Policy.Spelling
import Again.Policy.ShellJoin
import Again.Gateway.RetrievalGrants
import Again.Gateway.ForeignCompletion
import Again.Gateway.Glob
import Again.Ledger.CurrentVersions
import Again.Ledger.StaleRecipients
import Again.Ledger.ScopeFrames
import Again.Ledger.EventDigest
import Again.Tracer.ChildOrder
import Again.Tracer.ForkEvents
import Again.Tracer.WorkloadFilter
import Again.Pytest.StreamingDigest
import Again.Pytest.Comparison
import Again.Pytest.SecretEnvironment
import Again.Pytest.Dispositions
