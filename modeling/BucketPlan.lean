import BucketPlan.Descriptor.Reading
import BucketPlan.Plan.Parameters
import BucketPlan.Run.Count
import BucketPlan.Run.Rejection
import BucketPlan.Run.Observation
import BucketPlan.Proofs.Passes
import BucketPlan.Proofs.Fallible
import BucketPlan.Proofs.Order
import BucketPlan.Proofs.Filter
import BucketPlan.Proofs.Lifecycle.Legal
import BucketPlan.Proofs.Planning
import BucketPlan.Proofs.Requests
import BucketPlan.Proofs.Course
import BucketPlan.Proofs.Mismatches
import BucketPlan.Proofs.Verdict
import BucketPlan.Proofs.Origin.Path
import BucketPlan.Proofs.Origin.Checks
import BucketPlan.Proofs.Origin.Plans
import BucketPlan.Proofs.Origin.Names
import BucketPlan.Proofs.Outcome
import BucketPlan.Proofs.Valid.Replication
import BucketPlan.Proofs.Valid.Settings
import BucketPlan.Proofs.Valid.Website
import BucketPlan.Proofs.Valid.Descriptor
import BucketPlan.Proofs.Defaults
import BucketPlan.Proofs.Report
import BucketPlan.Proofs.Options
import BucketPlan.Proofs.Arranged.Keyed
import BucketPlan.Proofs.Arranged.Value
import BucketPlan.Proofs.Arranged.Descriptor
import BucketPlan.Proofs.Arranged.Findings
import BucketPlan.Proofs.Arranged.Planning
import BucketPlan.Proofs.Arranged.Plans
import BucketPlan.Proofs.Arranged.Destinations
import BucketPlan.Proofs.Arranged.Run
import BucketPlan.Proofs.Rendered.Member
import BucketPlan.Proofs.Rendered.Selection
import BucketPlan.Proofs.Rendered.Calls
import BucketPlan.Proofs.Rendered.Accepted
import BucketPlan.Proofs.Rendered.Retention
import BucketPlan.Proofs.Rendered.ReplicationRule
import BucketPlan.Proofs.Rendered.Replicas
import BucketPlan.Proofs.Rendered.Destinations
import BucketPlan.Proofs.Rendered.Announcements
import BucketPlan.Proofs.Rendered.Versions
import BucketPlan.Proofs.Rendered.Parameters
import BucketPlan.Proofs.Shape.Trail
import BucketPlan.Proofs.Shape.Reported
import BucketPlan.Proofs.Shape.Path
import BucketPlan.Proofs.Shape.Walk
import BucketPlan.Proofs.Shape.Whereabouts
import BucketPlan.Proofs.Shape.Lenient
import BucketPlan.Proofs.Shape.Complete
import BucketPlan.Proofs.Shape.Segments
import BucketPlan.Proofs.Shape.Attribution
import BucketPlan.Proofs.Spelling.Value
import BucketPlan.Proofs.Spelling.Descriptor
import BucketPlan.Proofs.Demands
import BucketPlan.Proofs.Repeated
import BucketPlan.Proofs.Areas
import BucketPlan.Proofs.Indices
import BucketPlan.Proofs.Recovery.Plain
import BucketPlan.Proofs.Recovery.Settings
import BucketPlan.Proofs.Recovery.Rules
import BucketPlan.Proofs.Recovery.Descriptor
import BucketPlan.Proofs.History
import BucketPlan.Proofs.Redaction.Rows
import BucketPlan.Proofs.Redaction.Accounts
import BucketPlan.Proofs.Disclosure
import BucketPlan.Proofs.Conservation
import BucketPlan.Proofs.Lifecycle.Actions
import BucketPlan.Proofs.Rendered.Actions
import BucketPlan.Proofs.Rendered.Lifecycle
import BucketPlan.Proofs.Holders
import BucketPlan.Proofs.Priorities
import BucketPlan.Proofs.Precedence
import BucketPlan.Proofs.Valid.Name
import BucketPlan.Proofs.Independence
import BucketPlan.Proofs.Completion
import BucketPlan.Proofs.Removal.Descriptor
import BucketPlan.Proofs.Shape.Fitting
import BucketPlan.Proofs.Removal.Value
import BucketPlan.Proofs.Removal.Findings
import BucketPlan.Proofs.Removal.Plans
import BucketPlan.Proofs.Removal.Listed
import BucketPlan.Proofs.Rendered.Sequence
import BucketPlan.Proofs.Removal.Run
import BucketPlan.Proofs.Rendered.Website
import BucketPlan.Proofs.Rendered.Housekeeping
import BucketPlan.Proofs.Redaction.Fields
import BucketPlan.Proofs.Redaction.Orders
import BucketPlan.Proofs.Observed.Story
import BucketPlan.Proofs.Lossless
