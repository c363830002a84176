import DeviceUpdate.Main
import DeviceUpdate.Http.Server
import DeviceUpdate.Rollout.Scheduler
import DeviceUpdate.Proofs.Store.Effect
import DeviceUpdate.Proofs.Store.Execution
import DeviceUpdate.Json.Writer
import DeviceUpdate.Proofs.Deployment.Step
import DeviceUpdate.Proofs.Deployment.Pairing
import DeviceUpdate.Proofs.Deployment.Cancellation
import DeviceUpdate.Proofs.Deployment.Administration
import DeviceUpdate.Proofs.Deployment.Reporting
import DeviceUpdate.Proofs.Rollout.Step
import DeviceUpdate.Proofs.Rollout.Placement
import DeviceUpdate.Proofs.Rollout.Arrangement
import DeviceUpdate.Proofs.Service.Step
import DeviceUpdate.Proofs.Rollout.Lifecycle
import DeviceUpdate.Proofs.Service.Scheduling
import DeviceUpdate.Proofs.Service.Coherence
import DeviceUpdate.Proofs.Service.Coverage
import DeviceUpdate.Proofs.Service.Matching
import DeviceUpdate.Proofs.Deployment.Closed
import DeviceUpdate.Proofs.Service.Finality
import DeviceUpdate.Proofs.Service.Order
import DeviceUpdate.Proofs.Deployment.Exclusion
import DeviceUpdate.Proofs.Service.Exclusion
import DeviceUpdate.Proofs.Http.Refusal
import DeviceUpdate.Proofs.Deployment.Origin
import DeviceUpdate.Proofs.Service.Ageing
import DeviceUpdate.Proofs.Service.Conduct
import DeviceUpdate.Proofs.Service.Once
import DeviceUpdate.Proofs.Rollout.Condition
import DeviceUpdate.Proofs.Rollout.Outcome
import DeviceUpdate.Proofs.Service.Lifecycle
import DeviceUpdate.Proofs.Deployment.Tenancy
import DeviceUpdate.Proofs.Service.Ownership
import DeviceUpdate.Proofs.Service.Isolation
import DeviceUpdate.Proofs.Service.Naming
import DeviceUpdate.Proofs.Service.Polling
import DeviceUpdate.Proofs.Service.Concealment
import DeviceUpdate.Proofs.Deployment.Feasibility
import DeviceUpdate.Proofs.Service.Feasibility
import DeviceUpdate.Proofs.Deployment.Evolution
import DeviceUpdate.Proofs.Deployment.Reflection
import DeviceUpdate.Proofs.Service.Reflection
import DeviceUpdate.Proofs.Deployment.Persistence
import DeviceUpdate.Proofs.Deployment.Settlement
import DeviceUpdate.Proofs.Service.Settlement
import DeviceUpdate.Proofs.Device.Validator
import DeviceUpdate.Proofs.Device.Validation
import DeviceUpdate.Proofs.Service.Persistence
import DeviceUpdate.Proofs.Service.Validation
import DeviceUpdate.Proofs.Maintenance.Window
import DeviceUpdate.Proofs.Service.Gating
import DeviceUpdate.Proofs.Service.Audit
import DeviceUpdate.Proofs.Service.Quota
import DeviceUpdate.Proofs.Service.Installation
import DeviceUpdate.Proofs.Service.Interference
import DeviceUpdate.Proofs.Service.Change
import DeviceUpdate.Proofs.Rollout.Membership
import DeviceUpdate.Proofs.Deployment.Registration
import DeviceUpdate.Proofs.Service.Removal
import DeviceUpdate.Proofs.Rollout.Partition
import DeviceUpdate.Proofs.Rollout.Coverage
import DeviceUpdate.Proofs.Rollout.Tally
import DeviceUpdate.Proofs.Service.Accounting
import DeviceUpdate.Proofs.Maintenance.Range
import DeviceUpdate.Proofs.Deployment.Conformity
import DeviceUpdate.Proofs.Deployment.Range
import DeviceUpdate.Proofs.Service.Conformity
import DeviceUpdate.Proofs.Service.Range
import DeviceUpdate.Proofs.Text.Spelling
import DeviceUpdate.Proofs.Http.Address
import DeviceUpdate.Proofs.Http.Link
import DeviceUpdate.Proofs.Service.Links
import DeviceUpdate.Proofs.Maintenance.Meaning
import DeviceUpdate.Proofs.Deployment.Standing
import DeviceUpdate.Proofs.Service.Standing
import DeviceUpdate.Proofs.Text.Digits
import DeviceUpdate.Proofs.Time.Timestamp
import DeviceUpdate.Proofs.Json.Text
import DeviceUpdate.Proofs.Json.Record
import DeviceUpdate.Proofs.Store.Records
import DeviceUpdate.Proofs.Toml.Quotation
import DeviceUpdate.Proofs.Toml.Scalar
import DeviceUpdate.Proofs.Toml.Statement
import DeviceUpdate.Proofs.Toml.Document
import DeviceUpdate.Proofs.Toml.Range
import DeviceUpdate.Proofs.Network.Endpoint
import DeviceUpdate.Proofs.Time.Clock
import DeviceUpdate.Proofs.Settings.Range
import DeviceUpdate.Proofs.Settings.File
import DeviceUpdate.Proofs.Service.Confirmation
import DeviceUpdate.Proofs.Service.Replacement
import DeviceUpdate.Proofs.Service.Stopping
import DeviceUpdate.Proofs.Rollout.Verdict
import DeviceUpdate.Proofs.Service.Progress
import DeviceUpdate.Proofs.Rollout.Filter
import DeviceUpdate.Proofs.Service.Indifference
import DeviceUpdate.Proofs.Device.Sleep
import DeviceUpdate.Proofs.Service.Deletion
import DeviceUpdate.Proofs.Service.Queue
import DeviceUpdate.Proofs.Time.Units
import DeviceUpdate.Proofs.Maintenance.Offset
import DeviceUpdate.Proofs.Service.Numbering
import DeviceUpdate.Proofs.Service.Totals
