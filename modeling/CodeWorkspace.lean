import CodeWorkspace.Container.OrderedMap.Lemmas
import CodeWorkspace.Container.OrderedSet.Lemmas
import CodeWorkspace.Main
import CodeWorkspace.Snapshot.Operation
import CodeWorkspace.Workspace.Command
import CodeWorkspace.Proofs.Dependency.Search
import CodeWorkspace.Proofs.Dependency.BuildOrder
import CodeWorkspace.Proofs.Snapshot.References
import CodeWorkspace.Proofs.Snapshot.BuildOrder
import CodeWorkspace.Proofs.Snapshot.Acyclic
import CodeWorkspace.Proofs.Snapshot.Contents
import CodeWorkspace.Proofs.Snapshot.Lineage
import CodeWorkspace.Proofs.Snapshot.Diff
import CodeWorkspace.Proofs.Transition.Effect
import CodeWorkspace.Proofs.Transition.Independence
import CodeWorkspace.Proofs.Reconciliation.Conversion
import CodeWorkspace.Proofs.Registry.Operations
import CodeWorkspace.Proofs.Registry.Consistent
import CodeWorkspace.Proofs.Registry.Waiting
import CodeWorkspace.Proofs.Registry.Mirror
import CodeWorkspace.Proofs.Registry.Usage
import CodeWorkspace.Proofs.PendingSet.Standing
import CodeWorkspace.Proofs.Project.Documents
import CodeWorkspace.Proofs.Project.Diff
import CodeWorkspace.Proofs.Session.Action
import CodeWorkspace.Proofs.Draft.Move
import CodeWorkspace.Proofs.Session.Advance
import CodeWorkspace.Proofs.Workspace.Change
import CodeWorkspace.Proofs.Workspace.Invariant
import CodeWorkspace.Proofs.Draft.Documents
import CodeWorkspace.Proofs.Workspace.Documents
import CodeWorkspace.Proofs.Project.Holders
import CodeWorkspace.Proofs.FlushPlan.References
import CodeWorkspace.Proofs.FlushPlan.Outcome
import CodeWorkspace.Proofs.Draft.References
import CodeWorkspace.Proofs.Draft.InStep
import CodeWorkspace.Proofs.Draft.Deferred
import CodeWorkspace.Proofs.Session.Batch
import CodeWorkspace.Proofs.Session.Stale
import CodeWorkspace.Proofs.Workspace.Batch
import CodeWorkspace.Proofs.Workspace.References
import CodeWorkspace.Proofs.Host.Upkeep
import CodeWorkspace.Proofs.Session.Refusal
import CodeWorkspace.Proofs.Workspace.Refusal
import CodeWorkspace.Proofs.Draft.Turnover
import CodeWorkspace.Proofs.Session.Turnover
import CodeWorkspace.Proofs.Session.Account
import CodeWorkspace.Proofs.Workspace.Portion
import CodeWorkspace.Proofs.Workspace.Chronicle
import CodeWorkspace.Proofs.Workspace.Withdrawal
import CodeWorkspace.Proofs.Session.Submission
import CodeWorkspace.Proofs.Session.Waiting
import CodeWorkspace.Proofs.Workspace.Scopes
import CodeWorkspace.Proofs.Draft.NetEffect
import CodeWorkspace.Proofs.Registry.Custody
import CodeWorkspace.Proofs.Session.NetEffect
import CodeWorkspace.Proofs.Workspace.NetEffect
import CodeWorkspace.Proofs.Manifest.Addition
import CodeWorkspace.Proofs.Draft.Filling
import CodeWorkspace.Proofs.Session.Filling
import CodeWorkspace.Proofs.Manifest.Fill
import CodeWorkspace.Proofs.Manifest.Load
import CodeWorkspace.Proofs.Manifest.Batched
import CodeWorkspace.Proofs.Project.Renaming
import CodeWorkspace.Proofs.Manifest.Intended
import CodeWorkspace.Proofs.Manifest.Acyclic
import CodeWorkspace.Proofs.Manifest.Order
import CodeWorkspace.Proofs.Transition.Target
import CodeWorkspace.Proofs.Workspace.Outputs
import CodeWorkspace.Proofs.Session.Perform
import CodeWorkspace.Proofs.Workspace.Step
import CodeWorkspace.Proofs.Draft.Avoidance
import CodeWorkspace.Proofs.Session.Avoidance
import CodeWorkspace.Proofs.Session.Missing
import CodeWorkspace.Proofs.Workspace.Removal
import CodeWorkspace.Proofs.Registry.Reload
import CodeWorkspace.Proofs.Draft.Provenance
import CodeWorkspace.Proofs.Session.Reload
import CodeWorkspace.Proofs.Workspace.Delivery
import CodeWorkspace.Proofs.Workspace.Reload
import CodeWorkspace.Proofs.Workspace.OpenFile
import CodeWorkspace.Proofs.Snapshot.Ledger
import CodeWorkspace.Proofs.FlushPlan.Stepwise
import CodeWorkspace.Proofs.Reconciliation.Reversal
import CodeWorkspace.Proofs.Json.Tokens
import CodeWorkspace.Proofs.Json.Reading
import CodeWorkspace.Proofs.Json.Values
import CodeWorkspace.Proofs.Schema.Decoding
import CodeWorkspace.Proofs.Schema.ReadBack
import CodeWorkspace.Proofs.Host.Watches
import CodeWorkspace.Proofs.Registry.Watches
import CodeWorkspace.Proofs.Session.Stage
import CodeWorkspace.Proofs.Session.Watches
import CodeWorkspace.Proofs.Workspace.Stage
import CodeWorkspace.Proofs.Workspace.Watches
import CodeWorkspace.Proofs.Host.History
import CodeWorkspace.Proofs.Registry.Notices
import CodeWorkspace.Proofs.Session.Notices
import CodeWorkspace.Proofs.Workspace.Notices
import CodeWorkspace.Proofs.Workspace.Admission
import CodeWorkspace.Proofs.Workspace.Informed
