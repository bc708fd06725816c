import MetricTables.Main
import MetricTables.Proofs.Sessions
import MetricTables.Proofs.Retry
import MetricTables.Proofs.Reconcile.Failures
import MetricTables.Proofs.CriticalColumns
import MetricTables.Proofs.Reconcile.Quiet
import MetricTables.Proofs.Reconcile.Effect
import MetricTables.Proofs.Reconcile.Growth
import MetricTables.Proofs.Reconcile.Race
import MetricTables.Proofs.Reconcile.Repeat
import MetricTables.Proofs.Dropping
import MetricTables.Proofs.Order
import MetricTables.Proofs.Widening
import MetricTables.Proofs.TagKeys
import MetricTables.Proofs.Store.Messages
import MetricTables.Proofs.Store.Execution
import MetricTables.Proofs.Store.Journal
import MetricTables.Proofs.Store.Comments
import MetricTables.Proofs.Templates
import MetricTables.Proofs.Isolation
import MetricTables.Proofs.Attempts
