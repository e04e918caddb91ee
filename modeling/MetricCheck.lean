import MetricCheck.Assertion
import MetricCheck.Double.Basic
import MetricCheck.Double.Decimal
import MetricCheck.Double.Shortest
import MetricCheck.Explanation
import MetricCheck.Family
import MetricCheck.Fault
import MetricCheck.Number
import MetricCheck.Predicate.Acceptance
import MetricCheck.Predicate.Basic
import MetricCheck.Predicate.Description
import MetricCheck.Rendering
import MetricCheck.Request
import MetricCheck.Sample
import MetricCheck.Sample.Record
import MetricCheck.Search.Basic
import MetricCheck.Search.Labels
import MetricCheck.Search.Report
import MetricCheck.Source
import MetricCheck.Text.Affix
import MetricCheck.Text.Blank
import MetricCheck.Text.Digit
import MetricCheck.Text.Literal
import MetricCheck.Text.Printed
import MetricCheck.Text.Quoted
import MetricCheck.Value.Affix
import MetricCheck.Value.Basic
import MetricCheck.Value.Equality
import MetricCheck.Value.Order
import MetricCheck.Proofs.Search.Judgement
import MetricCheck.Proofs.Search.Samples
import MetricCheck.Proofs.Search.Families
import MetricCheck.Proofs.Search.Verdict
import MetricCheck.Proofs.Search.Presence
import MetricCheck.Proofs.Search.Absence
import MetricCheck.Proofs.Search.Growth
import MetricCheck.Proofs.Search.Account
import MetricCheck.Proofs.Value.Sorting
import MetricCheck.Proofs.Explanation.Complete
import MetricCheck.Proofs.Explanation.Spelling
import MetricCheck.Proofs.Explanation.Failure
import MetricCheck.Proofs.Predicate.Tree
import MetricCheck.Proofs.Predicate.Total
import MetricCheck.Proofs.Search.Alike
import MetricCheck.Proofs.Search.Widening
import MetricCheck.Proofs.Search.BareName
import MetricCheck.Proofs.Explanation.Total
import MetricCheck.Proofs.Explanation.Expectation
import MetricCheck.Proofs.Request.Keyed
import MetricCheck.Proofs.Request.Narrowing
import MetricCheck.Proofs.Assertion.Total
import MetricCheck.Proofs.Explanation.Absence
import MetricCheck.Proofs.Sample.Adaptation
import MetricCheck.Proofs.Source.InTurn
import MetricCheck.Proofs.Source.Adaptation
import MetricCheck.Proofs.Source.Reading
import MetricCheck.Proofs.Assertion.Session
import MetricCheck.Proofs.Explanation.FoundValues
import MetricCheck.Proofs.Predicate.Composition
import MetricCheck.Proofs.Search.LabelRecord
import MetricCheck.Proofs.Explanation.Names
import MetricCheck.Proofs.Number.Amount
import MetricCheck.Proofs.Predicate.Ordering
import MetricCheck.Proofs.Request.Closeness
import MetricCheck.Proofs.Search.Tolerance
import MetricCheck.Proofs.Explanation.Labels
import MetricCheck.Proofs.Explanation.Grouping
import MetricCheck.Proofs.Value.Entries
import MetricCheck.Proofs.Sample.Mapping
import MetricCheck.Proofs.Text.Quotation
