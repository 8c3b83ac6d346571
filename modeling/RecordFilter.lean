import RecordFilter.Catalog.Standard
import RecordFilter.Condition.Edit
import RecordFilter.Filter.Edit
import RecordFilter.Label
import RecordFilter.Query.Matching
import RecordFilter.Query.OfFilter
import RecordFilter.Validation
import RecordFilter.Proofs.Fault
import RecordFilter.Proofs.Query.Join
import RecordFilter.Proofs.Query.Reading
import RecordFilter.Proofs.Query.Thinning
import RecordFilter.Proofs.Calendar.Range
import RecordFilter.Proofs.Query.Fault
import RecordFilter.Proofs.Condition.Canonical
import RecordFilter.Proofs.Filter.RoundTrip
import RecordFilter.Proofs.Query.Row
import RecordFilter.Proofs.Query.Denial
import RecordFilter.Proofs.Condition.Validity
import RecordFilter.Proofs.Calendar.Civil
import RecordFilter.Proofs.Calendar.Division
import RecordFilter.Proofs.Period.Partition
import RecordFilter.Proofs.Query.Relocation
import RecordFilter.Proofs.Query.Pattern
import RecordFilter.Proofs.Query.Search
import RecordFilter.Proofs.Calendar.LocalDay
import RecordFilter.Proofs.Number.Digits
import RecordFilter.Proofs.Query.Day
import RecordFilter.Proofs.Calendar.Text
import RecordFilter.Proofs.Query.PlainDay
import RecordFilter.Proofs.Period.Gap
import RecordFilter.Proofs.Filter.Meaning
import RecordFilter.Proofs.Filter.Nodes
import RecordFilter.Proofs.Filter.Session
import RecordFilter.Proofs.Json.Numeral
import RecordFilter.Proofs.Json.Source
import RecordFilter.Proofs.Json.Depth
import RecordFilter.Proofs.Filter.Text
import RecordFilter.Proofs.Query.Saying
import RecordFilter.Proofs.Query.Flattening
import RecordFilter.Proofs.Query.Growth
import RecordFilter.Proofs.Query.Rearranging
import RecordFilter.Proofs.Query.Influence
import RecordFilter.Proofs.Filter.Removal
import RecordFilter.Proofs.Query.Emptiness
import RecordFilter.Proofs.Number.Rounding
import RecordFilter.Proofs.Query.NormalForm
import RecordFilter.Proofs.Query.WholeNumber
import RecordFilter.Proofs.Filter.Place
import RecordFilter.Proofs.Text.Space
import RecordFilter.Proofs.Query.CalendarPeriod
import RecordFilter.Proofs.Query.Rolling
import RecordFilter.Proofs.Calendar.Written
import RecordFilter.Proofs.Query.SameDay
import RecordFilter.Proofs.Condition.Fitting
import RecordFilter.Proofs.Filter.Pruning
import RecordFilter.Proofs.Filter.Vacancy
import RecordFilter.Proofs.Filter.Commuting
import RecordFilter.Proofs.Filter.Undoing
import RecordFilter.Proofs.Query.NumberOrder
import RecordFilter.Proofs.Query.TextVerbs
import RecordFilter.Proofs.Calendar.Printed
import RecordFilter.Proofs.Query.Rendering
import RecordFilter.Proofs.Query.Journal
