import ExamFilter.GroupFile.Audit
import ExamFilter.Web.App
import ExamFilter.Proofs.Text.Numeral
import ExamFilter.Proofs.Calendar.Iso
import ExamFilter.Proofs.Filter.Compiled
import ExamFilter.Proofs.Sql.Token
import ExamFilter.Proofs.Sql.Reads
import ExamFilter.Proofs.Sql.Rendered
import ExamFilter.Proofs.Sql.TokenTree
import ExamFilter.Proofs.Sql.Binding
import ExamFilter.Proofs.Sql.TextOrder
import ExamFilter.Proofs.Sql.Alike
import ExamFilter.Proofs.Sql.Pattern
import ExamFilter.Proofs.Sql.Meaning
import ExamFilter.Proofs.Report.Assembly
import ExamFilter.Proofs.Report.Dimensions
import ExamFilter.Proofs.Report.Limits
import ExamFilter.Proofs.Report.Placeholders
import ExamFilter.Proofs.Report.Noninterference
import ExamFilter.Proofs.Report.Rows
import ExamFilter.Proofs.Filter.Expansion
import ExamFilter.Proofs.Filter.Escaped
import ExamFilter.Proofs.Sql.Filled
import ExamFilter.Proofs.Sql.Delivered
import ExamFilter.Proofs.Report.Search
import ExamFilter.Proofs.Report.Delivery
import ExamFilter.Proofs.Report.Selections
import ExamFilter.Proofs.Report.Cascade
import ExamFilter.Proofs.Filter.Policies
import ExamFilter.Proofs.Report.Policies
import ExamFilter.Proofs.Table
import ExamFilter.Proofs.Sql.Registered
import ExamFilter.Proofs.GroupFile.Findings
import ExamFilter.Proofs.GroupFile.Stored
import ExamFilter.Proofs.GroupFile.Parts
import ExamFilter.Proofs.GroupFile.Reading
import ExamFilter.Proofs.GroupFile.Members
import ExamFilter.Proofs.GroupFile.Pointers
import ExamFilter.Proofs.Filter.Markers
import ExamFilter.Proofs.Web.OneDimension
import ExamFilter.Proofs.Calendar.Positional
import ExamFilter.Proofs.Calendar.Written
import ExamFilter.Proofs.Calendar.Normalized
import ExamFilter.Proofs.Report.NormalizedLimits
import ExamFilter.Proofs.Web.Dates
import ExamFilter.Proofs.Report.Ignored
import ExamFilter.Proofs.GroupFile.Sources
import ExamFilter.Proofs.GroupFile.Grammar
import ExamFilter.Proofs.Value.Printed
import ExamFilter.Proofs.Filter.Scalars
import ExamFilter.Proofs.GroupFile.Anchors
import ExamFilter.Proofs.Enumeration
import ExamFilter.Proofs.GroupFile.Completeness
import ExamFilter.Proofs.Ranking
import ExamFilter.Proofs.GroupFile.Suggested
import ExamFilter.Proofs.GroupFile.NodeCount
import ExamFilter.Proofs.Filter.Classified
import ExamFilter.Proofs.Sql.Steps
