import RecordMapper.Value.Tagged
import RecordMapper.Json.Reader
import RecordMapper.Registry
import RecordMapper.Driver.Logged
import RecordMapper.Driver.Scripted
import RecordMapper.Collection.Fetch
import RecordMapper.Collection.Save
import RecordMapper.Error.Report
import RecordMapper.Sqlite.Connection
import RecordMapper.Sqlite.Engine
import RecordMapper.Proofs.Text.Matching
import RecordMapper.Proofs.Filter.NumberText
import RecordMapper.Proofs.Filter.WellFormed
import RecordMapper.Proofs.Filter.Leaf
import RecordMapper.Proofs.Filter.TextOperand
import RecordMapper.Proofs.Filter.Meaning
import RecordMapper.Proofs.Fetch.Parameters
import RecordMapper.Proofs.Decimal.Numeral
import RecordMapper.Proofs.Dialect.Lexeme
import RecordMapper.Proofs.Filter.Members
import RecordMapper.Proofs.Relation.Attached
import RecordMapper.Proofs.Relation.Query
import RecordMapper.Proofs.Relation.Alone
import RecordMapper.Proofs.Relation.Columns
import RecordMapper.Proofs.Relation.Keyed
import RecordMapper.Proofs.Relation.Calls
import RecordMapper.Proofs.Relation.InPlace
import RecordMapper.Proofs.Record.Transaction
import RecordMapper.Proofs.Record.FailedSave
import RecordMapper.Proofs.Model.RowUpdate
import RecordMapper.Proofs.Value.Alike
import RecordMapper.Proofs.Record.Tracking
import RecordMapper.Proofs.Model.Batches
import RecordMapper.Proofs.Model.BulkInsert
import RecordMapper.Proofs.Model.BulkKeys
import RecordMapper.Proofs.Model.Checked
import RecordMapper.Proofs.Collection.Members
import RecordMapper.Proofs.Collection.GroupedSave
import RecordMapper.Proofs.Collection.Adopted
import RecordMapper.Proofs.Record.Outcome
import RecordMapper.Proofs.Record.Partition
import RecordMapper.Proofs.Record.Steps
import RecordMapper.Proofs.Value.Reflexive
import RecordMapper.Proofs.Record.Settled
import RecordMapper.Proofs.Collection.Settled
import RecordMapper.Proofs.Record.Reading
import RecordMapper.Proofs.Collection.Addressed
import RecordMapper.Proofs.Collection.Outcome
import RecordMapper.Proofs.Collection.Deleted
import RecordMapper.Proofs.Collection.ReadOnly
import RecordMapper.Proofs.Collection.Fetched
import RecordMapper.Proofs.Filter.Document
import RecordMapper.Proofs.Collection.Keys
import RecordMapper.Proofs.Collection.SingleInsert
import RecordMapper.Proofs.Sqlite.Literal
import RecordMapper.Proofs.Sqlite.Transaction
import RecordMapper.Proofs.Record.ExactUpdate
import RecordMapper.Proofs.Value.KeyText
import RecordMapper.Proofs.Model.Pairs
import RecordMapper.Proofs.Fetch.Document
import RecordMapper.Proofs.Registry.Usage
import RecordMapper.Proofs.Collection.First
import RecordMapper.Proofs.Column.Declaration
import RecordMapper.Proofs.Value.Document
import RecordMapper.Proofs.Row.Views
import RecordMapper.Proofs.Value.NumericText
import RecordMapper.Proofs.Text.Utf8
import RecordMapper.Proofs.Collection.BlobKeys
import RecordMapper.Proofs.Sqlite.Documented
