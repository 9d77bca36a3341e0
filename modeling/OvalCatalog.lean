import OvalCatalog.Arguments
import OvalCatalog.Bzip2.Stream
import OvalCatalog.Config
import OvalCatalog.Definition
import OvalCatalog.Family
import OvalCatalog.Feed.Fetch
import OvalCatalog.Feed.Template
import OvalCatalog.Http.Traffic
import OvalCatalog.Main
import OvalCatalog.Number.Amount
import OvalCatalog.Number.Decimal
import OvalCatalog.Number.Reading
import OvalCatalog.Oval.Document
import OvalCatalog.PackageComment
import OvalCatalog.Proofs.Catalog
import OvalCatalog.Proofs.CveSearch
import OvalCatalog.Proofs.DefinitionTable
import OvalCatalog.Proofs.Feed.Malformed
import OvalCatalog.Proofs.Frame
import OvalCatalog.Proofs.Http.Protection
import OvalCatalog.Proofs.Http.Statuses
import OvalCatalog.Proofs.Http.Waiting
import OvalCatalog.Proofs.Independence
import OvalCatalog.Proofs.Lookup
import OvalCatalog.Proofs.Oval.Criteria
import OvalCatalog.Proofs.Oval.Namespaces
import OvalCatalog.Proofs.Oval.SharedCriteria
import OvalCatalog.Proofs.Oval.Targets
import OvalCatalog.Proofs.Oval.Timestamp
import OvalCatalog.Proofs.PackageComment
import OvalCatalog.Proofs.Release
import OvalCatalog.Proofs.Run.Accounting
import OvalCatalog.Proofs.Run.Coverage
import OvalCatalog.Proofs.Run.Failures
import OvalCatalog.Proofs.Run.Reconciliation
import OvalCatalog.Proofs.Run.Repetition
import OvalCatalog.Proofs.Shortcut
import OvalCatalog.Proofs.Store.Failure
import OvalCatalog.Proofs.Store.FetchLog
import OvalCatalog.Proofs.Store.Hydration
import OvalCatalog.Proofs.Store.Integrity
import OvalCatalog.Proofs.Store.Order
import OvalCatalog.Proofs.Versions
import OvalCatalog.Release
import OvalCatalog.Report.Markdown
import OvalCatalog.Session
import OvalCatalog.Store.Archive
import OvalCatalog.Store.Conversion
import OvalCatalog.Store.Dispatch
import OvalCatalog.Store.Quality
import OvalCatalog.Store.Schema
import OvalCatalog.Text.Lines
import OvalCatalog.Text.Quoted
import OvalCatalog.Time.MailDate
import OvalCatalog.Time.Moment
import OvalCatalog.Time.Reading
import OvalCatalog.Value.Amount
import OvalCatalog.Value.Printing
import OvalCatalog.Value.Reading
import OvalCatalog.Xml.Declaration
import OvalCatalog.Xml.Doctype
import OvalCatalog.Xml.Document
