import RowParity.Catalog.Stored
import RowParity.Main
import RowParity.Proofs.Session.Frame
import RowParity.Proofs.Workload.Pieces
import RowParity.Proofs.Session.Refresh
import RowParity.Proofs.Check.Course
import RowParity.Proofs.Check.Decision
import RowParity.Proofs.Campaign.History
import RowParity.Proofs.Campaign.Accounting
import RowParity.Proofs.Sql.Token
import RowParity.Proofs.Sql.Select
import RowParity.Proofs.Check.Rewriting
import RowParity.Proofs.Sql.Nesting
import RowParity.Proofs.Sql.Definition
import RowParity.Proofs.Generate.Table
import RowParity.Proofs.Sql.NormalForm
import RowParity.Proofs.Sql.Splitting
import RowParity.Proofs.Catalog.Exchange
import RowParity.Proofs.Catalog.Reading
import RowParity.Proofs.Catalog.Completeness
import RowParity.Proofs.Catalog.Agreement
import RowParity.Proofs.Session.Loss
import RowParity.Proofs.Check.Transcript
import RowParity.Proofs.Check.Memory
import RowParity.Proofs.Check.Renaming
import RowParity.Proofs.Session.Deed
import RowParity.Proofs.Workload.Absorption
import RowParity.Proofs.Campaign.Visits
import RowParity.Proofs.Campaign.Abort
import RowParity.Proofs.Campaign.Dialogue
import RowParity.Proofs.Campaign.Conversation
import RowParity.Proofs.Campaign.Replay
import RowParity.Proofs.Session.Attempts
import RowParity.Proofs.Campaign.Upkeep
import RowParity.Proofs.Campaign.Assembly
import RowParity.Proofs.Campaign.Rounds
import RowParity.Proofs.Campaign.Stop
import RowParity.Proofs.Number.Finite
import RowParity.Proofs.Number.Numeral
import RowParity.Proofs.Sql.Items
import RowParity.Proofs.Generate.Literal
import RowParity.Proofs.Generate.Insert
import RowParity.Proofs.Engine.Calls
import RowParity.Proofs.Session.Handover
import RowParity.Proofs.Sql.Bare
import RowParity.Proofs.Generate.Origin
import RowParity.Proofs.Generate.Name
import RowParity.Proofs.Workload.Trials
import RowParity.Proofs.Workload.Rows
import RowParity.Proofs.Workload.Seeding
import RowParity.Proofs.Workload.Filling
import RowParity.Proofs.Campaign.Sources
import RowParity.Proofs.Campaign.Operation
import RowParity.Proofs.Campaign.Log
import RowParity.Proofs.Campaign.Snapshot
import RowParity.Proofs.Engine.Failures
import RowParity.Proofs.Generate.Value
import RowParity.Proofs.Sql.Embedding
import RowParity.Proofs.Catalog.LongestName
import RowParity.Proofs.Catalog.Spelling
import RowParity.Proofs.Sql.Tautology
import RowParity.Proofs.Workload.ToppingUp
import RowParity.Proofs.Workload.Targeting
import RowParity.Proofs.Random.Wrapping
import RowParity.Proofs.Check.Steering
import RowParity.Proofs.Check.Suite
import RowParity.Proofs.Catalog.Order
import RowParity.Proofs.Catalog.Shape
import RowParity.Proofs.Workload.Creating
import RowParity.Proofs.Workload.Lookup
import RowParity.Proofs.Text.Lower
import RowParity.Proofs.Check.Classified
import RowParity.Proofs.Document.Layers
import RowParity.Proofs.Settings.Layers
import RowParity.Proofs.Settings.Loading
