import CatalogSync.Batch
import CatalogSync.Calendar
import CatalogSync.Catalog.Client
import CatalogSync.Catalog.Record
import CatalogSync.Catalog.Store
import CatalogSync.Command.Basic
import CatalogSync.Command.Line
import CatalogSync.Command.Preview
import CatalogSync.Command.Request
import CatalogSync.Datum.Basic
import CatalogSync.Datum.Literal
import CatalogSync.Decimal.Binary64
import CatalogSync.Decimal.Shortest
import CatalogSync.Decimal.Text
import CatalogSync.Dictionary
import CatalogSync.Event
import CatalogSync.Extractor.Basic
import CatalogSync.Extractor.Registry
import CatalogSync.Failure
import CatalogSync.Json.Reader
import CatalogSync.Main
import CatalogSync.Numeral
import CatalogSync.Partition.Spec
import CatalogSync.Schema.Columns
import CatalogSync.Schema.Description
import CatalogSync.Schema.HiveType
import CatalogSync.Schema.StorageType
import CatalogSync.Settings.Basic
import CatalogSync.Settings.Environment
import CatalogSync.Settings.Mapping
import CatalogSync.Settings.Source
import CatalogSync.Storage.FileSystem
import CatalogSync.Storage.Location
import CatalogSync.Storage.Scheme
import CatalogSync.Sync.Executor
import CatalogSync.Sync.Operation
import CatalogSync.Sync.OperationKind
import CatalogSync.Sync.Session
import CatalogSync.Terminal.CellWidth
import CatalogSync.Terminal.Color
import CatalogSync.Terminal.Emoji
import CatalogSync.Terminal.EmojiTable
import CatalogSync.Terminal.Literal
import CatalogSync.Terminal.Markup
import CatalogSync.Terminal.Screen
import CatalogSync.Terminal.Style
import CatalogSync.Text.Blank
import CatalogSync.Text.CaseRun
import CatalogSync.Text.Cased
import CatalogSync.Text.Compatibility
import CatalogSync.Text.Digit
import CatalogSync.Text.Lowercase
import CatalogSync.Text.Printable
import CatalogSync.Text.Quoted
import CatalogSync.Text.Ranges
import CatalogSync.Text.Split
import CatalogSync.Text.Uppercase
import CatalogSync.Text.Word
import CatalogSync.Toml.Document
import CatalogSync.Toml.Reader
import CatalogSync.Toml.Scalar
import CatalogSync.Toml.Text
import CatalogSync.Toml.Tree
import CatalogSync.Uri.Address
import CatalogSync.Uri.Basic
import CatalogSync.Program.Arguments
import CatalogSync.Proofs.Catalog.Calls
import CatalogSync.Proofs.Sync.Action
import CatalogSync.Proofs.Batch
import CatalogSync.Proofs.Sync.Addition
import CatalogSync.Proofs.Sync.Atomicity
import CatalogSync.Proofs.Dictionary
import CatalogSync.Proofs.Extractor.HivePath
import CatalogSync.Proofs.Extractor.Lookup
import CatalogSync.Proofs.Extractor.Plugins
import CatalogSync.Proofs.Extractor.Registry
import CatalogSync.Proofs.Catalog.Store
import CatalogSync.Proofs.Sync.Calls.Partitions
import CatalogSync.Proofs.Sync.Calls.Tables
import CatalogSync.Proofs.Catalog.Service
import CatalogSync.Proofs.Catalog.Frame
import CatalogSync.Proofs.Sync.Change
import CatalogSync.Proofs.Sync.Consistency
import CatalogSync.Proofs.Sync.Course.Flaws
import CatalogSync.Proofs.Sync.Course.Operations
import CatalogSync.Proofs.Sync.Convergence
import CatalogSync.Proofs.Sync.Report
import CatalogSync.Proofs.Sync.Validation
import CatalogSync.Proofs.Text.Cut
import CatalogSync.Proofs.Text.Trim
import CatalogSync.Proofs.Uri.Cuts
import CatalogSync.Proofs.Uri.Outline
import CatalogSync.Proofs.Storage.FileSystem
import CatalogSync.Proofs.Storage.Join
import CatalogSync.Proofs.Storage.Location
import CatalogSync.Proofs.Storage.Origin
import CatalogSync.Proofs.Storage.Namenode
import CatalogSync.Proofs.Storage.Collision
import CatalogSync.Proofs.Sync.Keys
import CatalogSync.Proofs.Sync.Deletion
import CatalogSync.Proofs.Catalog.Without
import CatalogSync.Proofs.Sync.Removal
import CatalogSync.Proofs.Sync.PathCheck
import CatalogSync.Proofs.Sync.Preview
import CatalogSync.Proofs.Command.Preview
import CatalogSync.Proofs.Numeral
import CatalogSync.Proofs.Settings.Mapping
import CatalogSync.Proofs.Settings.Precedence
import CatalogSync.Proofs.Settings.Spelling
import CatalogSync.Proofs.Settings.Escape
import CatalogSync.Proofs.Schema.Support
import CatalogSync.Proofs.Schema.TypeText
import CatalogSync.Proofs.Extractor.Directory
import CatalogSync.Proofs.Schema.Columns
import CatalogSync.Proofs.Sync.ReadBack
import CatalogSync.Proofs.Schema.TableColumns
import CatalogSync.Proofs.Sync.Evolution
import CatalogSync.Proofs.Sync.Commenting
import CatalogSync.Proofs.Sync.Repointing
import CatalogSync.Proofs.Extractor.Segments
import CatalogSync.Proofs.Extractor.HiveStyle
import CatalogSync.Proofs.Numeral.Padded
import CatalogSync.Proofs.Extractor.Date
import CatalogSync.Proofs.Extractor.DateForm
import CatalogSync.Proofs.Storage.RoundTrip
import CatalogSync.Proofs.Storage.Refusal
import CatalogSync.Proofs.Sync.SetUp
import CatalogSync.Proofs.Batch.Greedy
import CatalogSync.Proofs.Storage.Composition
import CatalogSync.Proofs.Settings.Composition
import CatalogSync.Proofs.Settings.NormalForm
