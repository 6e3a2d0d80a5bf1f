import CatalogBrowser.Cache.Basic
import CatalogBrowser.Cache.Call
import CatalogBrowser.Cache.Edit
import CatalogBrowser.Cache.Load
import CatalogBrowser.Cache.Machine
import CatalogBrowser.Cache.Reconcile
import CatalogBrowser.Cache.Scripted
import CatalogBrowser.Cache.Setup
import CatalogBrowser.Catalog.Document
import CatalogBrowser.Catalog.Record
import CatalogBrowser.Catalog.Server
import CatalogBrowser.CommandLine.Arguments
import CatalogBrowser.CommandLine.Browse
import CatalogBrowser.CommandLine.Endpoint
import CatalogBrowser.Configuration
import CatalogBrowser.Connection
import CatalogBrowser.Data.Literal
import CatalogBrowser.Data.Value
import CatalogBrowser.DataSource.Basic
import CatalogBrowser.DataSource.Context
import CatalogBrowser.DataSource.Database
import CatalogBrowser.DataSource.Preload
import CatalogBrowser.DataSource.Routine
import CatalogBrowser.DataSource.Schema
import CatalogBrowser.DataSource.Session
import CatalogBrowser.DataSource.Setting
import CatalogBrowser.DataSource.Table
import CatalogBrowser.Duration
import CatalogBrowser.Error
import CatalogBrowser.Key
import CatalogBrowser.Main
import CatalogBrowser.Monitor
import CatalogBrowser.Proofs.Address
import CatalogBrowser.Proofs.Association
import CatalogBrowser.Proofs.Cache.Absence
import CatalogBrowser.Proofs.Cache.CancelledListing
import CatalogBrowser.Proofs.Cache.CollectionLoad
import CatalogBrowser.Proofs.Cache.Completeness
import CatalogBrowser.Proofs.Cache.Conservation
import CatalogBrowser.Proofs.Cache.Delivery
import CatalogBrowser.Proofs.Cache.Descent
import CatalogBrowser.Proofs.Cache.Effect
import CatalogBrowser.Proofs.Cache.Eviction
import CatalogBrowser.Proofs.Cache.Filling
import CatalogBrowser.Proofs.Cache.Freshness
import CatalogBrowser.Proofs.Cache.Identity
import CatalogBrowser.Proofs.Cache.Index
import CatalogBrowser.Proofs.Cache.Invalidation
import CatalogBrowser.Proofs.Cache.Leadership
import CatalogBrowser.Proofs.Cache.Liveness
import CatalogBrowser.Proofs.Cache.LoadedCache
import CatalogBrowser.Proofs.Cache.Notification
import CatalogBrowser.Proofs.Cache.ObjectLoad
import CatalogBrowser.Proofs.Cache.Omission
import CatalogBrowser.Proofs.Cache.Origin
import CatalogBrowser.Proofs.Cache.PendingLoads
import CatalogBrowser.Proofs.Cache.Promise
import CatalogBrowser.Proofs.Cache.Reading
import CatalogBrowser.Proofs.Cache.Reconciliation
import CatalogBrowser.Proofs.Cache.Refresh
import CatalogBrowser.Proofs.Cache.Renewal
import CatalogBrowser.Proofs.Cache.Retention
import CatalogBrowser.Proofs.Cache.Rollback
import CatalogBrowser.Proofs.Cache.Run
import CatalogBrowser.Proofs.Cache.Sharing
import CatalogBrowser.Proofs.Cache.SingleFlight
import CatalogBrowser.Proofs.Cache.Steady
import CatalogBrowser.Proofs.Cache.Turn
import CatalogBrowser.Proofs.Cache.UnchangingRemote
import CatalogBrowser.Proofs.Cache.Withdrawal
import CatalogBrowser.Proofs.Catalog.Rows
import CatalogBrowser.Proofs.CommandLine.Marking
import CatalogBrowser.Proofs.CommandLine.Outline
import CatalogBrowser.Proofs.DataSource.Action
import CatalogBrowser.Proofs.DataSource.Attempt
import CatalogBrowser.Proofs.DataSource.Attendance
import CatalogBrowser.Proofs.DataSource.Coverage
import CatalogBrowser.Proofs.DataSource.Descent
import CatalogBrowser.Proofs.DataSource.Frame
import CatalogBrowser.Proofs.DataSource.Initialization
import CatalogBrowser.Proofs.DataSource.Inquiry
import CatalogBrowser.Proofs.DataSource.Integrity
import CatalogBrowser.Proofs.DataSource.Invalidation
import CatalogBrowser.Proofs.DataSource.Lookup
import CatalogBrowser.Proofs.DataSource.Opening
import CatalogBrowser.Proofs.DataSource.Overview
import CatalogBrowser.Proofs.DataSource.Preloading
import CatalogBrowser.Proofs.DataSource.Reader
import CatalogBrowser.Proofs.DataSource.Readership
import CatalogBrowser.Proofs.DataSource.Reading
import CatalogBrowser.Proofs.DataSource.Recreation
import CatalogBrowser.Proofs.DataSource.Reload
import CatalogBrowser.Proofs.DataSource.Renaming
import CatalogBrowser.Proofs.DataSource.Rest
import CatalogBrowser.Proofs.DataSource.Retry
import CatalogBrowser.Proofs.DataSource.Scene
import CatalogBrowser.Proofs.DataSource.Schedule
import CatalogBrowser.Proofs.DataSource.Selection
import CatalogBrowser.Proofs.DataSource.Solitude
import CatalogBrowser.Proofs.DataSource.Structure
import CatalogBrowser.Proofs.DataSource.Supply
import CatalogBrowser.Proofs.DataSource.TreeCaches
import CatalogBrowser.Proofs.DataSource.Waiting
import CatalogBrowser.Proofs.DataSource.Walk
import CatalogBrowser.Proofs.Text.Ascii
import CatalogBrowser.Report.Grid
import CatalogBrowser.Report.Listing
import CatalogBrowser.Text.Alphanumeric
import CatalogBrowser.Text.Blank
import CatalogBrowser.Text.Casing
import CatalogBrowser.Text.CodeRange
import CatalogBrowser.Text.Fold
import CatalogBrowser.Text.Lines
import CatalogBrowser.Text.Quoted
import CatalogBrowser.Text.Width
import CatalogBrowser.Trace
import CatalogBrowser.Yaml.Cursor
import CatalogBrowser.Yaml.Document
import CatalogBrowser.Yaml.Layout
import CatalogBrowser.Yaml.Node
import CatalogBrowser.Yaml.Scalar
import CatalogBrowser.Yaml.Token
