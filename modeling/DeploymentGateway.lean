import DeploymentGateway.Text.Blank
import DeploymentGateway.Text.Quoted
import DeploymentGateway.Text.Percent
import DeploymentGateway.Number.Shortest
import DeploymentGateway.Json.Printer
import DeploymentGateway.Json.Reader
import DeploymentGateway.Json.Path
import DeploymentGateway.Time.Printer
import DeploymentGateway.Time.Reader
import DeploymentGateway.Hash.Sha256
import DeploymentGateway.Model.Wire
import DeploymentGateway.Rules
import DeploymentGateway.Health.Application
import DeploymentGateway.Health.Reconciliation
import DeploymentGateway.Health.Composition
import DeploymentGateway.Health.Release
import DeploymentGateway.Listing
import DeploymentGateway.PackageId
import DeploymentGateway.Cluster.Store
import DeploymentGateway.Release.Store
import DeploymentGateway.Program
import DeploymentGateway.Application.OnCluster
import DeploymentGateway.Composite.OnCluster
import DeploymentGateway.Flux.OnCluster
import DeploymentGateway.Application.OnServer
import DeploymentGateway.Release.OnManager
import DeploymentGateway.Adapter
import DeploymentGateway.Memory
import DeploymentGateway.Release.CommandLine
import DeploymentGateway.LazyClient
import DeploymentGateway.Http.Plan
import DeploymentGateway.Toml.Document
import DeploymentGateway.Configuration
import DeploymentGateway.Bootstrap
import DeploymentGateway.Rehearsal.Fault
import DeploymentGateway.Cluster.Metadata
import DeploymentGateway.Rehearsal.Stage
import DeploymentGateway.Rehearsal.Session
import DeploymentGateway.Release.Wire
import DeploymentGateway.Rehearsal.Journal
import DeploymentGateway.Cluster.Exchange
import DeploymentGateway.Server.Answer
import DeploymentGateway.Http.Token
import DeploymentGateway.Http.Target
import DeploymentGateway.Proofs.Cluster.Store
import DeploymentGateway.Proofs.Program
import DeploymentGateway.Proofs.Flux.Creation
import DeploymentGateway.Proofs.Release.Store
import DeploymentGateway.Proofs.Release.Record
import DeploymentGateway.Proofs.Release.Chart
import DeploymentGateway.Proofs.Release.Rollback
import DeploymentGateway.Proofs.Cluster.Edit
import DeploymentGateway.Proofs.LazyClient.Setup
import DeploymentGateway.Proofs.LazyClient.Simulation
import DeploymentGateway.Proofs.LazyClient
import DeploymentGateway.Proofs.Cluster.Reachable
import DeploymentGateway.Proofs.Rewrite.Operation
import DeploymentGateway.Proofs.Rewrite.Identity
import DeploymentGateway.Proofs.Cluster.Succession
import DeploymentGateway.Proofs.Rewrite.Thread
import DeploymentGateway.Proofs.Rewrite.Places
import DeploymentGateway.Proofs.Rewrite.Pool
import DeploymentGateway.Proofs.Rewrite.LostUpdate
import DeploymentGateway.Proofs.Program.Change
import DeploymentGateway.Proofs.Program.Start
import DeploymentGateway.Proofs.Program.Run
import DeploymentGateway.Proofs.Json.Path
import DeploymentGateway.Proofs.Json.Difference
import DeploymentGateway.Proofs.Flux.Pin
import DeploymentGateway.Proofs.Flux.Rollback
import DeploymentGateway.Proofs.Flux.Source
import DeploymentGateway.Proofs.Refusal.Action
import DeploymentGateway.Proofs.Refusal.Flux
import DeploymentGateway.Proofs.Refusal.Release
import DeploymentGateway.Proofs.Refusal
import DeploymentGateway.Proofs.History.Position
import DeploymentGateway.Proofs.History.Application
import DeploymentGateway.Proofs.History.Flux
import DeploymentGateway.Proofs.History.Release
import DeploymentGateway.Proofs.History
import DeploymentGateway.Proofs.Flux.Deletion
import DeploymentGateway.Proofs.Release.Address
import DeploymentGateway.Proofs.Flux.Contention
import DeploymentGateway.Proofs.Flux.Overlap
import DeploymentGateway.Proofs.Text.Split
import DeploymentGateway.Proofs.Rules
import DeploymentGateway.Proofs.Admission
import DeploymentGateway.Proofs.Rewrite.Run
import DeploymentGateway.Proofs.Program.Where
import DeploymentGateway.Proofs.Cluster.Object
import DeploymentGateway.Proofs.Cluster.Selector
import DeploymentGateway.Proofs.Identity.Object
import DeploymentGateway.Proofs.Identity.Cluster
import DeploymentGateway.Proofs.Identity.Release
import DeploymentGateway.Proofs.Identity
import DeploymentGateway.Proofs.Release.Run
import DeploymentGateway.Proofs.Release.Step
import DeploymentGateway.Proofs.Release.OnRecord
import DeploymentGateway.Proofs.Release.Package
import DeploymentGateway.Proofs.Listing
import DeploymentGateway.Proofs.Listing.Collection
import DeploymentGateway.Proofs.Listing.Selection
import DeploymentGateway.Proofs.Listing.Reading
import DeploymentGateway.Proofs.Listing.Catalog
import DeploymentGateway.Proofs.Release.Report
import DeploymentGateway.Proofs.Program.Scope
import DeploymentGateway.Proofs.Creation.Object
import DeploymentGateway.Proofs.Footprint.Cluster
import DeploymentGateway.Proofs.Footprint.Flux
import DeploymentGateway.Proofs.Footprint.Release
import DeploymentGateway.Proofs.Composite.Package
import DeploymentGateway.Proofs.Footprint
import DeploymentGateway.Proofs.Creation.Cluster
import DeploymentGateway.Proofs.Release.Leftover
import DeploymentGateway.Proofs.Undo
import DeploymentGateway.Proofs.Time.Calendar
import DeploymentGateway.Proofs.Time.Stamp
import DeploymentGateway.Proofs.Creation
import DeploymentGateway.Proofs.Listing.Page
import DeploymentGateway.Proofs.Program.Alike
import DeploymentGateway.Proofs.Flux.Spelling
import DeploymentGateway.Proofs.Json.Writes
import DeploymentGateway.Proofs.Update.Intake
import DeploymentGateway.Proofs.Update
import DeploymentGateway.Proofs.Program.Upholds
import DeploymentGateway.Proofs.Containment.Object
import DeploymentGateway.Proofs.Containment
import DeploymentGateway.Proofs.Text.Letters
import DeploymentGateway.Proofs.Health.Application
import DeploymentGateway.Proofs.Health.Conditions
import DeploymentGateway.Proofs.Program.Trace
import DeploymentGateway.Proofs.Release.Arguments
import DeploymentGateway.Proofs.Acknowledgement.Server
import DeploymentGateway.Proofs.Acknowledgement.Release
import DeploymentGateway.Proofs.Acknowledgement
import DeploymentGateway.Proofs.Composite.Reference
import DeploymentGateway.Proofs.Composite.Upload
import DeploymentGateway.Proofs.Application.Replicas
import DeploymentGateway.Proofs.Text.Words
import DeploymentGateway.Proofs.Time.Zone
import DeploymentGateway.Proofs.Time.Written
import DeploymentGateway.Proofs.Release.Timestamp
import DeploymentGateway.Proofs.Json.Ordered
import DeploymentGateway.Proofs.Json.Lens
import DeploymentGateway.Proofs.Sorted
import DeploymentGateway.Proofs.Configuration
import DeploymentGateway.Proofs.Time.Lenient
import DeploymentGateway.Proofs.Json.Reading
import DeploymentGateway.Proofs.Model.Wire
import DeploymentGateway.Proofs.Cluster.Coordinates
import DeploymentGateway.Proofs.Program.Contract
import DeploymentGateway.Proofs.Coordinates.Action
import DeploymentGateway.Proofs.Coordinates
import DeploymentGateway.Proofs.Text.Octets
import DeploymentGateway.Proofs.PackageId
import DeploymentGateway.Proofs.Flux.Commit
import DeploymentGateway.Proofs.Release.WellFormed
import DeploymentGateway.Proofs.Release.Numbering
