import Recovery.Clone.Cluster
import Recovery.Clone.Credentials
import Recovery.Clone.Volume
import Recovery.Cloud.Address
import Recovery.Cloud.Call
import Recovery.Cloud.Part
import Recovery.Command.Backup
import Recovery.Command.Invocation
import Recovery.Command.Restore
import Recovery.Command.Site
import Recovery.CommandLine.Argument
import Recovery.CommandLine.Parameter
import Recovery.CommandLine.Settings
import Recovery.CommandLine.Shape
import Recovery.CommandLine.Usage
import Recovery.Document.Command
import Recovery.Document.Fault
import Recovery.Document.Field
import Recovery.Document.Recipe
import Recovery.Document.Request
import Recovery.Document.Worker
import Recovery.Event
import Recovery.Fault
import Recovery.Http.Api
import Recovery.Http.Message
import Recovery.Http.Target
import Recovery.Instant
import Recovery.Json.Basic
import Recovery.Json.Draft
import Recovery.Json.Form
import Recovery.Json.Printer
import Recovery.Json.Readable
import Recovery.Json.Reader
import Recovery.Json.Record
import Recovery.Json.Token
import Recovery.Main
import Recovery.Proofs.Cloud.Calls
import Recovery.Proofs.Cloud.Deletion
import Recovery.Proofs.Cloud.Ledger
import Recovery.Proofs.Fault
import Recovery.Proofs.Timed.Cleanup
import Recovery.Proofs.Timed.Record
import Recovery.Proofs.Timed.Shelter
import Recovery.Proofs.Timed.Shift
import Recovery.Proofs.Timed.Inset
import Recovery.Quantity
import Recovery.Recipe.ClusterBackup
import Recovery.Recipe.ClusterRestore
import Recovery.Recipe.Layout
import Recovery.Recipe.ObjectStorage
import Recovery.Recipe.Recipe
import Recovery.Recipe.VolumeBackup
import Recovery.Rehearsal.Action
import Recovery.Rehearsal.Cloud
import Recovery.Rehearsal.World
import Recovery.Resource.Certificate
import Recovery.Resource.Claim
import Recovery.Resource.Cluster
import Recovery.Resource.Condition
import Recovery.Resource.Kind
import Recovery.Resource.Metadata
import Recovery.Resource.Pod
import Recovery.Resource.Schema.Container
import Recovery.Resource.Schema.Placement
import Recovery.Resource.Schema.Pod
import Recovery.Resource.Schema.Service
import Recovery.Resource.Schema.Volume
import Recovery.Resource.Service
import Recovery.Resource.Snapshot
import Recovery.Rpc.Client
import Recovery.Rpc.Codec
import Recovery.Rpc.Message
import Recovery.Rpc.Wire
import Recovery.Stage.Action
import Recovery.Stage.Run
import Recovery.Text.Blank
import Recovery.Text.Digest
import Recovery.Text.Hidden
import Recovery.Text.Percent
import Recovery.Text.Quoted
import Recovery.Text.Split
import Recovery.Text.Utf8
import Recovery.Timed.Cleanup
import Recovery.Timed.Clock
import Recovery.Timed.Recorded
import Recovery.Timed.Scope
import Recovery.Timed.Task
import Recovery.Timeouts
import Recovery.Volume.Manifest
import Recovery.Volume.Store
import Recovery.Watch.Event
import Recovery.Watch.Wait
import Recovery.Worker.Instance
import Recovery.Worker.Manifest
import Recovery.Worker.Options
import Recovery.Worker.Reach
import Recovery.Worker.VolumeName
import Recovery.Proofs.Clone.Account
import Recovery.Proofs.Worker.Account
import Recovery.Proofs.Stage.Account
import Recovery.Proofs.Recipe.Account
import Recovery.Proofs.Stage.Failure
import Recovery.Proofs.Stage.Run
import Recovery.Proofs.Cloud.Attempt
import Recovery.Proofs.Clone.Story
import Recovery.Proofs.Timed.Law
import Recovery.Proofs.Watch.History
import Recovery.Proofs.Watch.Wait
import Recovery.Proofs.Timed.Interrupt
import Recovery.Proofs.Watch.Coverage
import Recovery.Proofs.Timed.Forecast
import Recovery.Proofs.Watch.Arrival
import Recovery.Proofs.Watch.Verdict
import Recovery.Proofs.Stage.Turn
import Recovery.Proofs.Stage.Course
import Recovery.Proofs.Stage.Report
import Recovery.Proofs.Timed.Trail
import Recovery.Proofs.Worker.Search
import Recovery.Proofs.Worker.Story
import Recovery.Proofs.Timed.Deadline
import Recovery.Proofs.Timed.Duration
import Recovery.Proofs.Timed.Conduct
import Recovery.Proofs.Recipe.Heed
import Recovery.Proofs.Clone.Rollback
import Recovery.Proofs.Stage.Ending
import Recovery.Proofs.Worker.Teardown
import Recovery.Proofs.Recipe.Quiet
import Recovery.Proofs.Stage.Cancellation
import Recovery.Proofs.Recipe.Reference
import Recovery.Proofs.Compound.Release
import Recovery.Proofs.Compound.Retry
import Recovery.Proofs.Volume.Lifetime
import Recovery.Proofs.Timed.Detachment
import Recovery.Proofs.Timed.Decision
import Recovery.Proofs.Watch.Deadline
import Recovery.Proofs.Worker.Sharing
import Recovery.Proofs.Fault.Tree
import Recovery.Proofs.Rpc.Client
import Recovery.Proofs.Rpc.Codec
import Recovery.Proofs.Event.Name
import Recovery.Proofs.Event.Document
import Recovery.Proofs.Quantity.Parse
import Recovery.Proofs.Resource.Survival
import Recovery.Proofs.Result
import Recovery.Proofs.Quantity.Format
import Recovery.Proofs.Worker.VolumeName
import Recovery.Proofs.Clone.Target
import Recovery.Proofs.Clone.Copy
import Recovery.Proofs.Volume.Size
import Recovery.Proofs.Volume.Provision
import Recovery.Proofs.Worker.VolumeLabel
import Recovery.Proofs.Worker.Discovery
import Recovery.Proofs.Timed.Unwinding
import Recovery.Proofs.Text.Split
import Recovery.Proofs.Recipe.Bucket
import Recovery.Proofs.Recipe.Confinement
import Recovery.Proofs.Recipe.Place
import Recovery.Proofs.Recipe.Separation
import Recovery.Proofs.Fault.Text
import Recovery.Proofs.Timed.Grove
import Recovery.Proofs.Worker.Manifest
import Recovery.Proofs.Stage.Validation
