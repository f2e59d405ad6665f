import ContentMount.CommandLine.Arguments
import ContentMount.CommandLine.Session
import ContentMount.CommandLine.Setting
import ContentMount.Content.Children
import ContentMount.Content.Node
import ContentMount.Content.Property
import ContentMount.Content.Readers
import ContentMount.Content.Reading
import ContentMount.Content.Value
import ContentMount.Content.View
import ContentMount.Json.Basic
import ContentMount.Json.Reader
import ContentMount.Json.Record
import ContentMount.Main
import ContentMount.Mount.Activation
import ContentMount.Mount.Config
import ContentMount.Mount.Error
import ContentMount.Mount.Problem
import ContentMount.Mount.Provider
import ContentMount.Number.Amount
import ContentMount.Number.Double
import ContentMount.Number.Integer
import ContentMount.Number.Rounding
import ContentMount.Path.Basic
import ContentMount.Path.Text
import ContentMount.Proofs.Bucket.Cursor
import ContentMount.Proofs.Bucket.CutService
import ContentMount.Proofs.Bucket.Cutting
import ContentMount.Proofs.Bucket.Depiction
import ContentMount.Proofs.Bucket.Faithful
import ContentMount.Proofs.Bucket.FoldersFirst
import ContentMount.Proofs.Bucket.Hosting
import ContentMount.Proofs.Bucket.Navigable
import ContentMount.Proofs.Bucket.Pages
import ContentMount.Proofs.Bucket.Root
import ContentMount.Proofs.Bucket.Service
import ContentMount.Proofs.Bucket.Shadowing
import ContentMount.Proofs.Bucket.Starts
import ContentMount.Proofs.Bucket.Termination
import ContentMount.Proofs.Build.Account
import ContentMount.Proofs.Build.Agreement
import ContentMount.Proofs.Build.Completion
import ContentMount.Proofs.Build.Contents
import ContentMount.Proofs.Build.Endless
import ContentMount.Proofs.Build.Gathering
import ContentMount.Proofs.Build.Mirror
import ContentMount.Proofs.Build.Outcome
import ContentMount.Proofs.Build.Planting
import ContentMount.Proofs.Build.Run
import ContentMount.Proofs.Build.Soundness
import ContentMount.Proofs.Build.Visit
import ContentMount.Proofs.Build.Waiting
import ContentMount.Proofs.Content.Attributes
import ContentMount.Proofs.Content.Handles
import ContentMount.Proofs.Content.Iteration
import ContentMount.Proofs.Content.Lengths
import ContentMount.Proofs.Content.Navigation
import ContentMount.Proofs.Content.Properties
import ContentMount.Proofs.Content.Reach
import ContentMount.Proofs.Content.Resolution
import ContentMount.Proofs.Content.Sharing
import ContentMount.Proofs.Content.Shelf
import ContentMount.Proofs.Content.Together
import ContentMount.Proofs.Content.Walk
import ContentMount.Proofs.Dropbox.Arguments
import ContentMount.Proofs.Dropbox.Hosting
import ContentMount.Proofs.Dropbox.Locations
import ContentMount.Proofs.Dropbox.Reports
import ContentMount.Proofs.Json.Roundtrip
import ContentMount.Proofs.Json.Strings
import ContentMount.Proofs.Mount.Absence
import ContentMount.Proofs.Mount.Accepted
import ContentMount.Proofs.Mount.Activation
import ContentMount.Proofs.Mount.Canonical
import ContentMount.Proofs.Mount.Metering
import ContentMount.Proofs.Mount.Published
import ContentMount.Proofs.Path.Ancestry
import ContentMount.Proofs.Path.Below
import ContentMount.Proofs.Path.Composing
import ContentMount.Proofs.Path.Segments
import ContentMount.Proofs.Query.Coverage
import ContentMount.Proofs.Query.Intent
import ContentMount.Proofs.Query.Listing
import ContentMount.Proofs.Query.Statement
import ContentMount.Proofs.Remote.Lookup
import ContentMount.Proofs.Remote.Once
import ContentMount.Proofs.Remote.Serving
import ContentMount.Proofs.Remote.Totals
import ContentMount.Proofs.Remote.Transcript
import ContentMount.Proofs.Remote.Tree
import ContentMount.Proofs.Shell.Candidates
import ContentMount.Proofs.Shell.Completion
import ContentMount.Proofs.Shell.Directories
import ContentMount.Proofs.Shell.Dump
import ContentMount.Proofs.Shell.Listing
import ContentMount.Proofs.Shell.Printing
import ContentMount.Proofs.Shell.Progress
import ContentMount.Proofs.Shell.Quoting
import ContentMount.Proofs.Shell.Trimming
import ContentMount.Proofs.Shell.Turns
import ContentMount.Proofs.Text.Bytes
import ContentMount.Query.Glob
import ContentMount.Query.Intent
import ContentMount.Query.Result
import ContentMount.Query.Root
import ContentMount.Query.Statement
import ContentMount.Remote.Bucket.Call
import ContentMount.Remote.Bucket.Client
import ContentMount.Remote.Connection
import ContentMount.Remote.Dialogue
import ContentMount.Remote.Dropbox.Answer
import ContentMount.Remote.Dropbox.Client
import ContentMount.Remote.Entry
import ContentMount.Remote.Error
import ContentMount.Remote.Metrics
import ContentMount.Remote.Request
import ContentMount.Remote.Web
import ContentMount.Shell.Command
import ContentMount.Shell.Completion
import ContentMount.Shell.Error
import ContentMount.Shell.Listing
import ContentMount.Shell.Location
import ContentMount.Shell.Output
import ContentMount.Shell.Print
import ContentMount.Shell.Report
import ContentMount.Shell.Words
import ContentMount.Text.Blank
import ContentMount.Text.Casing
import ContentMount.Text.CodePoints
import ContentMount.Text.Control
import ContentMount.Text.Escape
import ContentMount.Text.Extending
import ContentMount.Text.Lowercase
import ContentMount.Text.Printable
import ContentMount.Text.Search
import ContentMount.Text.Style
import ContentMount.Text.Utf8
import ContentMount.Tree.Build
import ContentMount.Tree.Descriptor
import ContentMount.Tree.Snapshot
