import CommitHeader.Calendar.Civil
import CommitHeader.Calendar.DateText
import CommitHeader.Calendar.Instant
import CommitHeader.Calendar.MailDate
import CommitHeader.Calendar.Offset
import CommitHeader.Calendar.Pattern
import CommitHeader.Calendar.Span
import CommitHeader.Command
import CommitHeader.Command.Arguments
import CommitHeader.Command.Branches
import CommitHeader.Command.Failure
import CommitHeader.Command.Line
import CommitHeader.Command.Opening
import CommitHeader.Command.Show
import CommitHeader.Commit
import CommitHeader.FileTree
import CommitHeader.Header
import CommitHeader.Header.Labels
import CommitHeader.History
import CommitHeader.History.Children
import CommitHeader.History.Survey
import CommitHeader.Label
import CommitHeader.Main
import CommitHeader.Markup.Anchor
import CommitHeader.Markup.Entity
import CommitHeader.Markup.Link
import CommitHeader.ObjectId
import CommitHeader.Proofs.Calendar.Pattern
import CommitHeader.Proofs.Command.Arguments
import CommitHeader.Proofs.Command.Branches
import CommitHeader.Proofs.Command.CheckedOut
import CommitHeader.Proofs.Command.Colours
import CommitHeader.Proofs.Command.Followed
import CommitHeader.Proofs.Command.PrintedName
import CommitHeader.Proofs.Header.Agreement
import CommitHeader.Proofs.Header.Column
import CommitHeader.Proofs.Header.Leads
import CommitHeader.Proofs.Header.Lines
import CommitHeader.Proofs.Header.Questions
import CommitHeader.Proofs.History.Children
import CommitHeader.Proofs.History.Reachability
import CommitHeader.Proofs.History.Survey
import CommitHeader.Proofs.History.Walk
import CommitHeader.Proofs.Markup.Anchor
import CommitHeader.Proofs.Markup.Entity
import CommitHeader.Proofs.ObjectId
import CommitHeader.Proofs.Ref.Kind
import CommitHeader.Proofs.Ref.Listing
import CommitHeader.Proofs.Ref.Name
import CommitHeader.Proofs.Ref.Tracking
import CommitHeader.Proofs.Repository.Config
import CommitHeader.Proofs.Repository.Listing
import CommitHeader.Proofs.Revision.Cache
import CommitHeader.Proofs.Settings.Dates
import CommitHeader.Proofs.Settings.Meaning
import CommitHeader.Proofs.Settings.Overlay
import CommitHeader.Proofs.Settings.Saved
import CommitHeader.Proofs.Text.Cut
import CommitHeader.Proofs.Text.Lines
import CommitHeader.Proofs.Text.Utf8
import CommitHeader.Proofs.Text.Width
import CommitHeader.Proofs.Toml.Distinct
import CommitHeader.Proofs.Toml.Statement
import CommitHeader.Proofs.Toml.StringForm
import CommitHeader.Ref.Listing
import CommitHeader.Ref.Name
import CommitHeader.Ref.Refspec
import CommitHeader.Ref.Resolution
import CommitHeader.Ref.Tracking
import CommitHeader.Ref.WellFormed
import CommitHeader.Repository
import CommitHeader.Repository.Config
import CommitHeader.Repository.Layout
import CommitHeader.Repository.Remote
import CommitHeader.Repository.Switch
import CommitHeader.Revision
import CommitHeader.Revision.Cache
import CommitHeader.Revision.Table
import CommitHeader.Revspec
import CommitHeader.Settings
import CommitHeader.Settings.File
import CommitHeader.Settings.Table
import CommitHeader.Store
import CommitHeader.Store.Message
import CommitHeader.Store.Person
import CommitHeader.Store.Record
import CommitHeader.Terminal
import CommitHeader.Text.Blank
import CommitHeader.Text.Case
import CommitHeader.Text.CharRange
import CommitHeader.Text.Cut
import CommitHeader.Text.Slice
import CommitHeader.Text.Decimal
import CommitHeader.Text.Hex
import CommitHeader.Text.Integer
import CommitHeader.Text.Lead
import CommitHeader.Text.Property.Emoji
import CommitHeader.Text.Property.GraphemeExtend
import CommitHeader.Text.Property.Placeless
import CommitHeader.Text.Property.Unprintable
import CommitHeader.Text.Property.Wide
import CommitHeader.Text.Quoted
import CommitHeader.Text.Utf8
import CommitHeader.Text.Width
import CommitHeader.Text.Width.Columns
import CommitHeader.Text.Width.Follow
import CommitHeader.Text.Width.Ligature
import CommitHeader.Toml.Document
import CommitHeader.Toml.Draft
import CommitHeader.Toml.Layout
import CommitHeader.Toml.Moment
import CommitHeader.Toml.Number
import CommitHeader.Toml.Statement
import CommitHeader.Toml.StringForm
import CommitHeader.Toml.StringForm.Writer
import CommitHeader.Toml.Value
import CommitHeader.Workspace
import CommitHeader.Workspace.Description
import CommitHeader.Workspace.Enclosing
import CommitHeader.Proofs.Ref.KnownRemote
import CommitHeader.Proofs.Repository.Identity
import CommitHeader.Proofs.Calendar.Relative
import CommitHeader.Proofs.Calendar.Shown
import CommitHeader.Proofs.Calendar.Wording
import CommitHeader.Proofs.Calendar.MailDate
import CommitHeader.Proofs.Calendar.Pieces
import CommitHeader.Proofs.Markup.Address
import CommitHeader.Proofs.Text.Hex
import CommitHeader.Proofs.ObjectId.Digits
import CommitHeader.Proofs.ObjectId.Filling
import CommitHeader.Proofs.ObjectId.Parse
import CommitHeader.Proofs.Calendar.Civil
import CommitHeader.Proofs.Calendar.LongForm
import CommitHeader.Proofs.ObjectId.Order
import CommitHeader.Proofs.Text.Blank
import CommitHeader.Proofs.Commit
import CommitHeader.Proofs.History.Chronology
import CommitHeader.Proofs.Repository.Snapshot
