import GridCommons.Account.Creation
import GridCommons.Account.Email
import GridCommons.Account.Network
import GridCommons.Account.PasswordRule
import GridCommons.Account.Session
import GridCommons.Account.Username
import GridCommons.Command.Basic
import GridCommons.Command.Dump
import GridCommons.Fault
import GridCommons.Form.Basic
import GridCommons.Form.Content
import GridCommons.Form.DateInput
import GridCommons.Form.Profile
import GridCommons.Form.Registration
import GridCommons.Form.Step
import GridCommons.Front.Gate
import GridCommons.Front.Host
import GridCommons.Front.Token
import GridCommons.Json.Encoding
import GridCommons.Json.Printer
import GridCommons.Json.Reader
import GridCommons.Json.Value
import GridCommons.Main
import GridCommons.Number.Double
import GridCommons.Number.Numeral
import GridCommons.Page.Cards
import GridCommons.Page.Fixed
import GridCommons.Page.Item
import GridCommons.Page.Moderation
import GridCommons.Page.People
import GridCommons.Proofs.Action
import GridCommons.Proofs.Answers
import GridCommons.Proofs.Attribution
import GridCommons.Proofs.Authority
import GridCommons.Proofs.Ban
import GridCommons.Proofs.Blocking
import GridCommons.Proofs.CardPage
import GridCommons.Proofs.Change
import GridCommons.Proofs.Complaints
import GridCommons.Proofs.Content
import GridCommons.Proofs.Deed
import GridCommons.Proofs.Deletion
import GridCommons.Proofs.DeletionCounts
import GridCommons.Proofs.Disclosure
import GridCommons.Proofs.Drafts
import GridCommons.Proofs.Emails
import GridCommons.Proofs.Faults
import GridCommons.Proofs.Forms
import GridCommons.Proofs.Integrity
import GridCommons.Proofs.Keys
import GridCommons.Proofs.Marks
import GridCommons.Proofs.Numbering
import GridCommons.Proofs.Outcome
import GridCommons.Proofs.Paths
import GridCommons.Proofs.Reading
import GridCommons.Proofs.Redaction
import GridCommons.Proofs.Registering
import GridCommons.Proofs.Requests
import GridCommons.Proofs.Rows
import GridCommons.Proofs.Runs
import GridCommons.Proofs.Serving
import GridCommons.Proofs.Settling
import GridCommons.Proofs.Telling
import GridCommons.Proofs.Tiling
import GridCommons.Proofs.TwoRuns
import GridCommons.Proofs.Unmoderated
import GridCommons.Proofs.Visitor
import GridCommons.Proofs.WallHistory
import GridCommons.Proofs.Walls
import GridCommons.Script.BoundedInt
import GridCommons.Script.Grid
import GridCommons.Script.Word
import GridCommons.Script.Workspace
import GridCommons.Site.Call
import GridCommons.Site.Cells
import GridCommons.Site.Column
import GridCommons.Site.Database
import GridCommons.Site.Datum
import GridCommons.Site.Describe
import GridCommons.Site.Draft
import GridCommons.Site.DraftCheck
import GridCommons.Site.Moderation
import GridCommons.Site.Record
import GridCommons.Site.Row
import GridCommons.Site.Store
import GridCommons.Site.Table
import GridCommons.Site.World
import GridCommons.Step
import GridCommons.Text.Base64
import GridCommons.Text.Case
import GridCommons.Text.CaseTable
import GridCommons.Text.Class
import GridCommons.Text.ClassTable
import GridCommons.Text.DecompositionTable
import GridCommons.Text.Entity
import GridCommons.Text.EntityTable
import GridCommons.Text.Likeness
import GridCommons.Text.Normal
import GridCommons.Text.Pattern
import GridCommons.Text.Percent
import GridCommons.Text.Quoted
import GridCommons.Text.Ranges
import GridCommons.Text.Utf8
import GridCommons.Time
import GridCommons.Time.Reader
import GridCommons.Web.Accounts
import GridCommons.Web.Address
import GridCommons.Web.Admin
import GridCommons.Web.Guard
import GridCommons.Web.Header
import GridCommons.Web.Landing
import GridCommons.Web.ListForm
import GridCommons.Web.Listing
import GridCommons.Web.Making
import GridCommons.Web.Moderating
import GridCommons.Web.Number
import GridCommons.Web.ObjectForm
import GridCommons.Web.Panel
import GridCommons.Web.Reading
import GridCommons.Web.Reply
import GridCommons.Web.Request
import GridCommons.Web.Route
import GridCommons.Web.SearchWords
import GridCommons.Web.Site
import GridCommons.Web.Social
import GridCommons.Web.Unlisted
import GridCommons.Web.Upload
import GridCommons.Web.Walls
import GridCommons.Proofs.Words
import GridCommons.Proofs.Bounds
import GridCommons.Proofs.FullRange
import GridCommons.Proofs.Nesting
import GridCommons.Proofs.Keeping
import GridCommons.Proofs.Mode
import GridCommons.Proofs.Lapses
import GridCommons.Proofs.Uploads
import GridCommons.Proofs.Stripping
import GridCommons.Proofs.Submitting
import GridCommons.Proofs.AddingWalls
import GridCommons.Proofs.AddingComments
import GridCommons.Proofs.OwnProfile
import GridCommons.Proofs.NewUsers
import GridCommons.Proofs.FillingGrids
import GridCommons.Proofs.SafeOperations
import GridCommons.Proofs.ManyVerdicts
import GridCommons.Proofs.Patterns
import GridCommons.Proofs.Searching
import GridCommons.Proofs.ProfileNotes
import GridCommons.Proofs.FileNames
