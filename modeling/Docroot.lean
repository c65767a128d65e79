import Docroot.Files.Change
import Docroot.Files.Error
import Docroot.Files.Path
import Docroot.Files.Tree
import Docroot.Html
import Docroot.Http.Conditional
import Docroot.Http.Head
import Docroot.Http.Header
import Docroot.Http.MediaType
import Docroot.Http.Method
import Docroot.Http.Request
import Docroot.Http.Response
import Docroot.Http.Status
import Docroot.Http.Target
import Docroot.Http.Token
import Docroot.Http.Wire
import Docroot.Log.AccessEntry
import Docroot.Log.Journal
import Docroot.Log.Json
import Docroot.Log.Notice
import Docroot.Main
import Docroot.Number.Binary64
import Docroot.Number.Digits
import Docroot.Percent
import Docroot.Server.Address
import Docroot.Server.Connection
import Docroot.Server.Error
import Docroot.Server.Listener
import Docroot.Server.Loop
import Docroot.Server.Program
import Docroot.Settings
import Docroot.Settings.Convert
import Docroot.Settings.Layer
import Docroot.Settings.Load
import Docroot.Settings.Toml.Document
import Docroot.Settings.Toml.Marked
import Docroot.Settings.Toml.Number
import Docroot.Settings.Toml.Quotation
import Docroot.Settings.Toml.Tree
import Docroot.Settings.Toml.Value
import Docroot.Site.Cors
import Docroot.Site.Directory
import Docroot.Site.Handle
import Docroot.Site.Listing
import Docroot.Site.Reply
import Docroot.Site.Serve
import Docroot.Site.Translate
import Docroot.Text
import Docroot.Text.Blank
import Docroot.Text.CaseTable
import Docroot.Text.Lowercase
import Docroot.Text.PrintableTable
import Docroot.Text.Quoted
import Docroot.Text.Reader
import Docroot.Text.Utf8
import Docroot.Time.Calendar
import Docroot.Time.HttpDate
import Docroot.Time.HttpDate.Read
import Docroot.Time.Instant
import Docroot.Time.Local
import Docroot.Time.Names
import Docroot.Proofs.Number.Digits
import Docroot.Proofs.Text.Reader
import Docroot.Proofs.Time.Calendar
import Docroot.Proofs.Text.Utf8
import Docroot.Proofs.Text.Order
import Docroot.Proofs.Text.Lowercase
import Docroot.Proofs.Text.Replace
import Docroot.Proofs.Files.Path
import Docroot.Proofs.Files.Tree
import Docroot.Proofs.Files.Change
import Docroot.Proofs.Files.Shape
import Docroot.Proofs.Files.Way
import Docroot.Proofs.Files.Opening
import Docroot.Proofs.Http.Header
import Docroot.Proofs.Http.Target
import Docroot.Proofs.Http.Head
import Docroot.Proofs.Http.Value
import Docroot.Proofs.Percent
import Docroot.Proofs.Html
import Docroot.Proofs.Site.Reply
import Docroot.Proofs.Site.Cors
import Docroot.Proofs.Site.Serve
import Docroot.Proofs.Site.Responses
import Docroot.Proofs.Site.Translate
import Docroot.Proofs.Site.Confinement
import Docroot.Proofs.Site.Redirect
import Docroot.Proofs.Site.Revalidation
import Docroot.Proofs.Site.Serving
import Docroot.Proofs.Site.Links
import Docroot.Proofs.Site.Listing
import Docroot.Proofs.Site.Entries
import Docroot.Proofs.Site.Answers
import Docroot.Proofs.Site.Head
import Docroot.Proofs.Site.Finish
import Docroot.Proofs.Time.HttpDate
import Docroot.Proofs.Time.Forms
import Docroot.Proofs.Site.Copy
import Docroot.Proofs.Site.Convergence
import Docroot.Proofs.Site.Index
import Docroot.Proofs.Site.Intended
import Docroot.Proofs.Site.Spelling
import Docroot.Proofs.Http.Message
import Docroot.Proofs.Http.Wire
import Docroot.Proofs.Server.Connection
import Docroot.Proofs.Server.Ending
import Docroot.Proofs.Log.AccessEntry
import Docroot.Proofs.Log.Fields
import Docroot.Proofs.Log.SetUp
import Docroot.Proofs.Log.Journal
import Docroot.Proofs.Log.Json
import Docroot.Proofs.Log.Pattern
import Docroot.Proofs.Server.AccessLog
import Docroot.Proofs.Server.Address
import Docroot.Proofs.Server.Imitation
import Docroot.Proofs.Server.Loop
import Docroot.Proofs.Settings.Layer
import Docroot.Proofs.Settings.Convert
import Docroot.Proofs.Settings.Merge
import Docroot.Proofs.Settings.Load
import Docroot.Proofs.Http.Draft
import Docroot.Proofs.Site.Building
import Docroot.Proofs.Percent.Form
import Docroot.Proofs.Site.ErrorPage
