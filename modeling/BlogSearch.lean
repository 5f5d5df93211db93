import BlogSearch.Account
import BlogSearch.Browser.Basic
import BlogSearch.Browser.Run
import BlogSearch.Browser.Schedule
import BlogSearch.Browser.Stage
import BlogSearch.Calendar
import BlogSearch.ClientError
import BlogSearch.Decimal.Double
import BlogSearch.Decimal.Natural
import BlogSearch.Decimal.Shortest
import BlogSearch.Form
import BlogSearch.Json.Basic
import BlogSearch.Json.Decoder
import BlogSearch.Json.Document
import BlogSearch.Json.Numeral
import BlogSearch.Json.Reader
import BlogSearch.Json.Writer
import BlogSearch.Navigation.History
import BlogSearch.Navigation.Location
import BlogSearch.Network.Basic
import BlogSearch.Network.Cookie
import BlogSearch.Network.CookieDate
import BlogSearch.Network.Server
import BlogSearch.Network.Target
import BlogSearch.Page.Result
import BlogSearch.Page.View
import BlogSearch.Search.Form
import BlogSearch.Search.Panel
import BlogSearch.Search.Preference
import BlogSearch.Search.Response
import BlogSearch.Settings.Basic
import BlogSearch.Settings.Disk
import BlogSearch.Settings.Preferences
import BlogSearch.Text.Blank
import BlogSearch.Text.Case
import BlogSearch.Text.CaseTable
import BlogSearch.Text.Hex
import BlogSearch.Text.HiddenTable
import BlogSearch.Text.Percent
import BlogSearch.Text.Pieces
import BlogSearch.Text.Quoted
import BlogSearch.Text.Utf8
import BlogSearch.Tool.Catalogue
import BlogSearch.Tool.Params
import BlogSearch.Tool.Service
import BlogSearch.Proofs.Navigation.Location
import BlogSearch.Proofs.Browser.Alone
import BlogSearch.Proofs.Page.View
import BlogSearch.Proofs.Browser.Correction
import BlogSearch.Proofs.Browser.Trail
import BlogSearch.Proofs.Browser.Overlap
import BlogSearch.Proofs.Browser.Overtaking
import BlogSearch.Proofs.Browser.Failure
import BlogSearch.Proofs.Browser.Address
import BlogSearch.Proofs.Browser.Record
import BlogSearch.Proofs.Browser.Showing
import BlogSearch.Proofs.Json.Strings
import BlogSearch.Proofs.Network.Request
import BlogSearch.Proofs.Browser.Repetition
import BlogSearch.Proofs.Browser.Deeds
import BlogSearch.Proofs.Browser.Revisiting
import BlogSearch.Proofs.Browser.Preference
import BlogSearch.Proofs.Tool.Calls
import BlogSearch.Proofs.Tool.Choices
import BlogSearch.Proofs.Browser.Freshness
import BlogSearch.Proofs.Browser.PreferenceRace
import BlogSearch.Proofs.Json.Numbers
import BlogSearch.Proofs.Json.Spelling
import BlogSearch.Proofs.Json.Members
import BlogSearch.Proofs.Json.Records
import BlogSearch.Proofs.Network.Wire
import BlogSearch.Proofs.Settings.Disk
import BlogSearch.Proofs.Settings.Reading
import BlogSearch.Proofs.Settings.Preferences
import BlogSearch.Proofs.Browser.Causes
import BlogSearch.Proofs.Tool.Errors
import BlogSearch.Proofs.Browser.Honest
import BlogSearch.Proofs.Navigation.Walk
import BlogSearch.Proofs.Settings.Saving
import BlogSearch.Proofs.Tool.Saving
import BlogSearch.Proofs.Text.Trim
import BlogSearch.Proofs.Settings.Loading
import BlogSearch.Proofs.Settings.BaseUrl
import BlogSearch.Proofs.Search.LastPage
import BlogSearch.Proofs.Navigation.Route
import BlogSearch.Proofs.Browser.Opening
import BlogSearch.Proofs.Tool.Reload
import BlogSearch.Proofs.Json.Unknown
import BlogSearch.Proofs.Steps
import BlogSearch.Proofs.Search.Envelope
import BlogSearch.Proofs.Browser.InBand
import BlogSearch.Proofs.Form
import BlogSearch.Proofs.Page.TagLink
import BlogSearch.Proofs.Browser.Errands
