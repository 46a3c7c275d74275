import Scoreboard.Calendar
import Scoreboard.Cell.Numeral
import Scoreboard.Cell.Stamp
import Scoreboard.Cell.Value
import Scoreboard.Codec.Basic
import Scoreboard.Codec.Error
import Scoreboard.Codec.Event
import Scoreboard.Codec.Page
import Scoreboard.Codec.Record
import Scoreboard.Codec.Scalar
import Scoreboard.Feed.Draft
import Scoreboard.Feed.Line
import Scoreboard.Feed.Reading
import Scoreboard.Feed.Record
import Scoreboard.Feed.Roster
import Scoreboard.Files.Path
import Scoreboard.Files.Tree
import Scoreboard.Grid.Collapse
import Scoreboard.Grid.ElementId
import Scoreboard.Grid.Error
import Scoreboard.Grid.Selection
import Scoreboard.Grid.Store
import Scoreboard.Grid.Visibility
import Scoreboard.Json.Basic
import Scoreboard.Json.Printer
import Scoreboard.Json.Problem
import Scoreboard.Json.Reader
import Scoreboard.Json.Skip
import Scoreboard.Number.Binary
import Scoreboard.Number.Decimal
import Scoreboard.Number.Scaled
import Scoreboard.Number.Shortest
import Scoreboard.Page.Basic
import Scoreboard.Page.Tags
import Scoreboard.Page.Width
import Scoreboard.Screen.App
import Scoreboard.Screen.Board
import Scoreboard.Screen.Load
import Scoreboard.Screen.LoadFrame
import Scoreboard.Screen.Session
import Scoreboard.Screen.TableView
import Scoreboard.Screen.Widget
import Scoreboard.Settings.Basic
import Scoreboard.Settings.Codec
import Scoreboard.Settings.File
import Scoreboard.Sort.Click
import Scoreboard.Sort.Comparison
import Scoreboard.Sort.Exchange
import Scoreboard.SortedMap
import Scoreboard.Text.Blank
import Scoreboard.Text.Case
import Scoreboard.Text.Digit
import Scoreboard.Text.Lower
import Scoreboard.Text.Quoted
import Scoreboard.Text.Unprintable
import Scoreboard.Toml.Basic
import Scoreboard.Toml.Date
import Scoreboard.Toml.Document
import Scoreboard.Toml.Draft
import Scoreboard.Toml.Excerpt
import Scoreboard.Toml.Key
import Scoreboard.Toml.Number
import Scoreboard.Toml.Problem
import Scoreboard.Toml.Quoted
import Scoreboard.Toml.Reader
import Scoreboard.Proofs.Page.WellFormed
import Scoreboard.Proofs.Page.Tags
import Scoreboard.Proofs.Sort.Exchange
import Scoreboard.Proofs.Sort.Loop
import Scoreboard.Proofs.Sort.Insertion
import Scoreboard.Proofs.Sort.Placement
import Scoreboard.Proofs.Number.Rounding
import Scoreboard.Proofs.List
import Scoreboard.Proofs.Number.Decimal
import Scoreboard.Proofs.Text.Digit
import Scoreboard.Proofs.Text.Spelling
import Scoreboard.Proofs.Cell.Key
import Scoreboard.Proofs.Cell.Order
import Scoreboard.Proofs.Cell.Kind
import Scoreboard.Proofs.Cell.Stamp
import Scoreboard.Proofs.Cell.Year
import Scoreboard.Proofs.Cell.Numeral
import Scoreboard.Proofs.Cell.Score
import Scoreboard.Proofs.Cell.Magnitude
import Scoreboard.Proofs.Cell.Spelling
import Scoreboard.Proofs.Sort.Stable
import Scoreboard.Proofs.Sort.Block
import Scoreboard.Proofs.Sort.Laws
import Scoreboard.Proofs.Grid.Click
import Scoreboard.Proofs.Grid.Run
import Scoreboard.Proofs.Grid.Visibility
import Scoreboard.Proofs.Grid.Axes
import Scoreboard.Proofs.Grid.Edit
import Scoreboard.Proofs.Grid.Refusal
import Scoreboard.Proofs.Grid.Rows
import Scoreboard.Proofs.Grid.Repeat
import Scoreboard.Proofs.Grid.Independence
import Scoreboard.Proofs.Grid.Indicator
import Scoreboard.Proofs.Grid.Fold
import Scoreboard.Proofs.Grid.Flip
import Scoreboard.Proofs.Grid.Clock
import Scoreboard.Proofs.Feed.Account
import Scoreboard.Proofs.Feed.Distinct
import Scoreboard.Proofs.Feed.Events
import Scoreboard.Proofs.Feed.Refusal
import Scoreboard.Proofs.Feed.Told
import Scoreboard.Proofs.Feed.Lines
import Scoreboard.Proofs.Feed.Written
import Scoreboard.Proofs.Feed.RoundTrip
import Scoreboard.Proofs.Json.Scalar
import Scoreboard.Proofs.Json.Canonical
import Scoreboard.Proofs.Json.Written
import Scoreboard.Proofs.Screen.History
import Scoreboard.Proofs.Screen.Pump
import Scoreboard.Proofs.Screen.Stage
import Scoreboard.Proofs.Screen.Reading
import Scoreboard.Proofs.Screen.Names
import Scoreboard.Proofs.Screen.Table
import Scoreboard.Proofs.Screen.Advance
import Scoreboard.Proofs.Screen.Board
import Scoreboard.Proofs.Screen.Body
import Scoreboard.Proofs.Screen.Offers
import Scoreboard.Proofs.Screen.Memory
import Scoreboard.Proofs.Screen.Link
import Scoreboard.Proofs.Screen.SelectionBar
import Scoreboard.Proofs.Feed.Verdict
import Scoreboard.Proofs.Feed.Index
import Scoreboard.Proofs.Codec.Record
import Scoreboard.Proofs.Codec.Page
import Scoreboard.Proofs.Codec.Address
import Scoreboard.Proofs.Codec.NormalForm
import Scoreboard.Proofs.Codec.Round
import Scoreboard.Proofs.Codec.RoundField
import Scoreboard.Proofs.Toml.Distinct
import Scoreboard.Proofs.Toml.Scalar
import Scoreboard.Proofs.Settings.Field
import Scoreboard.Proofs.Settings.Given
