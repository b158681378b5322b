import Bourse.Decimal.Basic
import Bourse.Decimal.Division
import Bourse.Decimal.Text
import Bourse.Time.Instant
import Bourse.Time.Layout
import Bourse.Time.DurationText
import Bourse.Json.Value
import Bourse.Log.Field
import Bourse.Event.Basic
import Bourse.Event.Validate
import Bourse.Event.Text
import Bourse.Event.View
import Bourse.Alert.Basic
import Bourse.Event.Trade
import Bourse.Matching.PriceTime
import Bourse.Book.Side
import Bourse.Book.Basic
import Bourse.Book.Run
import Bourse.Book.Bars
import Bourse.Book.Script
import Bourse.Portfolio.Basic
import Bourse.Portfolio.TradeLog
import Bourse.Replay.Lifecycle
import Bourse.Book.Desk
import Bourse.Book.DeskView
import Bourse.Text.Printable
import Bourse.Text.Quote
import Bourse.Text.Utf8
import Bourse.Order.Status
import Bourse.Order.Constraints
import Bourse.Order.Tracker
import Bourse.Order.View
import Bourse.Json.Parse
import Bourse.Json.Schema
import Bourse.Json.Record
import Bourse.Gateway.Message
import Bourse.Gateway.Schema
import Bourse.Gateway.Session
import Bourse.Gateway.Translate
import Bourse.Gateway.Reporter
import Bourse.Gateway.Basic
import Bourse.Gateway.Scenario
import Bourse.Gateway.View
import Bourse.Text.Blank
import Bourse.Text.Integer
import Bourse.Text.Csv
import Bourse.Replay.Row
import Bourse.Replay.Interval
import Bourse.Replay.Archive
import Bourse.Replay.Stream
import Bourse.Replay.Source
import Bourse.Replay.Credits
import Bourse.Replay.Clock
import Bourse.Replay.Simulator
import Bourse.Replay.Session
import Bourse.Replay.View
import Bourse.Book.Publisher
import Bourse.Alert.Manager
import Bourse.Alert.Dispatch
import Bourse.Book.Fanout
import Bourse.Command.Flags
import Bourse.Exchange.Floor
import Bourse.Config.Basic
import Bourse.Yaml.Cursor
import Bourse.Yaml.Token
import Bourse.Yaml.Event
import Bourse.Yaml.Token.Scalar
import Bourse.Yaml.Token.Scan
import Bourse.Yaml.Event.Parse
import Bourse.Double.Read
import Bourse.Yaml.Scalar
import Bourse.Yaml.Node
import Bourse.Text.Base64
import Bourse.Yaml.Decode
import Bourse.Config.File
import Bourse.Config.Environment
import Bourse.Config.Load
import Bourse.Disk.Basic
import Bourse.Config.Watch
import Bourse.Log.Schema
import Bourse.Log.Logger
import Bourse.Double.Shortest
import Bourse.Double.Layout
import Bourse.Metrics.Exposition
import Bourse.Metrics.Monitor
import Bourse.Exchange.Basic
import Bourse.Net.Address
import Bourse.Net.Url
import Bourse.Replay.Dial
import Bourse.Exchange.Lifecycle
import Bourse.Text.Lines
import Bourse.PostTrade.Fills
import Bourse.Command.Programs
import Bourse.Config.View
import Bourse.Exchange.Routes
import Bourse.Exchange.Visit
import Bourse.Exchange.View
import Bourse.Gateway.Limiter
import Bourse.Main
import Bourse.Order.Tracking
import Bourse.Proofs.Decimal.Order
import Bourse.Proofs.Book.Rank
import Bourse.Proofs.Matching.FullScan
import Bourse.Proofs.Book.Steps
import Bourse.Proofs.Book.WellFormed
import Bourse.Proofs.Book.Matching
import Bourse.Proofs.Book.History
import Bourse.Proofs.Book.Thinning
import Bourse.Proofs.Run.Calls
import Bourse.Proofs.Run.Specs
import Bourse.Proofs.Run.Reach
import Bourse.Proofs.Run.Arrival
import Bourse.Proofs.Run.Rest
import Bourse.Proofs.Run.Conservation
import Bourse.Proofs.Run.Publication
import Bourse.Proofs.Run.Calm
import Bourse.Proofs.Run.Returns
import Bourse.Proofs.Portfolio.Mirror
import Bourse.Proofs.Portfolio.Follow
import Bourse.Proofs.Run.Agreement
import Bourse.Proofs.Run.Handing
import Bourse.Proofs.Replay.Credits
import Bourse.Proofs.Replay.Feed
import Bourse.Proofs.Replay.Ledger
import Bourse.Proofs.Replay.Balance
import Bourse.Proofs.Text.Integer
import Bourse.Proofs.Decimal.Text
import Bourse.Proofs.Json.Quote
import Bourse.Proofs.Json.Number
import Bourse.Proofs.Json.Object
import Bourse.Proofs.Order.Tracker
import Bourse.Proofs.Gateway.Session
import Bourse.Proofs.Replay.Pacing
import Bourse.Proofs.Gateway.Translate
import Bourse.Proofs.Alert.Throttle
import Bourse.Proofs.Decimal.Division
import Bourse.Proofs.Event.Average
import Bourse.Proofs.Book.Bars
import Bourse.Proofs.Run.BarFeed
import Bourse.Proofs.Replay.StreamIds
import Bourse.Proofs.Config.Reload
import Bourse.Proofs.Text.Lines
import Bourse.Proofs.Json.Decode
import Bourse.Proofs.PostTrade.Read
import Bourse.Proofs.PostTrade.Sums
import Bourse.Proofs.Json.Line
import Bourse.Proofs.PostTrade.Book
