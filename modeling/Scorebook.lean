import Scorebook.Text.Blank
import Scorebook.Text.Search
import Scorebook.Text.Numeral
import Scorebook.Text.Case
import Scorebook.Text.Quoted
import Scorebook.Binary64.Decimal
import Scorebook.Calendar.Instant
import Scorebook.Uuid
import Scorebook.Json.Reading
import Scorebook.Json.Writing
import Scorebook.Side
import Scorebook.Outs
import Scorebook.Franchise.History
import Scorebook.Franchise.League
import Scorebook.GameId
import Scorebook.Stat.Batting
import Scorebook.Stat.Pitching
import Scorebook.BoxScore.Basic
import Scorebook.Validation
import Scorebook.Outcome
import Scorebook.Roster.Resolution
import Scorebook.Page.Extraction
import Scorebook.Markup.Lexer
import Scorebook.Markup.Parsing
import Scorebook.Page.Reading
import Scorebook.Page.LineupLinks
import Scorebook.Url.Host
import Scorebook.Settings.Loading
import Scorebook.Fetch
import Scorebook.Throttle
import Scorebook.SessionPool
import Scorebook.Store.Reading
import Scorebook.CommandLine.Disk
import Scorebook.Main
import Scorebook.Proofs.Ingest.Schedules
import Scorebook.Proofs.Franchise.Seasons
import Scorebook.Proofs.Ingest.Identifiers
import Scorebook.Proofs.Page.Teams
import Scorebook.Proofs.Ingest.Acceptance
import Scorebook.Proofs.GameId.WireFormat
import Scorebook.Proofs.Ingest.Slots
import Scorebook.Proofs.Ingest.Sessions
import Scorebook.Proofs.Calendar.Timestamps
import Scorebook.Proofs.Store.History
import Scorebook.Proofs.Franchise.Bounded
import Scorebook.Proofs.Franchise.Consistency
import Scorebook.Proofs.Roster.Match
import Scorebook.Proofs.BoxScore.Appearances
import Scorebook.Proofs.Roster.Resolution
import Scorebook.Proofs.Page.Rows
import Scorebook.Proofs.Page.Records
import Scorebook.Proofs.Conservation
import Scorebook.Proofs.Page.Layout
import Scorebook.Proofs.BoxScore.Extras
import Scorebook.Proofs.Page.Labels
import Scorebook.Proofs.Page.Players
import Scorebook.Proofs.Page.Extras
import Scorebook.Proofs.Page.Lossless
import Scorebook.Proofs.Page.Boards
import Scorebook.Proofs.Ingest.Writes
import Scorebook.Proofs.Ingest.Flagging
import Scorebook.Proofs.Ingest.Lineups
import Scorebook.Proofs.Outs
import Scorebook.Proofs.Uuid
import Scorebook.Proofs.Review
import Scorebook.Proofs.Store.Rosters
import Scorebook.Proofs.Store.Logs
import Scorebook.Proofs.Page.DataRows
import Scorebook.Proofs.Outs.Totals
import Scorebook.Proofs.Page.Relevance
import Scorebook.Proofs.Page.Info
