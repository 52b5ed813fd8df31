import SystemMenu.Main
import SystemMenu.Proofs.Session.LastUsed
import SystemMenu.Proofs.Session.SearchResults
import SystemMenu.Proofs.Session.FavoritesMap
import SystemMenu.Proofs.Session.FavoritesMenu
import SystemMenu.Proofs.Session.Refilling
import SystemMenu.Proofs.Command.BestMatch
import SystemMenu.Proofs.Command.Columns
import SystemMenu.Proofs.Staging.TitleOverlay
import SystemMenu.Proofs.Staging.Waits
import SystemMenu.Proofs.Staging.Wakeups
import SystemMenu.Proofs.Staging.Watches
import SystemMenu.Proofs.Media.SavedLists
import SystemMenu.Proofs.Media.SharedFiles
import SystemMenu.Proofs.Media.OwnFiles
import SystemMenu.Worker
import SystemMenu.Proofs.Catalog.Validation
import SystemMenu.Proofs.Ranking.Scores
import SystemMenu.Proofs.Listing.TitleColumns
import SystemMenu.Proofs.Listing.FilterLists
import SystemMenu.Proofs.Listing.Credits
import SystemMenu.Proofs.Toml.Strings
import SystemMenu.Proofs.Toml.Values
import SystemMenu.Proofs.Toml.Documents
import SystemMenu.Proofs.Options.RoundTrip
import SystemMenu.Proofs.Text.DictionaryOrder
