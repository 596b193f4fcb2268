import StreamBot.Chat.Rehearsal
import StreamBot.Config.Listing
import StreamBot.Main
import StreamBot.Markdown.Strip
import StreamBot.Schema.History
import StreamBot.Schema.Session
import StreamBot.Service.Description
import StreamBot.Web.Encoding
import StreamBot.Proofs.Script.Redefinition
import StreamBot.Proofs.Script.Isolation
import StreamBot.Proofs.Script.Overlap
import StreamBot.Proofs.Script.Progress
import StreamBot.Proofs.Script.Reporting
import StreamBot.Proofs.Script.Climbing
import StreamBot.Proofs.Script.RoundTrip
import StreamBot.Proofs.Script.Effects
import StreamBot.Proofs.Script.Sorting
import StreamBot.Proofs.Bot.Confinement
import StreamBot.Proofs.Bot.Giveaways
import StreamBot.Proofs.Live.Reconciling
import StreamBot.Proofs.Station.Redelivery
import StreamBot.Proofs.Web.Addresses
import StreamBot.Proofs.Station.Entrances
import StreamBot.Proofs.Database.PendingClips
import StreamBot.Proofs.Bot.Reaching
import StreamBot.Proofs.Web.Logins
import StreamBot.Proofs.Web.Settings
import StreamBot.Proofs.Bot.Calling
import StreamBot.Proofs.Bot.Parameters
import StreamBot.Proofs.Bot.Words
import StreamBot.Proofs.Chat.Explaining
import StreamBot.Proofs.Chat.Spacing
import StreamBot.Proofs.Script.Positions
import StreamBot.Proofs.Text.Tidying
import StreamBot.Proofs.Script.Membership
