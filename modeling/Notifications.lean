import Notifications.Lib.Machine
import Notifications.Gobble.Job
import Notifications.Lib.Lease
import Notifications.Gobble.Queue
import Notifications.Gobble.System
import Notifications.Gobble.Refinement
import Notifications.Gobble.Exclusivity
import Notifications.Gobble.Fencing
import Notifications.Gobble.Stopping
import Notifications.Gobble.Copies
import Notifications.Postal.Retry
import Notifications.Postal.Backoff
import Notifications.Lib.Program
import Notifications.Models.Connection
import Notifications.Effects
import Notifications.Models.Repos
import Notifications.Postal.Packager
import Notifications.Services
import Notifications.Postal.DeliveryWorker
import Notifications.Postal.Decision
import Notifications.Postal.Unsubscription
import Notifications.Postal.Dropping
import Notifications.Models.Messages
import Notifications.Strategies.Mailer
import Notifications.Strategies.Atomicity
import Notifications.Lib.Contract
import Notifications.Strategies.Interleaving
import Notifications.Strategies.Reporting
import Notifications.Web.Jwt
import Notifications.Web.Authenticator
import Notifications.Models.Preferences
import Notifications.Mail.Client
import Notifications.Mail.Reuse
import Notifications.Mail.Protection
import Notifications.Gobble.Settled
import Notifications.Postal.Resending
import Notifications.Strategies.Queueing
import Notifications.Models.Storing
import Notifications.Services.Registration
import Notifications.Lib.Json
import Notifications.Web.Params
import Notifications.Web.Handlers
import Notifications.Web.Assigning
import Notifications.Strategies.Dispatch
import Notifications.Models.Transactions
import Notifications.Web.System
import Notifications.Web.Authority
import Notifications.Web.Watching
import Notifications.Web.WritingBack
import Notifications.Web.Referring
import Notifications.Web.References
import Notifications.Services.Updating
import Notifications.Services.Builder
import Notifications.Web.Preferences
import Notifications.Web.RoundTrip
import Notifications.Web.Patching
import Notifications.Models.Racing
import Notifications.Postal.Attempts
import Notifications.Postal.Counting
import Notifications.Postal.Terminal
import Notifications.Web.Notifying
import Notifications.Web.Deliverable
import Notifications.Web.Precedence
import Notifications.Web.Operations
import Notifications.Postal.Utilities
import Notifications.Web.ErrorWriter
import Notifications.Postal.Addresses
import Notifications.Postal.Rendering
import Notifications.Lib.Lines
import Notifications.Mail.Data
import Notifications.Postal.Headers
import Notifications.Web.Agreement
import Notifications.Models.Holding
import Notifications.Web.KindIDs
import Notifications.Models.Seeding
import Notifications.Models.Listing
import Notifications.Web.Associations
import Notifications.Web.Housing
import Notifications.Lib.Index
import Notifications.Models.Attempting
import Notifications.Web.AllNotifications
import Notifications.Lib.JsonValues
import Notifications.Web.Templates
import Notifications.Postal.Lateness
import Notifications.Postal.MessageGC
import Notifications.Strategies.Collecting
import Notifications.Strategies.Dating
import Notifications.Strategies.Ageing
import Notifications.Strategies.Surviving
import Notifications.Lib.Fmt
import Notifications.Lib.Regexp
import Notifications.Web.Recipients
import Notifications.Postal.Escaping
import Notifications.Web.BodyAttributes
import Notifications.Web.Pruning
import Notifications.Mail.Formatting
import Notifications.Web.Strictness
import Notifications.Valiant.Validator
import Notifications.Valiant.Assertions
import Notifications.Valiant.Schema
import Notifications.Valiant.Flat
import Notifications.Lib.Matching
import Notifications.Lib.Paths
import Notifications.Web.Mux
import Notifications.Lib.Escape
import Notifications.Web.Paths
import Notifications.Web.Stack
import Notifications.Web.Service
import Notifications.Web.Router
import Notifications.Web.Serving
import Notifications.Web.Permissions
import Notifications.Web.Privacy
import Notifications.Web.Closing
import Notifications.Lib.Base64
import Notifications.Lib.Cfb
import Notifications.Postal.Cloak
import Notifications.Lib.Batching
import Notifications.Postal.Uaa
import Notifications.Postal.Loading
import Notifications.Postal.Tokens
import Notifications.Models.Migrations
import Notifications.Postal.Pages
