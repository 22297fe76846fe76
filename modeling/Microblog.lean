import Microblog.Account.Claims
import Microblog.Account.Credentials
import Microblog.Account.HashText
import Microblog.Account.Password
import Microblog.Account.Role
import Microblog.Account.Token
import Microblog.Account.TokenFault
import Microblog.Account.TokenHeader
import Microblog.Account.User
import Microblog.Bytes.Base64
import Microblog.Bytes.Hex
import Microblog.Bytes.Words
import Microblog.Cache.Basic
import Microblog.Cache.KeyValue
import Microblog.Cache.Location
import Microblog.Cache.Memory
import Microblog.Config
import Microblog.Content.Comment
import Microblog.Content.Draft
import Microblog.Content.Post
import Microblog.Decimal.Shortest
import Microblog.Digest.Argon2
import Microblog.Digest.Blake2b
import Microblog.Digest.Hmac
import Microblog.Digest.Row
import Microblog.Digest.Sha256
import Microblog.Failure
import Microblog.Feed.Query
import Microblog.Http.Address
import Microblog.Http.Client
import Microblog.Http.Cors
import Microblog.Http.Headers
import Microblog.Http.MediaType
import Microblog.Http.Percent
import Microblog.Http.Reply
import Microblog.Http.Request
import Microblog.Http.Target
import Microblog.Http.Url
import Microblog.Json.Decode
import Microblog.Json.Fault
import Microblog.Json.Reader
import Microblog.Json.Shape
import Microblog.Json.Shaped
import Microblog.Json.Token
import Microblog.Json.Value
import Microblog.Json.Value.Reader
import Microblog.Limiter
import Microblog.Mail.Mailer
import Microblog.Mail.Provider
import Microblog.Mail.Welcome
import Microblog.Proofs.Account.Credentials
import Microblog.Proofs.Account.Hashing
import Microblog.Proofs.Account.Issuing
import Microblog.Proofs.Account.RoundTrip
import Microblog.Proofs.Account.Verification
import Microblog.Proofs.Bytes.Canonical
import Microblog.Proofs.Cache.Agreement
import Microblog.Proofs.Cache.Gateways
import Microblog.Proofs.Cache.Staleness
import Microblog.Proofs.Chains
import Microblog.Proofs.Feed.Queries
import Microblog.Proofs.Json.Arrays
import Microblog.Proofs.Json.Entities
import Microblog.Proofs.Json.Shapes
import Microblog.Proofs.Json.Tokens
import Microblog.Proofs.Limiter.Budgets
import Microblog.Proofs.Limiter.Counters
import Microblog.Proofs.Limiter.Sweeping
import Microblog.Proofs.Limiter.Waiting
import Microblog.Proofs.Mail.Markup
import Microblog.Proofs.Service.Accounts
import Microblog.Proofs.Service.Activation
import Microblog.Proofs.Service.Admission
import Microblog.Proofs.Service.Authorisation
import Microblog.Proofs.Service.Caching
import Microblog.Proofs.Service.Changes
import Microblog.Proofs.Service.Copies
import Microblog.Proofs.Service.Discussions
import Microblog.Proofs.Service.Effects
import Microblog.Proofs.Service.Enrolment
import Microblog.Proofs.Service.Integrity
import Microblog.Proofs.Service.Lifetimes
import Microblog.Proofs.Service.Operators
import Microblog.Proofs.Service.Orders
import Microblog.Proofs.Service.Paths
import Microblog.Proofs.Service.Planning
import Microblog.Proofs.Service.Refusals
import Microblog.Proofs.Service.Replies
import Microblog.Proofs.Service.Secrecy
import Microblog.Proofs.Service.SigningIn
import Microblog.Proofs.Service.Stops
import Microblog.Proofs.Service.Strangers
import Microblog.Proofs.Service.Transparency
import Microblog.Proofs.Service.Undertakings
import Microblog.Proofs.Service.Validity
import Microblog.Proofs.Service.Withdrawals
import Microblog.Proofs.Sql.Courses
import Microblog.Proofs.Sql.Invitations
import Microblog.Proofs.Sql.Patterns
import Microblog.Proofs.Sql.Registration
import Microblog.Proofs.Sql.Search
import Microblog.Proofs.Store.Blinding
import Microblog.Proofs.Store.Calls
import Microblog.Proofs.Store.Chronology
import Microblog.Proofs.Store.Dates
import Microblog.Proofs.Store.Discussions
import Microblog.Proofs.Store.Editing
import Microblog.Proofs.Store.Feeds
import Microblog.Proofs.Store.Integrity
import Microblog.Proofs.Store.Invitations
import Microblog.Proofs.Store.Isolation
import Microblog.Proofs.Store.Orders
import Microblog.Proofs.Store.Outcomes
import Microblog.Proofs.Store.Reads
import Microblog.Proofs.Store.Records
import Microblog.Proofs.Store.Search
import Microblog.Proofs.Store.Tables
import Microblog.Proofs.Text.Fields
import Microblog.Proofs.Text.FinalSigma
import Microblog.Proofs.Text.LowerCase
import Microblog.Proofs.Time.Calendar
import Microblog.Proofs.Time.ReadBack
import Microblog.Refusal
import Microblog.Service.Access
import Microblog.Service.App
import Microblog.Service.Authentication
import Microblog.Service.Body
import Microblog.Service.Respond
import Microblog.Service.Route
import Microblog.Service.Task
import Microblog.Sql.Comments
import Microblog.Sql.Fault
import Microblog.Sql.Posts
import Microblog.Sql.Row
import Microblog.Sql.Session
import Microblog.Sql.Users
import Microblog.Startup
import Microblog.Store.Basic
import Microblog.Store.Comments
import Microblog.Store.Feed
import Microblog.Store.Follows
import Microblog.Store.Posts
import Microblog.Store.Table
import Microblog.Store.Users
import Microblog.Text.Blank
import Microblog.Text.Cased
import Microblog.Text.Integer
import Microblog.Text.Lower
import Microblog.Text.Pattern
import Microblog.Text.Quoted
import Microblog.Text.Ranges
import Microblog.Text.Split
import Microblog.Text.Utf8
import Microblog.Time.Calendar
import Microblog.Time.Rfc3339
import Microblog.Time.Timestamp
