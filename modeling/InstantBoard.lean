import InstantBoard.Admin.Tenants
import InstantBoard.Auth.Accounts
import InstantBoard.Auth.AdminLogin
import InstantBoard.Auth.BruteForce
import InstantBoard.Auth.ClientIp
import InstantBoard.Auth.Counters
import InstantBoard.Auth.ExpiringToken
import InstantBoard.Auth.Identities
import InstantBoard.Auth.Logout
import InstantBoard.Auth.Refresh
import InstantBoard.Auth.Session
import InstantBoard.Auth.SingleUse
import InstantBoard.Auth.SsoHandlers
import InstantBoard.Auth.SsoLogin
import InstantBoard.Auth.Token
import InstantBoard.Auth.Users
import InstantBoard.Auth.Verified
import InstantBoard.Client.DashboardStore
import InstantBoard.Client.FinanceStore
import InstantBoard.Client.Navigation
import InstantBoard.Client.SseConnection
import InstantBoard.Client.SsoFlow
import InstantBoard.Client.TechStore
import InstantBoard.Client.TenantOverrides
import InstantBoard.Collectors.ApiKeys
import InstantBoard.Collectors.Base
import InstantBoard.Collectors.Feeds
import InstantBoard.Collectors.Finnhub
import InstantBoard.Collectors.HackerNews
import InstantBoard.Collectors.Http
import InstantBoard.Collectors.Markets
import InstantBoard.Collectors.Outages
import InstantBoard.Collectors.RateLimit
import InstantBoard.Collectors.Reddit
import InstantBoard.Columns
import InstantBoard.Database.InitDb
import InstantBoard.Finance.Boards
import InstantBoard.Finance.CachedAnswers
import InstantBoard.Finance.Collectors
import InstantBoard.Finance.FailOver
import InstantBoard.Finance.Indices
import InstantBoard.Finance.Lookups
import InstantBoard.Finance.QuoteOf
import InstantBoard.Finance.Quotes
import InstantBoard.Finance.Reorder
import InstantBoard.Finance.Schema
import InstantBoard.Finance.SymbolSearch
import InstantBoard.Finance.Watchlist
import InstantBoard.Lib.Anchor
import InstantBoard.Lib.Backfill
import InstantBoard.Lib.Binary64
import InstantBoard.Lib.Calendar
import InstantBoard.Lib.Cyclic
import InstantBoard.Lib.Deadband
import InstantBoard.Lib.Decimal
import InstantBoard.Lib.Edits
import InstantBoard.Lib.Expiring
import InstantBoard.Lib.Fallible
import InstantBoard.Lib.FirstKept
import InstantBoard.Lib.Gregorian
import InstantBoard.Lib.Halving
import InstantBoard.Lib.Keyspace
import InstantBoard.Lib.LastWrite
import InstantBoard.Lib.Like
import InstantBoard.Lib.Ordered
import InstantBoard.Lib.Paging
import InstantBoard.Lib.Pool
import InstantBoard.Lib.Query
import InstantBoard.Lib.QueryText
import InstantBoard.Lib.ReadCommitted
import InstantBoard.Lib.Rounds
import InstantBoard.Lib.Table
import InstantBoard.Lib.Through
import InstantBoard.Lib.TiedPages
import InstantBoard.Lib.Transition
import InstantBoard.Lib.Unwinding
import InstantBoard.Lib.UrlText
import InstantBoard.Models
import InstantBoard.Processors.Accepted
import InstantBoard.Processors.Base
import InstantBoard.Processors.CanonicalUrl
import InstantBoard.Processors.Categorizer
import InstantBoard.Processors.Dedup
import InstantBoard.Processors.Default
import InstantBoard.Processors.Filter
import InstantBoard.Processors.FilterPromise
import InstantBoard.Processors.Markup
import InstantBoard.Processors.NormalUrl
import InstantBoard.Processors.Summary
import InstantBoard.Processors.TagListing
import InstantBoard.Processors.TagOrder
import InstantBoard.Processors.Transformer
import InstantBoard.Processors.UrlParts
import InstantBoard.Python.Stdlib
import InstantBoard.Python.Text
import InstantBoard.Python.Urllib
import InstantBoard.Python.Value
import InstantBoard.Scheduler.Announced
import InstantBoard.Scheduler.AverageTime
import InstantBoard.Scheduler.Collection
import InstantBoard.Scheduler.Convergence
import InstantBoard.Scheduler.FailClosed
import InstantBoard.Scheduler.Health
import InstantBoard.Scheduler.Heartbeat
import InstantBoard.Scheduler.Intervals
import InstantBoard.Scheduler.Jobs
import InstantBoard.Scheduler.Marks
import InstantBoard.Scheduler.Multiplier
import InstantBoard.Scheduler.Pause
import InstantBoard.Scheduler.Trackers
import InstantBoard.Scheduler.UniqueRows
import InstantBoard.Scheduler.Worker
import InstantBoard.Services.Activation
import InstantBoard.Services.Agreement
import InstantBoard.Services.Category
import InstantBoard.Services.CategoryReads
import InstantBoard.Services.CategoryWrites
import InstantBoard.Services.HealthViews
import InstantBoard.Services.Isolation
import InstantBoard.Services.ItemTags
import InstantBoard.Services.Metrics
import InstantBoard.Services.PagedFeed
import InstantBoard.Services.Quotas
import InstantBoard.Services.Reclassify
import InstantBoard.Services.Source
import InstantBoard.Services.Tech
import InstantBoard.Services.TechCategory
import InstantBoard.Services.TenantSettings
import InstantBoard.Services.VisibleSlugs
import InstantBoard.Sse.CrossProcess
import InstantBoard.Sse.Delivery
import InstantBoard.Sse.ExactlyOnce
import InstantBoard.Sse.Exec
import InstantBoard.Sse.Feeds
import InstantBoard.Sse.Handover
import InstantBoard.Sse.History
import InstantBoard.Sse.Isolation
import InstantBoard.Sse.Message
import InstantBoard.Sse.PublishedOrder
import InstantBoard.Sse.Received
import InstantBoard.Sse.Reconnect
import InstantBoard.Sse.Recorded
import InstantBoard.Sse.Registry
import InstantBoard.Sse.Replay
import InstantBoard.Sse.Router
import InstantBoard.Sse.SlowClient
import InstantBoard.Sse.Streams
import InstantBoard.Sse.Subscriptions
import InstantBoard.Sse.Wire
import InstantBoard.Sse.World
