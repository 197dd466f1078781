import AgentRuntime.Api.ApprovalListing
import AgentRuntime.Api.Approvals
import AgentRuntime.Api.IdempotencyKey
import AgentRuntime.Api.IdempotencyMiddleware
import AgentRuntime.Api.IdempotentReplay
import AgentRuntime.Api.RateLimitMiddleware
import AgentRuntime.Api.RateLimitUnits
import AgentRuntime.Api.RequestProtocol
import AgentRuntime.Api.Requests
import AgentRuntime.Auth.Password
import AgentRuntime.Auth.Revocation
import AgentRuntime.Cache.BudgetCache
import AgentRuntime.Cache.EphemeralEntries
import AgentRuntime.Cache.EphemeralMemoryCache
import AgentRuntime.Cache.FlatMap
import AgentRuntime.Cache.IdempotencyStore
import AgentRuntime.Cache.MemoryTexts
import AgentRuntime.Cache.RateLimitBound
import AgentRuntime.Cache.RateLimiter
import AgentRuntime.Cache.Redis
import AgentRuntime.Cache.RedisServer
import AgentRuntime.Cache.RunBudgetEntries
import AgentRuntime.Cache.SessionEntries
import AgentRuntime.Cache.SessionHistory
import AgentRuntime.Concurrency.CancellationFlags
import AgentRuntime.Concurrency.CancellationRequests
import AgentRuntime.Concurrency.ConcurrentRuns
import AgentRuntime.Concurrency.CreatedRuns
import AgentRuntime.Concurrency.IdempotentRequests
import AgentRuntime.Concurrency.KeyReuse
import AgentRuntime.Concurrency.LeaseExclusivity
import AgentRuntime.Concurrency.OneDecision
import AgentRuntime.Concurrency.OutboxBacklog
import AgentRuntime.Concurrency.OutboxDelivery
import AgentRuntime.Concurrency.OutboxHistory
import AgentRuntime.Concurrency.Publisher
import AgentRuntime.Concurrency.RecordedCosts
import AgentRuntime.Concurrency.SessionMessages
import AgentRuntime.Concurrency.SinglePublished
import AgentRuntime.Concurrency.TenantSpending
import AgentRuntime.Concurrency.TerminalStates
import AgentRuntime.Concurrency.ToolRate
import AgentRuntime.Db.AgentRepository
import AgentRuntime.Db.AgentSession
import AgentRuntime.Db.ApprovalRepository
import AgentRuntime.Db.GrantRoundTrip
import AgentRuntime.Db.Groups
import AgentRuntime.Db.OutboxRepository
import AgentRuntime.Db.PublishRefinement
import AgentRuntime.Db.RunRepository
import AgentRuntime.Db.RunRoundTrip
import AgentRuntime.Db.Store
import AgentRuntime.Db.UsageRepository
import AgentRuntime.Domain.Agent
import AgentRuntime.Domain.AgentHistory
import AgentRuntime.Domain.AgentUpdate
import AgentRuntime.Domain.EndedRuns
import AgentRuntime.Domain.LegacyGrant
import AgentRuntime.Domain.MoneyConversion
import AgentRuntime.Domain.PolicyDecisions
import AgentRuntime.Domain.RunBudget
import AgentRuntime.Domain.RunLease
import AgentRuntime.Domain.RunLog
import AgentRuntime.Domain.RunOperation
import AgentRuntime.Domain.TerminalEvents
import AgentRuntime.Domain.TokenCosts
import AgentRuntime.Domain.UsageRecord
import AgentRuntime.Health.DegradationMonitor
import AgentRuntime.Interaction.BigStep
import AgentRuntime.Interaction.History
import AgentRuntime.Interaction.Loop
import AgentRuntime.Interaction.Noninterference
import AgentRuntime.Interaction.Pool
import AgentRuntime.Interaction.Protocol
import AgentRuntime.Interaction.Transaction
import AgentRuntime.Observability.LogRedaction
import AgentRuntime.Providers.Adapters
import AgentRuntime.Providers.BreakerInvariant
import AgentRuntime.Providers.CircuitBreaker
import AgentRuntime.Providers.Fallback
import AgentRuntime.Providers.FallbackClasses
import AgentRuntime.Providers.HalfOpenAdmission
import AgentRuntime.Providers.RetryBounds
import AgentRuntime.Providers.TripHistory
import AgentRuntime.Python.Characters
import AgentRuntime.Python.Ranking
import AgentRuntime.Python.Regex
import AgentRuntime.Python.Replace
import AgentRuntime.Python.Words
import AgentRuntime.Security.Encryption
import AgentRuntime.Security.KeyCalls
import AgentRuntime.Security.RedisRateLimiter
import AgentRuntime.Services.CompletedCancellations
import AgentRuntime.Services.DenyEnforcement
import AgentRuntime.Services.ExpiredMemory
import AgentRuntime.Services.FallbackAvailability
import AgentRuntime.Services.FallbackService
import AgentRuntime.Services.FilteredRetrieval
import AgentRuntime.Services.LimitedTools
import AgentRuntime.Services.MemoryCleanupService
import AgentRuntime.Services.MemoryQuota
import AgentRuntime.Services.Observers
import AgentRuntime.Services.ProviderBreakers
import AgentRuntime.Services.ProviderCosts
import AgentRuntime.Services.ProviderReadiness
import AgentRuntime.Services.ProviderService
import AgentRuntime.Services.RateLimitService
import AgentRuntime.Services.Registration
import AgentRuntime.Services.ReportedQuota
import AgentRuntime.Services.RetentionEnforcement
import AgentRuntime.Services.RetrievalIsolation
import AgentRuntime.Services.RunBudgetCheck
import AgentRuntime.Services.ScopeQuota
import AgentRuntime.Services.SessionIsolation
import AgentRuntime.Services.SessionLifecycle
import AgentRuntime.Services.StoredSummaries
import AgentRuntime.Services.TenantBudget
import AgentRuntime.Services.TenantBudgetCheck
import AgentRuntime.Services.ToolCounters
import AgentRuntime.Services.ToolLimits
import AgentRuntime.Text.CanonicalText
import AgentRuntime.Text.Chunker
import AgentRuntime.Text.CompleteRedaction
import AgentRuntime.Text.FallbackChunks
import AgentRuntime.Text.SensitiveData
import AgentRuntime.Text.TextNormalizer
import AgentRuntime.UseCases.Agent
import AgentRuntime.UseCases.ReadYourWrites
import AgentRuntime.UseCases.RunSession
import AgentRuntime.UseCases.RunStatus
import AgentRuntime.Workers.ApprovalPause
import AgentRuntime.Workers.ApprovalResume
import AgentRuntime.Workers.ContainedFailures
import AgentRuntime.Workers.ExecutorLoop
import AgentRuntime.Workers.RunExecutor
import AgentRuntime.Workers.StepFrame
import AgentRuntime.Workers.ToolOutcome
