import PaybondKit.Foundation.Coroutine
import PaybondKit.Foundation.Answers
import PaybondKit.Foundation.Dialogue
import PaybondKit.Foundation.EventLoop
import PaybondKit.Foundation.Once
import PaybondKit.Foundation.LazyCell
import PaybondKit.Foundation.Ledger
import PaybondKit.Foundation.Transitions
import PaybondKit.Foundation.OrderedDict
import PaybondKit.Foundation.PyCall
import PaybondKit.Foundation.PyValue
import PaybondKit.Foundation.PyNumber
import PaybondKit.Foundation.Leaves
import PaybondKit.Foundation.MappingOrder
import PaybondKit.Foundation.Json
import PaybondKit.Foundation.PyJson
import PaybondKit.Policy.Schema
import PaybondKit.Policy.SchemaValid
import PaybondKit.Policy.Merge
import PaybondKit.Policy.MergeSound
import PaybondKit.Policy.MergeBudget
import PaybondKit.Agent.Types
import PaybondKit.Agent.Registry
import PaybondKit.Policy.Registry
import PaybondKit.Policy.MergeOperations
import PaybondKit.Policy.Loosening
import PaybondKit.Policy.Validate
import PaybondKit.Agent.AuthorizationCache
import PaybondKit.Agent.Runtime
import PaybondKit.Agent.Receipt
import PaybondKit.Agent.SpendGuard
import PaybondKit.Agent.Interceptor
import PaybondKit.Agent.Idle
import PaybondKit.Policy.Reload
import PaybondKit.Policy.Watcher
import PaybondKit.Agent.Calls
import PaybondKit.Agent.CallView
import PaybondKit.Agent.CallSteps
import PaybondKit.Agent.InterceptorSteps
import PaybondKit.Policy.ReloadSteps
import PaybondKit.Agent.Evidence
import PaybondKit.Agent.Finalisation
import PaybondKit.Agent.SingleUse
import PaybondKit.Agent.Reservations
import PaybondKit.Agent.PinnedDigest
import PaybondKit.Policy.Quiescence
import PaybondKit.Policy.ReloadRace
import PaybondKit.Policy.Digest
import PaybondKit.Policy.SchemaForm
import PaybondKit.Policy.DigestForm
import PaybondKit.Policy.MergeSchema
import PaybondKit.Policy.IntentSpec
import PaybondKit.Mcp.PolicyReload
import PaybondKit.Policy.SnapshotDigest
import PaybondKit.Agent.Instrument
import PaybondKit.Policy.Compose
import PaybondKit.Policy.ComposeSchema
import PaybondKit.Policy.ComposeTightens
import PaybondKit.Agent.InlinePolicy
import PaybondKit.Agent.Adapter
import PaybondKit.Agent.LazyRuntime
import PaybondKit.Agent.TraceReporter
import PaybondKit.Policy.SpendGate
import PaybondKit.Agent.SpendBound
import PaybondKit.Agent.GatewayRetry
import PaybondKit.Agent.OneReservation
import PaybondKit.Mcp.ScopeCatalog
import PaybondKit.Mcp.Runtime
import PaybondKit.Mcp.ScopeGate
import PaybondKit.Receipt.Tokens
import PaybondKit.Receipt.Fields
import PaybondKit.Receipt.Sections
import PaybondKit.Receipt.AgentReceipt
import PaybondKit.Receipt.Canonical
import PaybondKit.Receipt.Hex
import PaybondKit.Receipt.Verify
import PaybondKit.Receipt.ReadBack
import PaybondKit.Receipt.SignedPart
import PaybondKit.Receipt.Idempotent
import PaybondKit.Receipt.Draft
import PaybondKit.Receipt.Reported
import PaybondKit.Receipt.Acceptance
import PaybondKit.Foundation.HashChain
import PaybondKit.Foundation.Mentions
import PaybondKit.Foundation.MerkleTree
import PaybondKit.Receipt.Continuity
import PaybondKit.Receipt.Inclusion
import PaybondKit.Foundation.ByteReader
import PaybondKit.Receipt.ScittCbor
import PaybondKit.Receipt.Scitt
import PaybondKit.Harbor.Recognition
import PaybondKit.Harbor.Funding
import PaybondKit.Mcp.Redact
import PaybondKit.Adapters.Arguments
import PaybondKit.Adapters.Frameworks
import PaybondKit.Adapters.Enforcement
import PaybondKit.Adapters.ToolResults
import PaybondKit.Foundation.JsonLoads
import PaybondKit.Foundation.PyEquality
import PaybondKit.Receipt.Hpke
import PaybondKit.Receipt.OwnerDisclosure
import PaybondKit.Receipt.JsonDigest
import PaybondKit.Receipt.Sep2828
import PaybondKit.Foundation.TypedData
import PaybondKit.Receipt.X402
import PaybondKit.Receipt.X402Evidence
import PaybondKit.Receipt.ScittReading
import PaybondKit.Foundation.JsonCharacters
import PaybondKit.Receipt.Sep2828Attestations
import PaybondKit.Foundation.CodeOrder
import PaybondKit.Native.SerdeJson
import PaybondKit.Native.SignedIntent
import PaybondKit.Foundation.Bincode
import PaybondKit.Native.IntentCreation
import PaybondKit.Foundation.Utf16
import PaybondKit.Foundation.EcmaNumber
import PaybondKit.Foundation.Jcs
import PaybondKit.Receipt.JcsBytes
import PaybondKit.Foundation.Ending
import PaybondKit.Receipt.DraftForm
import PaybondKit.Receipt.DraftMissing
import PaybondKit.Receipt.TierLadder
import PaybondKit.Policy.ComposeCommutes
import PaybondKit.Foundation.Recency
import PaybondKit.Foundation.TimedCalls
import PaybondKit.Mcp.TokenCache
import PaybondKit.Mcp.RateLimiter
import PaybondKit.Harbor.CommerceBinding
import PaybondKit.Agent.GuardedNames
import PaybondKit.Receipt.Identities
import PaybondKit.Receipt.Pef
import PaybondKit.Native.EvidenceSign
import PaybondKit.Foundation.Base64
import PaybondKit.Agent.AttachBundle
import PaybondKit.Foundation.Brackets
import PaybondKit.Agent.InFlightCount
import PaybondKit.Dev.TraceBuffer
import PaybondKit.Agent.RegistryFile
import PaybondKit.Foundation.PyLines
import PaybondKit.Agent.RegistryText
import PaybondKit.Foundation.IpAddress
import PaybondKit.Harbor.GatewayUrl
import PaybondKit.Policy.ParseText
import PaybondKit.Policy.YamlLayout
import PaybondKit.Policy.ValidateFile
import PaybondKit.Policy.YamlContributions
import PaybondKit.Policy.YamlPrinted
import PaybondKit.Policy.PrintedLines
import PaybondKit.Policy.Scaffold
import PaybondKit.Policy.ScaffoldText
import PaybondKit.Policy.YamlStrings
import PaybondKit.Policy.ScaffoldLoads
import PaybondKit.Cli.EnvFile
import PaybondKit.Cli.EnvLines
import PaybondKit.Cli.EnvQuotes
import PaybondKit.Cli.EnvWrites
