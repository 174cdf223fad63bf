import PaybondKit.Foundation.EventLoop
import PaybondKit.Foundation.LazyCell
import PaybondKit.Agent.Types
import PaybondKit.Mcp.ScopeCatalog

/-!
# The runtime of the MCP server

The gateway's principal and the permission model that is made of it, each kept behind
a lock of its own. Calls wait for a lock and for the gateway; other calls run while
they do.
-/

namespace PaybondKit.Mcp

open Agent (PyExc)

/-- The body that `GET /v1/auth/principal` answers. -/
abbrev Principal := OrderedDict String PyValue

structure McpScopeContext where
  restricted : Bool
  scopes : List McpScope
  unresolvedReason : Option String
  deriving DecidableEq, Repr

structure PaybondMCPSettings where
  apiKey : String
  principalPath : String := "/v1/auth/principal"

/-- Letter case, and `str(value)` of what is no string. -/
structure Platform where
  lower : String → String
  pyStr : PyValue → String

/-- `str(value)`. -/
def Platform.str (platform : Platform) : PyValue → String
  | .str value => value
  | value => platform.pyStr value

structure RuntimeState where
  principal : LazyCell Principal := {}
  scopeContext : LazyCell McpScopeContext := {}

inductive RuntimeLock where
  | principal
  | scopeContext
  deriving DecidableEq, Repr

/-- What a call does with the state, at once. -/
inductive Access where
  | tryAcquire (lock : RuntimeLock)
  | release (lock : RuntimeLock)
  | readPrincipal
  | storePrincipal (principal : Principal)
  | readScopeContext
  | storeScopeContext (context : McpScopeContext)

@[reducible] def Access.Answer : Access → Type
  | .tryAcquire _ => Bool
  | .readPrincipal => Option Principal
  | .readScopeContext => Option McpScopeContext
  | .release _ | .storePrincipal _ | .storeScopeContext _ => Unit

def Access.run (state : RuntimeState) : (access : Access) → access.Answer × RuntimeState
  | .tryAcquire .principal =>
      (!state.principal.locked,
        { state with principal := { state.principal with locked := true } })
  | .tryAcquire .scopeContext =>
      (!state.scopeContext.locked,
        { state with scopeContext := { state.scopeContext with locked := true } })
  | .release .principal =>
      ((), { state with principal := { state.principal with locked := false } })
  | .release .scopeContext =>
      ((), { state with scopeContext := { state.scopeContext with locked := false } })
  | .readPrincipal => (state.principal.value, state)
  | .storePrincipal principal =>
      ((), { state with principal := { state.principal with value := some principal } })
  | .readScopeContext => (state.scopeContext.value, state)
  | .storeScopeContext context =>
      ((), { state with scopeContext := { state.scopeContext with value := some context } })

inductive Op where
  | access (access : Access)
  | waitLock (lock : RuntimeLock)
  | getJson (path : String)

@[reducible] def Val : Op → Type
  | .access access => access.Answer
  | .waitLock _ => Unit
  | .getJson _ => Principal

/-- The gateway answers or the request fails. A call that waits is woken or cancelled. -/
@[reducible] def Choice : Op → Type
  | .access _ => Unit
  | .waitLock _ => Bool
  | .getJson _ => Except PyExc Principal

def mcpMachine : Machine Val PyExc RuntimeState where
  suspends
    | .access _ => false
    | .waitLock _ | .getJson _ => true
  Choice := Choice
  apply
    | .access access, _, state => (.ok (access.run state).1, (access.run state).2)
    | .waitLock _, woken, state => (if woken then .ok () else .error .cancelled, state)
    | .getJson _, answer, state => (answer, state)

abbrev Routine := Coroutine Val PyExc

def access (access : Access) : Routine access.Answer := Coroutine.call (Op.access access)

def waitLock (lock : RuntimeLock) : Routine Unit := Coroutine.call (Op.waitLock lock)

def getJson (path : String) : Routine Principal := Coroutine.call (Op.getJson path)

/-! ## Locks -/

/-- `await lock.acquire()`, for the given number of wakeups. -/
def acquire (lock : RuntimeLock) : ℕ → Routine Unit
  | 0 => .cut
  | spins + 1 => do
      let acquired : Bool ← access (.tryAcquire lock)
      if acquired then return ()
      else do
        waitLock lock
        acquire lock spins

/-- `async with lock`. -/
def withLock {α : Type} (lock : RuntimeLock) (spins : ℕ) (body : Routine α) : Routine α := do
  acquire lock spins
  body.tryFinally (access (.release lock))

/-! ## The permission model -/

section Context

variable (platform : Platform) (settings : PaybondMCPSettings)

def apiKeyKind : PaybondApiKeyKind := classifyPaybondApiKey settings.apiKey

def principalKeyKind (principal : Principal) : String :=
  platform.lower (pyStrip (platform.str ((principal.get? "key_kind").getD (.str ""))))

/-- The credential is restricted, by its prefix or by the principal. -/
def restricted (principal : Principal) : Bool :=
  principalKeyKind platform principal = "restricted" || apiKeyKind settings = .restricted

/-- What a readable principal grants. -/
def resolvedContext (principal : Principal) : McpScopeContext where
  restricted := restricted platform settings principal
  scopes := parseMcpScopes platform.lower (principal.getValue "mcp_scopes")
  unresolvedReason := none

/-- The fallback when the principal cannot be read. -/
def unresolvedContext (exception : PyExc) : McpScopeContext :=
  if apiKeyKind settings = .restricted then
    { restricted := true, scopes := [], unresolvedReason := some exception.str }
  else { restricted := false, scopes := [], unresolvedReason := none }

/-- The answer of `scope_denial_for` under a permission model. -/
def scopeDenial (name : String) (context : McpScopeContext) : Option String :=
  if context.restricted = false then none
  else
    match context.unresolvedReason with
    | some reason => some <|
        "Restricted key scopes could not be resolved from the Paybond gateway " ++
          s!"principal: {reason}. Refusing to run {name} until " ++ "the scope grant is readable."
    | none =>
        if toolAllowedByScope name context.scopes then none
        else
          match requiredScopeForTool name with
          | none => some <|
              s!"Tool blocked by restricted key scopes: {name} is not mapped to an MCP " ++
                "scope. Use a standard key or upgrade paybond-kit."
          | some required => some <|
              s!"Tool blocked by restricted key scopes: {name} requires " ++
                formatMcpScope required

end Context

/-! ## The calls -/

section Calls

variable (platform : Platform) (settings : PaybondMCPSettings) (spins : ℕ)

def principal : Routine Principal :=
  withLock .principal spins do
    match ← (access .readPrincipal : Routine (Option Principal)) with
    | some principal => return principal
    | none => do
        let principal ← getJson settings.principalPath
        access (.storePrincipal principal)
        return principal

/-- `try: return await self.principal()`, with the exception that `except Exception`
catches as a value. -/
def tryPrincipal : Routine (Except PyExc Principal) :=
  (Except.ok <$> principal settings spins).tryExcept fun exception =>
    if exception.isException then return .error exception else .raise exception

def scopeContext : Routine McpScopeContext :=
  withLock .scopeContext spins do
    match ← (access .readScopeContext : Routine (Option McpScopeContext)) with
    | some context => return context
    | none => do
        match ← tryPrincipal settings spins with
        | .error exception => do
            let context := unresolvedContext settings exception
            access (.storeScopeContext context)
            return context
        | .ok principal => do
            let context := resolvedContext platform settings principal
            access (.storeScopeContext context)
            return context

def scopeDenialFor (name : String) : Routine (Option String) :=
  scopeDenial name <$> scopeContext platform settings spins

def preloadPrincipal : Routine Unit := do
  let _ ← principal settings spins
  return ()

def tenantId : Routine String := do
  let body ← principal settings spins
  let tenantId := pyStrip (platform.str ((body.get? "tenant_id").getD (.str "")))
  if tenantId = "" then .raise (.runtimeError "gateway principal response missing tenant_id")
  else return tenantId

end Calls

inductive McpCall where
  | scopeDenialFor (name : String)
  | scopeContext
  | preloadPrincipal
  | tenantId
  deriving DecidableEq, Repr

/-- The calls that settle the permission model. -/
def McpCall.ResolvesScope : McpCall → Prop
  | .scopeDenialFor _ | .scopeContext => True
  | .preloadPrincipal | .tenantId => False

instance : DecidablePred McpCall.ResolvesScope
  | .scopeDenialFor _ | .scopeContext => isTrue trivial
  | .preloadPrincipal | .tenantId => isFalse id

inductive McpOutcome where
  | denial (message : Option String)
  | context (context : McpScopeContext)
  | preloaded
  | tenant (tenantId : String)
  deriving DecidableEq, Repr

def program (platform : Platform) (settings : PaybondMCPSettings) (spins : ℕ) :
    McpCall → Routine McpOutcome
  | .scopeDenialFor name => .denial <$> scopeDenialFor platform settings spins name
  | .scopeContext => .context <$> scopeContext platform settings spins
  | .preloadPrincipal => (fun _ => .preloaded) <$> preloadPrincipal settings spins
  | .tenantId => .tenant <$> tenantId platform settings spins

/-- The runtime after the scheduler, the gateway and cancellations have had their way. -/
abbrev runMcp (platform : Platform) (settings : PaybondMCPSettings) (spins : ℕ)
    (actions : List (Action McpCall mcpMachine)) : Loop McpCall Val PyExc McpOutcome RuntimeState :=
  Loop.run mcpMachine (program platform settings spins) {} actions

abbrev McpEvent := Event Val PyExc McpOutcome
abbrev McpStep := Step Val PyExc McpOutcome RuntimeState
abbrev McpEntry := Entry McpCall Val PyExc McpOutcome RuntimeState

end PaybondKit.Mcp
