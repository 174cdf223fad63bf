import PaybondKit.Policy.Reload

/-!
# Policy reloads of the MCP server

The server's gate keeps one snapshot. It merges what a reload asks for into the options it
was opened with, and reloads for the tools that its last check was about.
-/

namespace PaybondKit.Mcp

open Agent Policy
open Coroutine (tryExcept tryFinally)

inductive McpPolicyReloadMode where
  | off
  | watch
  | poll
  deriving DecidableEq, Repr

structure McpPolicyReloadConfig where
  policyFile : String
  reloadMode : McpPolicyReloadMode
  allowLoosen : Bool := false
  deriving DecidableEq, Repr

/-- Reload options of which some keys are missing. -/
structure PaybondPolicyReloadOverrides where
  file : Option String := none
  remote : Option Bool := none
  resolveInheritance : Option Bool := none
  allowLoosen : Option Bool := none
  gateway : Option Bool := none
  deriving DecidableEq, Repr

/-- `{**defaults, **overrides}`. -/
def mergeOptions (defaults : PaybondPolicyReloadOptions)
    (overrides : PaybondPolicyReloadOverrides) : PaybondPolicyReloadOptions where
  file := overrides.file.or defaults.file
  remote := overrides.remote.getD defaults.remote
  resolveInheritance := overrides.resolveInheritance.getD defaults.resolveInheritance
  allowLoosen := overrides.allowLoosen.getD defaults.allowLoosen
  gateway := overrides.gateway.getD defaults.gateway

namespace McpPolicyReloadConfig

variable (config : McpPolicyReloadConfig) (gateway : Bool)

/-- `_reload_defaults`, as the gate was opened. -/
def reloadDefaults : PaybondPolicyReloadOptions where
  file := some config.policyFile
  remote := config.reloadMode = .poll
  resolveInheritance := config.reloadMode = .poll
  allowLoosen := config.allowLoosen
  gateway := gateway

/-- What the gate's controller asks for, when it has one. -/
def triggerOverrides : Option PaybondPolicyReloadOverrides :=
  match config.reloadMode with
  | .off => none
  | .watch => some { file := some config.policyFile, remote := some false }
  | .poll =>
      some { file := some config.policyFile, remote := some true
             resolveInheritance := some true, gateway := some gateway }

end McpPolicyReloadConfig

section Programs

variable (platform : Agent.Platform) (config : McpPolicyReloadConfig) (gateway : Bool)

/-- `McpPolicyReloadGate.reload_policy`, for the tools of the gate's last check. -/
def reloadPolicy (overrides : PaybondPolicyReloadOverrides) (lastAllowedTools : List String)
    (bound : ℕ) : Agent.Routine PaybondPolicyReloadResult :=
  reloadPolicyOnHandle platform (some config.policyFile)
    (mergeOptions (config.reloadDefaults gateway) overrides)
    (if lastAllowedTools = [] then none else some lastAllowedTools) bound

/-- `_trigger_reload` of the gate's controller. -/
def triggerReload (lastAllowedTools : List String) (bound : ℕ) : Agent.Routine Unit :=
  match config.triggerOverrides gateway with
  | none => return ()
  | some overrides => do
      let atWork ← Agent.access .beginTriggeredReload
      if atWork then return ()
      else
        let body : Agent.Routine Unit := tryExcept
          (do let _ ← reloadPolicy platform config gateway overrides lastAllowedTools bound)
          fun exception => if exception.isException then return () else raise exception
        tryFinally body (Agent.access .endTriggeredReload)

/-- What runs on the event loop of the server and concerns its gate. -/
inductive GateCall where
  | reloadPolicy (overrides : PaybondPolicyReloadOverrides) (lastAllowedTools : List String)
      (bound : ℕ)
  | triggerReload (lastAllowedTools : List String) (bound : ℕ)
  | beginToolCall
  | endToolCall

inductive GateOutcome where
  | reloaded (result : PaybondPolicyReloadResult)
  | done

def gateProgram : GateCall → Agent.Routine GateOutcome
  | .reloadPolicy overrides lastAllowedTools bound =>
      .reloaded <$> reloadPolicy platform config gateway overrides lastAllowedTools bound
  | .triggerReload lastAllowedTools bound =>
      (fun _ => .done) <$> triggerReload platform config gateway lastAllowedTools bound
  | .beginToolCall => (fun _ => .done) <$> Agent.access .beginInFlight
  | .endToolCall => (fun _ => .done) <$> Agent.access .endInFlight

/-- The event loop of the server, as far as its gate is concerned. -/
abbrev runGate (init : RunState) (actions : List (Action GateCall runMachine)) :
    Loop GateCall Agent.Val PyExc GateOutcome RunState :=
  Loop.run runMachine (gateProgram platform config gateway) init actions

end Programs

end PaybondKit.Mcp
