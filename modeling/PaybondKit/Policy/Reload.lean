import PaybondKit.Agent.Receipt
import PaybondKit.Policy.Loosening
import PaybondKit.Policy.Merge
import PaybondKit.Policy.Validate

/-!
# Policy hot-reload

A reload waits until no tool call is in flight, loads the next policy, validates
it and compares it with the policy it read, and swaps the snapshot of the handle.
Resolving an effective policy and validating remotely are awaited.
-/

namespace PaybondKit.Policy

open Agent
open Coroutine (ofExcept tryExcept tryFinally)

/-- `gateway` says whether a gateway client was passed. -/
structure PaybondPolicyReloadOptions where
  file : Option String := none
  remote : Bool := false
  resolveInheritance : Bool := false
  allowLoosen : Bool := false
  gateway : Bool := false
  deriving DecidableEq, Repr

structure PaybondPolicyReloadResult where
  applied : Bool
  previousDigest : Option String := none
  newDigest : Option String := none
  unchanged : Bool := false
  deriving DecidableEq, Repr

/-! ## Loading -/

/-- 30 seconds, in nanoseconds. -/
def inFlightTimeout : ℕ := 30 * 1000000000

/-- The loop of `_wait_for_in_flight_count`, unrolled `bound` times. -/
def waitForInFlightCount (deadline : ℕ) : ℕ → Routine Unit
  | 0 => Coroutine.cut
  | bound + 1 => do
      let inFlightCount ← access .readInFlightCount
      if 0 < inFlightCount then
        let now ← access .loopTime
        if deadline < now then
          raise (.policyReload "in_flight_timeout"
            "timed out waiting for in-flight tool calls before policy reload")
        else
          host .sleep
          waitForInFlightCount deadline bound
      else return ()

/-- A parser's rejection is raised. -/
def parsed {α : Type} (result : Parsed α) : Routine α :=
  ofExcept (result.mapError .policyValidation)

/-- `handle.policy_digest`. -/
def policyDigest : Routine (Option String) :=
  (Option.map (·.digest)) <$> access .readCurrentSnapshot

section Load

variable (platform : Platform)

/-- `create_policy_snapshot`. -/
def createPolicySnapshot (document : PaybondPolicyDocumentV1) (registry : PaybondToolRegistry)
    (digest : Option String) : PaybondPolicySnapshot where
  digest := (truthyStr (digest.map pyStrip)).getD (platform.documentDigest document)
  registry := registry
  document := document

def snapshotOf (document : PaybondPolicyDocumentV1) (digest : Option String) :
    Routine PaybondPolicySnapshot := do
  let registry ← ofExcept (policyToToolRegistry platform.catalog document)
  return createPolicySnapshot platform document registry digest

/-- `PaybondPolicy._resolve_effective_document`. -/
def resolveEffectiveDocument (sourcePath : String) (document : PaybondPolicyDocument) :
    Routine PaybondPolicyDocumentV1 :=
  match document with
  | .v1 _ => parsed (toEffectivePolicyDocument document)
  | .v2 overlay =>
      match truthyStr (overlay.extends.bind (·.basePolicy)) with
      | none => parsed (toEffectivePolicyDocument document)
      | some basePolicy => do
          let raw ← host (.readBasePolicyFile sourcePath basePolicy)
          let base ← parsed (parsePaybondPolicyDocument raw)
          let merged ← parsed
            (mergePaybondPolicies (fun value => platform.pyStr (.float value)) base overlay {})
          return merged.effective

def loadPolicySnapshotFromFile (filePath : String) : Routine PaybondPolicySnapshot := do
  let raw ← host (.readPolicyFile filePath)
  let document ← parsed (parsePaybondPolicyDocument raw)
  let effective ← resolveEffectiveDocument platform filePath document
  snapshotOf platform effective none

/-- The id of the org policy that an overlay extends. -/
def overlayOrgPolicyId (payload : PyValue) : Except PyExc String := do
  match payload with
  | .dict _ =>
      match ← (parsePaybondPolicyDocument payload).mapError PyExc.policyValidation with
      | .v2 { «extends» := some parent, .. } =>
          let orgPolicyId := pyStrip parent.orgPolicyId
          if orgPolicyId = "" then
            throw (.policyReload "invalid_overlay"
              "poll reload requires extends.org_policy_id on the overlay policy")
          return orgPolicyId
      | _ =>
          throw (.policyReload "invalid_overlay"
            "poll reload requires a v2 tenant overlay policy with extends.org_policy_id")
  | _ => throw (.valueError "overlay must be a JSON or YAML object")

/-- No snapshot means that the gateway found the policy unchanged. -/
def loadPolicySnapshotFromEffectivePoll (overlayPath : String) (currentDigest : Option String) :
    Routine (Option PaybondPolicySnapshot) := do
  let payload ← host (.readPolicyFile overlayPath)
  let orgPolicyId ← ofExcept (overlayOrgPolicyId payload)
  let resolved ← host (.resolvePolicyEffective orgPolicyId payload currentDigest)
  if resolved.unchanged then return none
  else
    let effective ← parsed (parsePaybondPolicyDocumentV1 resolved.effectivePolicy)
    some <$> snapshotOf platform effective (some resolved.effectivePolicyDigest)

/-- `_resolve_reload_snapshot_for_handle`. -/
@[irreducible] def resolveReloadSnapshotForHandle (policyFilePath : Option String)
    (options : PaybondPolicyReloadOptions) : Routine PaybondPolicySnapshot := do
  let filePath := pyStrip (((truthyStr options.file).or (truthyStr policyFilePath)).getD "")
  if filePath = "" then
    raise (.policyReload "missing_policy_file"
      "reload requires a policy file path (pass file or bind with reload.watch/poll)")
  else if options.resolveInheritance && options.gateway then
    let currentDigest ← policyDigest
    match ← loadPolicySnapshotFromEffectivePoll platform filePath currentDigest with
    | none => raise .policyReloadUnchanged
    | some snapshot => return snapshot
  else
    let snapshot ← loadPolicySnapshotFromFile platform filePath
    let digest ← policyDigest
    if truthyStr digest = some snapshot.digest then raise .policyReloadUnchanged
    else return snapshot

end Load

/-! ## Validating and applying -/

section Apply

variable (platform : Platform)

/-- The message of a failed validation: its first issue. -/
def issueMessage (fallback : String) (issues : List (String × String)) : String :=
  match issues.head? with
  | some issue => s!"{issue.1}: {issue.2}"
  | none => fallback

def validateLocally (document : PaybondPolicyDocumentV1) : Routine Unit := do
  let strict ← host .isStrictFromEnv
  let report := validateDocument platform.catalog document strict
  if report.valid then return ()
  else
    raise (.policyReload "local_validate_failed"
      (issueMessage "local policy validation failed"
        (report.errors.map fun issue => (issue.path, issue.message))))

def validateRemotely (document : PaybondPolicyDocumentV1)
    (options : PaybondPolicyReloadOptions) : Routine Unit :=
  if options.remote && options.gateway then do
    let strict ← host .isStrictFromEnv
    let report ← host (.validatePolicyRemote document options.resolveInheritance strict)
    if report.valid then return ()
    else
      raise (.policyReload "remote_validate_failed"
        (issueMessage "remote policy validation failed"
          (report.errors.map fun issue => (issue.path, issue.message))))
  else return ()

/-- The checks that follow the validations. -/
def checkReplacement (previous : Option PaybondPolicyDocumentV1)
    (snapshot : PaybondPolicySnapshot) (options : PaybondPolicyReloadOptions)
    (allowedTools : List String) : Except PyExc Unit := do
  if !allowedTools.isEmpty && requiresIntentRebind snapshot.document allowedTools then
    throw (.policyReload "intent_rebind_required" ("reloaded policy requires allowed_tools " ++
      "outside the bound intent; re-bind with a new intent"))
  match previous with
  | some previous =>
      if !options.allowLoosen then
        let loosening := detectPolicyLoosening previous snapshot.document
        if loosening ≠ [] then
          throw (.policyReload "loosening_denied"
            ("policy loosening denied: " ++ "; ".intercalate loosening))
  | none => pure ()
  if !allowedTools.isEmpty then snapshot.registry.validateForBind allowedTools

theorem checkReplacement_detects {previous : PaybondPolicyDocumentV1}
    {snapshot : PaybondPolicySnapshot} {options : PaybondPolicyReloadOptions}
    {allowedTools : List String}
    (hcheck : checkReplacement (some previous) snapshot options allowedTools = .ok ())
    (hdeny : options.allowLoosen = false) :
    detectPolicyLoosening previous snapshot.document = [] := by
  by_contra hloosening
  unfold checkReplacement at hcheck
  simp only [hdeny, Bool.not_false, if_true, ne_eq, hloosening, not_false_eq_true] at hcheck
  split at hcheck
  · cases hcheck
  · cases hcheck

/-- Swap the snapshot unless its digest is the current one. -/
def applyIfChanged (snapshot : PaybondPolicySnapshot) : Routine PaybondPolicyReloadResult := do
  let previousDigest ← policyDigest
  if truthyStr previousDigest = some snapshot.digest then
    return { applied := false, previousDigest, newDigest := some snapshot.digest
             unchanged := true }
  else
    access (.applyPolicySnapshot snapshot)
    return { applied := true
             previousDigest := (truthyStr previousDigest).or (some snapshot.digest)
             newDigest := some snapshot.digest }

/-- `_validate_and_apply_policy_snapshot`. -/
def validateAndApplyPolicySnapshot (snapshot : PaybondPolicySnapshot)
    (options : PaybondPolicyReloadOptions) (allowedTools : List String) :
    Routine PaybondPolicyReloadResult := do
  let current ← access .readCurrentSnapshot
  validateLocally platform snapshot.document
  validateRemotely snapshot.document options
  ofExcept (checkReplacement (current.map (·.document)) snapshot options allowedTools)
  applyIfChanged snapshot

/-- The tools that the current snapshot's intent allows. -/
def snapshotAllowedTools (current : Option PaybondPolicySnapshot) : List String :=
  ((current.bind (·.document.intent)).map (·.allowedTools)).getD []

def reloadPolicyOnHandle (policyFilePath : Option String) (options : PaybondPolicyReloadOptions)
    (allowedTools : Option (List String)) (bound : ℕ) : Routine PaybondPolicyReloadResult := do
  let started ← access .loopTime
  waitForInFlightCount (started + inFlightTimeout) bound
  let resolved ← tryExcept
    (Sum.inr <$> resolveReloadSnapshotForHandle platform policyFilePath options)
    fun exception =>
      match exception with
      | .policyReloadUnchanged => do
          let digest ← policyDigest
          return Sum.inl
            { applied := false, previousDigest := digest, newDigest := digest, unchanged := true }
      | _ => raise exception
  match resolved with
  | .inl unchanged => return unchanged
  | .inr snapshot => do
      let allowedTools ←
        match allowedTools with
        | some allowedTools => pure allowedTools
        | none => snapshotAllowedTools <$> access .readCurrentSnapshot
      validateAndApplyPolicySnapshot platform snapshot options allowedTools

def reloadPolicyOnRun (binding : PaybondRunBinding) (options : PaybondPolicyReloadOptions)
    (bound : ℕ) : Routine PaybondPolicyReloadResult :=
  reloadPolicyOnHandle platform binding.policyFilePath options (some binding.allowedTools) bound

/-- `PaybondAgentRun.reload_policy`: the listeners hear of a swap and of a failure. -/
def reloadPolicy (binding : PaybondRunBinding) (options : PaybondPolicyReloadOptions)
    (bound : ℕ) : Routine PaybondPolicyReloadResult :=
  let body : Routine PaybondPolicyReloadResult := do
    let result ← reloadPolicyOnRun platform binding options bound
    match result.applied, truthyStr result.previousDigest, truthyStr result.newDigest with
    | true, some previousDigest, some newDigest => do
        host (.emitReload (.policyReloaded previousDigest newDigest))
        return result
    | _, _, _ => return result
  tryExcept body fun exception =>
    if exception.isException then do
      host (.emitReload (.policyReloadFailed exception))
      raise exception
    else raise exception

end Apply

/-! ## Background triggers -/

/-- The poll configuration of a reload controller. -/
structure PaybondPolicyReloadPollConfig where
  remote : Option Bool := none
  resolveInheritance : Option Bool := none
  gateway : Bool := false
  deriving DecidableEq, Repr

/-- A file change or a tick of the poll timer. -/
inductive ReloadTrigger where
  | fileWatch
  | gatewayPoll
  deriving DecidableEq, Repr

/-- The options of a triggered reload. None of them allows loosening. -/
def triggerOptions (policyFilePath : String) (poll : PaybondPolicyReloadPollConfig)
    (trigger : ReloadTrigger) : PaybondPolicyReloadOptions :=
  match trigger with
  | .fileWatch =>
      { file := some policyFilePath, remote := false
        resolveInheritance := poll.resolveInheritance.getD false, gateway := poll.gateway }
  | .gatewayPoll =>
      { file := some policyFilePath, remote := poll.remote.getD true
        resolveInheritance := poll.resolveInheritance.getD true, gateway := poll.gateway }

/-- `_trigger_reload`: a trigger that finds another one at work is dropped. -/
def triggerReload (platform : Platform) (binding : PaybondRunBinding)
    (options : PaybondPolicyReloadOptions) (bound : ℕ) : Routine Unit := do
  let atWork ← access .beginTriggeredReload
  if atWork then return ()
  else
    let body : Routine Unit := tryExcept
      (do let _ ← reloadPolicy platform binding options bound)
      fun exception => if exception.isException then return () else raise exception
    tryFinally body (access .endTriggeredReload)

end PaybondKit.Policy
