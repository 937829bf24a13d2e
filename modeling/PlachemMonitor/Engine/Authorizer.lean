import PlachemMonitor.Auth.OneUse

/-!
# Grant authorizers

What `CoreEngine` asks before it issues a grant of its own: `GrantAuthorizer` is the part of an
authorizer that decides, over a state of its own. `DirectIngressGrantAuthorizer` holds one-use
registrations in memory, `CompositeGrantAuthorizer` routes to the one owner of a run.
-/

namespace Plachem

namespace AuthBroker

/-- The grant that an authorizer asks the broker for. -/
structure Admission where
  scope : AuthScope
  ttl_positive : Bool
  ttl_ms : Int
  created_by : String

/-- A context manager: `admits` decides up to the grant that it asks the broker for, `settle` is
what it does when the grant has been consumed. -/
structure GrantAuthorizer (ρ : Type) where
  owns_run : String → Bool
  admits : ρ → AuthScope → Int → ρ × Except AuthError Admission
  settle : ρ → AuthScope → Int → ρ × Except AuthError Unit

/-- `str(scope.task_contract.get("core_run_id") or "")`: a text in every scope of the engine. -/
def run_id (scope : AuthScope) : String :=
  match scope.task_contract.get? "core_run_id" with
  | some (.str id) => id
  | _ => ""

namespace DirectIngressGrantAuthorizer

/-- `_PendingDirectGrant`, under the run that it is for. -/
structure Pending where
  core_run_id : String
  task_digest : String
  expires_at_ms : Int
  deriving DecidableEq

def owns_run (core_run_id : String) : Bool := "direct-".toList.isPrefixOf core_run_id.toList

/-- `_prune_locked` -/
def prune (pending : List Pending) (current : Int) : List Pending :=
  pending.filter fun p => decide (current < p.expires_at_ms)

/-- `self._pending.pop(run_id, None)` -/
def pop (pending : List Pending) (run_id : String) : Option Pending × List Pending :=
  (pending.find? fun p => p.core_run_id == run_id,
    pending.filter fun p => p.core_run_id != run_id)

/-- `register`, with the clock at its two readings: `now_ms` for the registration, and `locked_ms` when
it has the lock. -/
def register (H : Hashlib) (pending : List Pending) (core_run_id : String) (scope : AuthScope)
    (ttl_seconds now_ms locked_ms : Int) : List Pending × Except AuthError Unit :=
  if owns_run core_run_id = false ∨ ttl_seconds ≤ 0 then
    (pending, .error (error "AUTH_REQUIRED"))
  else
    match canonical_task_digest H scope with
    | .error e => (pending, .error e)
    | .ok task_digest =>
      let pending := prune pending locked_ms
      match pending.find? fun p => p.core_run_id == core_run_id with
      | some existing =>
        if existing.task_digest ≠ task_digest then (pending, .error (error "CONFLICT"))
        else
          ((pop pending core_run_id).2 ++ [⟨core_run_id, task_digest, now_ms + ttl_seconds * 1000⟩],
            .ok ())
      | none =>
        (pending ++ [⟨core_run_id, task_digest, now_ms + ttl_seconds * 1000⟩], .ok ())

/-- `authorize`, up to `broker.issue` -/
def admits (H : Hashlib) (pending : List Pending) (scope : AuthScope) (now_ms : Int) :
    List Pending × Except AuthError Admission :=
  match pop (prune pending now_ms) (run_id scope) with
  | (none, pending) => (pending, .error (error "AUTH_REQUIRED"))
  | (some p, pending) =>
    if p.expires_at_ms ≤ now_ms then (pending, .error (error "EXPIRED"))
    else
      match canonical_task_digest H scope with
      | .error e => (pending, .error e)
      | .ok digest =>
        if p.task_digest ≠ digest then (pending, .error (error "BINDING_MISMATCH"))
        else (pending, .ok ⟨scope, true, 30000, "direct-owner-ingress"⟩)

def authorizer (H : Hashlib) : GrantAuthorizer (List Pending) where
  owns_run := owns_run
  admits := admits H
  settle pending _ _ := (pending, .ok ())

end DirectIngressGrantAuthorizer

namespace CompositeGrantAuthorizer

variable {ρ : Type}

def owns_run (authorizers : List (GrantAuthorizer ρ)) (core_run_id : String) : Bool :=
  authorizers.any fun a => a.owns_run core_run_id

/-- `matches` of `authorize`: the owners of the run. -/
def matching (authorizers : List (GrantAuthorizer ρ)) (scope : AuthScope) :
    List (GrantAuthorizer ρ) :=
  authorizers.filter fun a => a.owns_run (run_id scope)

/-- The authorizers share a state that each changes only in its own part. -/
def authorizer (authorizers : List (GrantAuthorizer ρ)) : GrantAuthorizer ρ where
  owns_run := owns_run authorizers
  admits state scope now_ms :=
    match matching authorizers scope with
    | [a] => a.admits state scope now_ms
    | _ => (state, .error (error "AUTH_REQUIRED"))
  settle state scope now_ms :=
    match matching authorizers scope with
    | [a] => a.settle state scope now_ms
    | _ => (state, .ok ())

end CompositeGrantAuthorizer

end AuthBroker

end Plachem
