/-
# Tunneller nodes over one route table

Any number of nodes accept tunnel connections, each keeping its own registry;
all of them share the route table and read Tenants over the mesh. A connection
claims the route row, registers, serves until the tunnel ends, and cleans up.
The abort reaper of a node walks the rows the node owns; the TTL reaper purges
stale rows. A database statement, a mesh read and a registry operation are each
one atomic call.
-/

import Wardnet.Base.Pool
import Wardnet.Tenants.Directory
import Wardnet.Tunnel.Registry

namespace Wardnet.Tunnel

open Base Tenants TunnelRegistry

/-- All nodes of a region, the table they share, and Tenants. -/
structure Region where
  directory : Directory
  routes : RouteTable
  registry : String → TunnelRegistry

inductive Failure
  | failed
  deriving DecidableEq

inductive Call
  | utcNow
  | getNetwork (networkId : String)
  | getTenant (tenantId : String)
  | upsert (slug nodeAddr networkId tenantId : String) (now : Int)
  | delete (slug nodeAddr : String)
  | listOwned (nodeAddr : String)
  | touch (slug nodeAddr : String) (now : Int)
  | reapExpired (deadline : Int)
  | register (nodeAddr slug networkId tenantId : String)
  | serve (nodeAddr slug : String) (token : ℕ)
  | unregister (nodeAddr slug : String) (generation : UInt64)
  | isCancelled (nodeAddr : String) (token : ℕ)
  | abort (nodeAddr slug : String)
  deriving DecidableEq

@[reducible]
def Call.Resp : Call → Type
  | .utcNow => Int
  | .getNetwork _ => Except Failure (Option NetworkView)
  | .getTenant _ => Except Failure (Option TenantView)
  | .upsert .. => Except Failure Unit
  | .delete .. => Except Failure Bool
  | .listOwned _ => Except Failure (List TunnelRoute)
  | .touch .. => Except Failure Bool
  | .reapExpired _ => Except Failure ℕ
  | .register .. => Registration
  | .serve .. => Unit
  | .unregister .. => Bool
  | .isCancelled .. => Bool
  | .abort .. => Bool

/-- What a call leaves open: the reading of the clock, and whether a database
statement or mesh read fails. -/
structure Choice where
  now : Int
  fails : Bool

namespace Region

def setRegistry (s : Region) (nodeAddr : String) (r : TunnelRegistry) : Region :=
  { s with registry := Function.update s.registry nodeAddr r }

def exec (choice : Choice) : (c : Call) → Region → Option (c.Resp × Region)
  | .utcNow, s => some (choice.now, s)
  | .getNetwork networkId, s =>
    some (if choice.fails then .error .failed else .ok (s.directory.getNetwork networkId), s)
  | .getTenant tenantId, s =>
    some (if choice.fails then .error .failed else .ok (s.directory.getTenant tenantId), s)
  | .upsert slug nodeAddr networkId tenantId now, s =>
    if choice.fails then some (.error .failed, s) else
      some (.ok (), { s with routes := s.routes.upsert slug nodeAddr networkId tenantId now })
  | .delete slug nodeAddr, s =>
    if choice.fails then some (.error .failed, s) else
      some (.ok (s.routes.delete slug nodeAddr).1,
        { s with routes := (s.routes.delete slug nodeAddr).2 })
  | .listOwned nodeAddr, s =>
    some (if choice.fails then .error .failed else .ok (s.routes.listOwned nodeAddr), s)
  | .touch slug nodeAddr now, s =>
    if choice.fails then some (.error .failed, s) else
      some (.ok (s.routes.touch slug nodeAddr now).1,
        { s with routes := (s.routes.touch slug nodeAddr now).2 })
  | .reapExpired deadline, s =>
    if choice.fails then some (.error .failed, s) else
      some (.ok (s.routes.reapExpired deadline).1,
        { s with routes := (s.routes.reapExpired deadline).2 })
  | .register nodeAddr slug networkId tenantId, s =>
    let out := (s.registry nodeAddr).register slug networkId tenantId
    some (out.1, s.setRegistry nodeAddr out.2)
  -- The tunnel may end at any time: closed by the Pi, idle, aborted or displaced.
  | .serve .., s => some ((), s)
  | .unregister nodeAddr slug generation, s =>
    let out := (s.registry nodeAddr).unregister slug generation
    some (out.1, s.setRegistry nodeAddr out.2)
  | .isCancelled nodeAddr token, s => some ((s.registry nodeAddr).isCancelled token, s)
  | .abort nodeAddr slug, s =>
    let out := (s.registry nodeAddr).abort slug
    some (out.1, s.setRegistry nodeAddr out.2)

/-- No call of a node touches Tenants, and every registry only moves on. -/
theorem exec_later {choice : Choice} {c : Call} {s s' : Region} {r : c.Resp}
    (hexec : exec choice c s = some (r, s')) :
    s'.directory = s.directory ∧ ∀ node, (s.registry node).Later (s'.registry node) := by
  have hset : ∀ {node : String} {reg : TunnelRegistry}, (s.registry node).Later reg →
      ∀ node', (s.registry node').Later ((s.setRegistry node reg).registry node') := by
    intro node reg hlater node'
    by_cases heq : node' = node
    · subst heq
      simpa [setRegistry] using hlater
    · simpa [setRegistry, heq] using Later.refl _
  cases c with
  | register node slug networkId tenantId =>
    cases hexec
    exact ⟨rfl, hset (register_later _ _ _ _)⟩
  | unregister node slug generation =>
    cases hexec
    exact ⟨rfl, hset (unregister_later _ _ _)⟩
  | abort node slug =>
    cases hexec
    exact ⟨rfl, hset (abort_later _ _)⟩
  | utcNow | getNetwork | getTenant | listOwned | serve | isCancelled =>
    cases hexec
    exact ⟨rfl, fun node => Later.refl _⟩
  | upsert | delete | touch | reapExpired =>
    simp only [exec] at hexec
    split at hexec <;> cases hexec <;>
      exact ⟨rfl, fun node => Later.refl _⟩

end Region

abbrev Proc := Prog Call Call.Resp

abbrev issue (c : Call) : Proc c.Resp := perform c

/-! ## Connecting -/

inductive Caller
  | service
  | daemon (network : Option String)
  | user

def internalError {α : Type} (read : Proc (Except Failure α)) : ExceptT ApiError Proc α :=
  ExceptT.mk (read.bind fun r => .ret (r.mapError fun _ => ApiError.internal))

/-- The end of a tunnel handler, after its select loop: give the registration up
if it is still owned, and then the route row unless the tunnel was aborted. -/
def run (slug nodeAddr : String) (reg : Registration) : Proc Unit := do
  issue (.serve nodeAddr slug reg.token)
  let stillOwned ← issue (.unregister nodeAddr slug reg.generation)
  if stillOwned then
    let cancelled ← issue (.isCancelled nodeAddr reg.token)
    if !cancelled then
      let _ ← issue (.delete slug nodeAddr)

/-- The upgrade callback: claim the route row first, then register and serve. -/
def onUpgrade (slug nodeAddr networkId tenantId : String) : Proc Unit := do
  let now ← issue .utcNow
  let claimed ← issue (.upsert slug nodeAddr networkId tenantId now)
  match claimed with
  | .error _ => pure ()
  | .ok _ =>
    let reg ← issue (.register nodeAddr slug networkId tenantId)
    run slug nodeAddr reg

/-- `tunnel_connect`: resolve the network of the token, apply the routing policy
and serve the tunnel. -/
def tunnelConnect (caller : Caller) (nodeAddr : String) : ExceptT ApiError Proc Unit := do
  let .daemon network := caller | throw (.forbidden "daemon credential required")
  let some networkId := network | throw (.forbidden "a network-scoped token is required")
  let some network ← internalError (issue (.getNetwork networkId))
    | throw (.forbidden "network not found")
  if network.provisioningState = .deprovisioning then
    throw (.forbidden "network is deprovisioning")
  let some tenant ← internalError (issue (.getTenant network.tenantId))
    | throw (.forbidden "tenant not found")
  if !tenant.entitled then
    throw (.forbidden "tenant subscription is not active")
  onUpgrade network.slug nodeAddr networkId network.tenantId

/-! ## Reaping -/

/-- `should_abort`: the network is gone or slated for teardown, or its tenant is
gone or has no entitling subscription. -/
def shouldAbort (network : Option NetworkView) (tenant : Option TenantView) : Bool :=
  match network with
  | none => true
  | some n =>
    if n.provisioningState = .deprovisioning then true
    else match tenant with
      | none => true
      | some t => !t.entitled

/-- One row of the abort pass. A failed read skips the row. -/
def reapRow (nodeAddr : String) (row : TunnelRoute) : Proc Unit := do
  let network ← issue (.getNetwork row.networkId)
  match network with
  | .error _ => pure ()
  | .ok network =>
    let tenant ← issue (.getTenant row.tenantId)
    match tenant with
    | .error _ => pure ()
    | .ok tenant =>
      if shouldAbort network tenant then
        let _ ← issue (.abort nodeAddr row.slug)
        let _ ← issue (.delete row.slug nodeAddr)
      else
        let now ← issue .utcNow
        let _ ← issue (.touch row.slug nodeAddr now)

def reapRows (nodeAddr : String) : List TunnelRoute → Proc Unit
  | [] => pure ()
  | row :: rows => do
      reapRow nodeAddr row
      reapRows nodeAddr rows

/-- `abort_reaper_tick`: one pass over the routes the node owns. -/
def abortReaperTick (nodeAddr : String) : Proc Unit := do
  let rows ← issue (.listOwned nodeAddr)
  match rows with
  | .error _ => pure ()
  | .ok rows => reapRows nodeAddr rows

/-- `ttl_reaper_tick`: purge the rows that were not refreshed within `ttl`. -/
def ttlReaperTick (ttl : Int) : Proc Unit := do
  let now ← issue .utcNow
  let _ ← issue (.reapExpired (now - ttl))

/-! ## The region as a world of tasks -/

inductive Task
  | tunnelConnect (caller : Caller) (nodeAddr : String)
  | abortReaperTick (nodeAddr : String)
  | ttlReaperTick (ttl : Int)

def Task.body : Task → Proc (Except ApiError Unit)
  | .tunnelConnect caller nodeAddr => (Tunnel.tunnelConnect caller nodeAddr).run
  | .abortReaperTick nodeAddr => do Tunnel.abortReaperTick nodeAddr; pure (.ok ())
  | .ttlReaperTick ttl => do Tunnel.ttlReaperTick ttl; pure (.ok ())

/-- Nodes running any tasks against the shared table while Tenants moves on. -/
@[reducible]
def world : World where
  State := Region
  Call := Call
  Resp := Call.Resp
  Choice := Choice
  exec := Region.exec
  Task := Task
  Result := Except ApiError Unit
  body := Task.body
  Env := Directory.Move
  env m s := (s.directory.apply m).map fun directory => { s with directory }

end Wardnet.Tunnel
