/-
# The lifecycle of a network

Registrations insert networks, the provisioner marks them active, tenants and canceled
subscriptions slate them, and the reaper deletes them. All of this may interleave at any
statement. Registration is the transaction of `Registration`; the other statements commit by
themselves. A failed statement may have taken effect all the same if its answer got lost.

Network ids are random, and none is drawn twice.
-/

import Wardnet.Authority.Registration
import Wardnet.Authority.World
import Wardnet.Base.Trace

namespace Wardnet.Authority.Lifecycle

open Base Tenants NetworkTable Option Registration List
open Registration (Server Draft Statement Request)

/-! ## The model -/

/-- The database with its open registrations, the network ids drawn so far, and the ids of
deleted networks. -/
structure Registry where
  server : Server
  drawn : List String
  deleted : List String

namespace Registry

def start (server : Server) : Registry :=
  ⟨server, server.committed.networks.entries.map Prod.fst, []⟩

def networks (s : Registry) : NetworkTable := s.server.committed.networks

def stateOf (s : Registry) (id : String) : Option ProvisioningState :=
  (s.networks.get? id).map (·.provisioningState)

def withNetworks (s : Registry) (networks : NetworkTable) : Registry :=
  { s with server := { s.server with committed := { s.server.committed with networks } } }

/-- `delete_if_deprovisioning`. The daemons of a deleted network go with it. -/
def deleteIfDeprovisioning (s : Registry) (id : String) : Bool × Registry :=
  let out := s.networks.deleteIfDeprovisioning id
  let daemons := s.server.committed.daemons.retain fun _ row => row.networkId ≠ id
  if out.1 then
    (true,
      { s with
        server := { s.server with committed := ⟨out.2, daemons, s.server.committed.pending⟩ }
        deleted := id :: s.deleted })
  else
    (false, s)

end Registry

inductive Call
  | newId
  | statement (c : Statement)
  | findById (id : String)
  | findBySlug (slug : String)
  | markActive (id : String)
  | deleteIfDeprovisioning (id : String)
  | setDeprovisioning (id : String)
  | setDeprovisioningForTenant (tenantId : String)

@[reducible]
def Call.Resp : Call → Type
  | .newId => String
  | .statement c => c.Resp
  | .findById _ | .findBySlug _ => Except Failure (Option NetworkView)
  | .markActive _ | .deleteIfDeprovisioning _ | .setDeprovisioning _ => Except Failure Bool
  | .setDeprovisioningForTenant _ => Except Failure ℕ

/-- What a call leaves open: the id drawn, whether it fails, and whether only its answer is
lost. -/
structure Choice where
  id : String
  fails : Bool
  lost : Bool

/-- The answer and the effect of a statement that commits by itself. -/
def Choice.settle {α : Type} (choice : Choice) (s : Registry) (out : α × Registry) :
    Except Failure α × Registry :=
  if choice.fails then (.error .failed, if choice.lost then out.2 else s) else (.ok out.1, out.2)

/-- A statement of a registration. Only a commit can take effect and fail. -/
def execStatement (choice : Choice) (c : Statement) (server : Server) : Option (c.Resp × Server) :=
  if choice.fails ∧ choice.lost ∧ c.isCommit then
    (Registration.perform c server).map fun out => (Registration.refuse c, out.2)
  else Registration.exec choice.fails c server

def exec (choice : Choice) : (c : Call) → Registry → Option (c.Resp × Registry)
  | .newId, s =>
    if choice.id ∈ s.drawn then none
    else some (choice.id, { s with drawn := choice.id :: s.drawn })
  | .statement c, s =>
    (execStatement choice c s.server).map fun out => (out.1, { s with server := out.2 })
  | .findById id, s => some (choice.settle s (s.networks.findById id, s))
  | .findBySlug slug, s => some (choice.settle s (s.networks.findBySlug slug, s))
  | .markActive id, s =>
    let out := s.networks.markActive id
    some (choice.settle s (out.1, s.withNetworks out.2))
  | .deleteIfDeprovisioning id, s => some (choice.settle s (s.deleteIfDeprovisioning id))
  | .setDeprovisioning id, s =>
    let out := s.networks.setDeprovisioning id
    some (choice.settle s (out.1, s.withNetworks out.2))
  | .setDeprovisioningForTenant tenantId, s =>
    let out := s.networks.setDeprovisioningForTenant tenantId
    some (choice.settle s (out.1, s.withNetworks out.2))

abbrev Proc := Prog Call Call.Resp

abbrev send (c : Call) : Proc c.Resp := Base.perform c

def orElse {ε α : Type} (error : ε) (p : Proc (Except Failure α)) : ExceptT ε Proc α :=
  ExceptT.mk (p.bind fun r => .ret (r.mapError fun _ => error))

/-- `char::escape_debug` within a string, for ASCII. -/
def escapeDebug (c : Char) : String :=
  match c with
  | '\x00' => "\\0"
  | '\t' => "\\t"
  | '\r' => "\\r"
  | '\n' => "\\n"
  | '"' => "\\\""
  | '\\' => "\\\\"
  | c =>
    if c.toNat < 0x20 ∨ c.toNat = 0x7f then
      "\\u\x7b" ++ String.ofList (Nat.toDigits 16 c.toNat) ++ "\x7d"
    else c.toString

def debug (text : String) : String := "\"" ++ String.join (text.toList.map escapeDebug) ++ "\""

def networkState (id : String) : ExceptT ApiError Proc (Option ProvisioningState) := do
  let found ← orElse .internal (send (.findById id))
  pure (found.map (·.provisioningState))

/-- `transition_network`. Success is the answer 204. -/
def transitionNetwork (id target : String) : ExceptT ApiError Proc Unit := do
  if target = "active" then
    if ← orElse .internal (send (.markActive id)) then
      return
    match ← networkState id with
    | some .active => pure ()
    | none => throw (.notFound "no such network")
    | some _ => throw (.conflict "network is not in 'provisioning'")
  else if target = "deprovisioned" then
    if ← orElse .internal (send (.deleteIfDeprovisioning id)) then
      return
    match ← networkState id with
    | none => pure ()
    | some _ => throw (.conflict "network is not in 'deprovisioning'")
  else
    throw (.badRequest ("unsupported transition target " ++ debug target))

def deleteNetwork (tenantId slug : String) : ExceptT TenantsError Proc Unit := do
  let found ← orElse .internal (send (.findBySlug slug))
  match found.filter (·.tenantId = tenantId) with
  | none => throw (.notFound "no such network")
  | some network =>
    if network.provisioningState ≠ .deprovisioning then
      let _ ← orElse .internal (send (.setDeprovisioning network.id))

def deprovisionNetworksFor (tenantId : String) : ExceptT TenantsError Proc Unit := do
  let _ ← orElse .internal (send (.setDeprovisioningForTenant tenantId))

/-- What a registration is given: what the service has read of the tenant and its license only
decides whether there is one, and the limits. -/
structure Registrant where
  tenantId : String
  slug : String
  displayName : String
  region : String
  publicKey : String
  maxNetworks : ℕ
  maxDaemons : ℕ
  deriving DecidableEq

def Registrant.request (r : Registrant) (id : String) : Request :=
  ⟨id, ⟨r.tenantId, r.slug, r.displayName, r.region, .provisioning⟩, r.publicKey, r.maxNetworks,
    r.maxDaemons⟩

def registerNetwork (r : Registrant) : Proc (Except Failure RegisterNetworkOutcome) :=
  (send .newId).bind fun id =>
    (Registration.registerNetwork (r.request id)).run.translate .statement fun _ r => r

inductive Task
  | registerNetwork (r : Registrant)
  | transitionNetwork (id target : String)
  | deleteNetwork (tenantId slug : String)
  | deprovisionNetworksFor (tenantId : String)
  deriving DecidableEq

inductive Answer
  | registered (outcome : Except Failure RegisterNetworkOutcome)
  | transitioned (outcome : Except ApiError Unit)
  | slated (outcome : Except TenantsError Unit)

def Task.body : Task → Proc Answer
  | .registerNetwork r => (Lifecycle.registerNetwork r).bind fun out => .ret (.registered out)
  | .transitionNetwork id target =>
    (Lifecycle.transitionNetwork id target).run.bind fun out => .ret (.transitioned out)
  | .deleteNetwork tenantId slug =>
    (Lifecycle.deleteNetwork tenantId slug).run.bind fun out => .ret (.slated out)
  | .deprovisionNetworksFor tenantId =>
    (Lifecycle.deprovisionNetworksFor tenantId).run.bind fun out => .ret (.slated out)

@[reducible]
def world : World where
  State := Registry
  Call := Call
  Resp := Call.Resp
  Choice := Choice
  exec := exec
  Task := Task
  Result := Answer
  body := Task.body
  Env := Empty
  env e _ := e.elim

/-! ## Positions in the lifecycle -/

/-- No row yet, the three states, and no row any more. -/
def lifecycle : List (Option ProvisioningState) :=
  [none, some .provisioning, some .active, some .deprovisioning, none]

def rank : ProvisioningState → ℕ
  | .provisioning => 1
  | .active => 2
  | .deprovisioning => 3

def Registry.position (s : Registry) (id : String) : ℕ :=
  match s.stateOf id with
  | some state => rank state
  | none => if id ∈ s.deleted then 4 else 0

theorem lifecycle_position (s : Registry) (id : String) :
    lifecycle[s.position id]? = some (s.stateOf id) := by
  unfold Registry.position
  cases hstate : s.stateOf id with
  | none =>
    dsimp only
    split <;> rfl
  | some state => cases state <;> rfl

/-- What a step may do to the networks: a row goes forward or, slated, is deleted, and a new
row is provisioning, under an id that no deleted network had. -/
structure Forward (s s' : Registry) : Prop where
  deleted : ∀ id ∈ s.deleted, id ∈ s'.deleted
  kept : ∀ id state, s.stateOf id = some state →
    (∃ state', s'.stateOf id = some state' ∧ rank state ≤ rank state') ∨
      (s'.stateOf id = none ∧ state = .deprovisioning ∧ id ∈ s'.deleted)
  born : ∀ id state, s.stateOf id = none → s'.stateOf id = some state →
    id ∉ s.deleted ∧ state = .provisioning

theorem rank_le (state : ProvisioningState) : rank state ≤ 3 := by
  cases state <;> decide

variable {s s' : Registry} {cfg cfg' : world.Config} {a : world.Action} {target : String}

theorem Forward.position_le (h : Forward s s') (id : String) : s.position id ≤ s'.position id := by
  unfold Registry.position
  cases hstate : s.stateOf id with
  | some state =>
    rcases h.kept id state hstate with ⟨state', hstate', hle⟩ | ⟨hnone, rfl, hdeleted⟩
    · rw [hstate']
      exact hle
    · simp [hnone, hdeleted, rank]
  | none =>
    by_cases hdeleted : id ∈ s.deleted
    · cases hstate' : s'.stateOf id with
      | some state => exact absurd hdeleted (h.born id state hstate hstate').1
      | none => simp [hdeleted, h.deleted id hdeleted]
    · simp [hdeleted]

/-! ## What the calls do -/

/-- A step without new rows: rows go forward or, slated, are deleted. -/
structure Quiet (s s' : Registry) : Prop where
  drawn : s'.drawn = s.drawn
  deleted : ∀ id ∈ s.deleted, id ∈ s'.deleted
  was : ∀ id ∈ s'.deleted, id ∈ s.deleted ∨ s.stateOf id ≠ none
  absent : ∀ id, s.stateOf id = none → s'.stateOf id = none
  kept : ∀ id state, s.stateOf id = some state →
    (∃ state', s'.stateOf id = some state' ∧ rank state ≤ rank state') ∨
      (s'.stateOf id = none ∧ state = .deprovisioning ∧ id ∈ s'.deleted)

/-- A step that changes no network. -/
theorem Quiet.of_networks (hnetworks : s'.networks = s.networks) (hdrawn : s'.drawn = s.drawn)
    (hdeleted : s'.deleted = s.deleted) : Quiet s s' := by
  have hstate : ∀ id, s'.stateOf id = s.stateOf id := by
    intro id
    rw [Registry.stateOf, hnetworks]
    rfl
  refine ⟨hdrawn, fun id hid => hdeleted ▸ hid, fun id hid => .inl (hdeleted ▸ hid),
    fun id hid => (hstate id).trans hid, fun id state hid => ?_⟩
  exact .inl ⟨state, (hstate id).trans hid, le_rfl⟩

theorem Quiet.refl (s : Registry) : Quiet s s := .of_networks rfl rfl rfl

theorem Quiet.forward (h : Quiet s s') : Forward s s' where
  deleted := h.deleted
  kept := h.kept
  born id _ hnone hsome := by
    rw [h.absent id hnone] at hsome
    cases hsome

/-- An `UPDATE` that takes no row back. -/
theorem quiet_updateWhere {networks : NetworkTable} {p : String → NetworkRow → Bool}
    {f : NetworkRow → NetworkRow} (hnetworks : networks = (s.networks.updateWhere p f).2)
    (hrank : ∀ id row, p id row = true →
      rank row.provisioningState ≤ rank (f row).provisioningState) :
    Quiet s (s.withNetworks networks) := by
  have hstate : ∀ id, (s.withNetworks networks).stateOf id =
      (s.networks.get? id).map fun row => (if p id row then f row else row).provisioningState := by
    intro id
    rw [Registry.stateOf, hnetworks]
    exact (congrArg _ (Store.get?_updateWhere ..)).trans (map_map ..)
  refine ⟨rfl, fun _ h => h, fun _ h => .inl h, fun id h => ?_, fun id state h => ?_⟩
  · rw [hstate, map_eq_none_iff.mp h]
    rfl
  · obtain ⟨row, hrow, rfl⟩ := map_eq_some_iff.mp h
    refine .inl ⟨_, (hstate id).trans (by rw [hrow]; rfl), ?_⟩
    dsimp only
    split
    · rename_i hp
      exact hrank id row hp
    · exact le_rfl

theorem quiet_deleteIfDeprovisioning (s : Registry) (id : String) :
    Quiet s (s.deleteIfDeprovisioning id).2 := by
  unfold Registry.deleteIfDeprovisioning
  dsimp only
  split
  · rename_i hdeleted
    obtain ⟨n, row, hrow, hcond⟩ := Store.deleteWhere_pos_iff.mp (of_decide_eq_true hdeleted)
    obtain ⟨rfl, hslated⟩ := of_decide_eq_true hcond
    have hstate : s.stateOf n = some .deprovisioning := by
      rw [Registry.stateOf, hrow, map_some, hslated]
    have hother : ∀ k, k ≠ n →
        (s.networks.deleteIfDeprovisioning n).2.get? k = s.networks.get? k := by
      intro k hne
      simp only [deleteIfDeprovisioning, Store.get?_deleteWhere, hne, false_and,
        decide_false, Bool.not_false]
      cases s.networks.get? k <;> rfl
    have hgone := get?_deleteIfDeprovisioning hdeleted
    refine ⟨rfl, fun k hk => mem_cons_of_mem n hk, fun k hk => ?_, fun k hk => ?_,
      fun k state hk => ?_⟩
    · rcases mem_cons.mp hk with rfl | hk
      · exact .inr (by simp [hstate])
      · exact .inl hk
    · have hne : k ≠ n := by
        rintro rfl
        rw [hstate] at hk
        cases hk
      exact (congrArg _ (hother k hne)).trans hk
    · by_cases heq : k = n
      · subst heq
        rw [hstate] at hk
        cases hk
        exact .inr ⟨congrArg _ hgone, rfl, mem_cons_self⟩
      · exact .inl ⟨state, (congrArg _ (hother k heq)).trans hk, le_rfl⟩
  · exact .refl s

def Call.plain : Call → Bool
  | .newId => false
  | .statement c => !c.isCommit
  | _ => true

section

variable {choice : Choice} {s s' : Registry}

theorem quiet_of_settle {α : Type} {out : α × Registry} {r : Except Failure α}
    (hquiet : Quiet s out.2) (hexec : some (choice.settle s out) = some (r, s')) : Quiet s s' := by
  unfold Choice.settle at hexec
  split at hexec
  · cases hexec
    split
    · exact hquiet
    · exact .refl s
  · cases hexec
    exact hquiet

theorem committed_of_execStatement {c : Statement} {server server' : Server} {r : c.Resp}
    (hc : c.isCommit = false) (hexec : execStatement choice c server = some (r, server')) :
    server'.committed = server.committed := by
  rw [execStatement, if_neg (by simp [hc])] at hexec
  exact committed_of_exec hc hexec

/-- Only the commit of a registration adds a network. -/
theorem quiet_of_exec {c : Call} (hc : c.plain = true) {r : c.Resp}
    (hexec : exec choice c s = some (r, s')) : Quiet s s' := by
  cases c with
  | newId => cases hc
  | statement c =>
    obtain ⟨out, hout, heq⟩ := map_eq_some_iff.mp hexec
    cases heq
    have hcommit : c.isCommit = false := by simpa [Call.plain] using hc
    have hsame := committed_of_execStatement hcommit hout
    exact .of_networks (congrArg Fleet.networks hsame) rfl rfl
  | findById | findBySlug => exact quiet_of_settle (.refl s) hexec
  | markActive id =>
    refine quiet_of_settle (quiet_updateWhere
      (p := fun k row => k = id ∧ row.provisioningState = .provisioning)
      (f := fun row => { row with provisioningState := .active }) rfl ?_) hexec
    intro k row hrow
    rw [(of_decide_eq_true hrow).2]
    exact Nat.le_succ 1
  | deleteIfDeprovisioning id => exact quiet_of_settle (quiet_deleteIfDeprovisioning s id) hexec
  | setDeprovisioning id =>
    exact quiet_of_settle (quiet_updateWhere
      (p := fun k row => k = id ∧ row.provisioningState ≠ .deprovisioning)
      (f := fun row => { row with provisioningState := .deprovisioning }) rfl
      fun _ _ _ => rank_le _) hexec
  | setDeprovisioningForTenant tenantId =>
    exact quiet_of_settle (quiet_updateWhere
      (p := fun _ row => row.tenantId = tenantId ∧ row.provisioningState ≠ .deprovisioning)
      (f := fun row => { row with provisioningState := .deprovisioning }) rfl
      fun _ _ _ => rank_le _) hexec

end

/-! ## The outline -/

/-- What is known of the ids: rows and deleted networks have one that was drawn, and so has
every registration that has not committed, each its own. -/
structure Distinct (s : Registry) (notes : Set (ℕ × Option String)) : Prop where
  known : ∀ id, s.stateOf id ≠ none → id ∈ s.drawn
  gone : ∀ id ∈ s.deleted, id ∈ s.drawn
  held : ∀ i id, (i, some id) ∈ notes → id ∈ s.drawn ∧ s.stateOf id = none ∧ id ∉ s.deleted
  apart : ∀ i j id, (i, some id) ∈ notes → (j, some id) ∈ notes → i = j

/-- A transaction whose commit is due has inserted a provisioning network, under the id that
the task holds. -/
def Due (held : Option String) : Option Call → Prop
  | some (.statement (.commit draft)) =>
    ∀ entry ∈ draft.networks, held = some entry.1 ∧ entry.2.provisioningState = .provisioning
  | _ => True

/-- The outline: a task is known by its index and by the id that it has drawn and not
committed yet. -/
def holding : Outline world (ℕ × Option String) where
  Inv := Distinct
  Sees i g _ _ pending := g.1 = i ∧ Due g.2 pending
  Permits _ g rest _ _ := ∀ g' ∈ rest, g'.1 ≠ g.1

section

variable {s s' : Registry} {notes rest : Set (ℕ × Option String)} {i : ℕ} {held : Option String}

theorem Distinct.quiet (h : Distinct s notes) (hquiet : Quiet s s') : Distinct s' notes where
  known id hid := by
    rw [hquiet.drawn]
    exact h.known id fun hnone => hid (hquiet.absent id hnone)
  gone id hid := by
    rw [hquiet.drawn]
    rcases hquiet.was id hid with hold | hstate
    · exact h.gone id hold
    · exact h.known id hstate
  held j id hmem := by
    obtain ⟨hdrawn, hnone, hnot⟩ := h.held j id hmem
    rw [hquiet.drawn]
    refine ⟨hdrawn, hquiet.absent id hnone, fun hdeleted => ?_⟩
    exact (hquiet.was id hdeleted).elim hnot (· hnone)
  apart := h.apart

theorem Distinct.mono (h : Distinct s notes)
    (hnotes : ∀ i id, (i, some id) ∈ rest → (i, some id) ∈ notes) : Distinct s rest where
  known := h.known
  gone := h.gone
  held i id hmem := h.held i id (hnotes i id hmem)
  apart i j id hi hj := h.apart i j id (hnotes i id hi) (hnotes j id hj)

theorem Distinct.draw (h : Distinct s (insert (i, none) rest)) {id : String} (hid : id ∉ s.drawn) :
    Distinct { s with drawn := id :: s.drawn } (insert (i, some id) rest) where
  known k hk := mem_cons_of_mem id (h.known k hk)
  gone k hk := mem_cons_of_mem id (h.gone k hk)
  held := by
    rintro j k (heq | hmem)
    · cases heq
      refine ⟨mem_cons_self, ?_, fun hdeleted => hid (h.gone id hdeleted)⟩
      by_contra hstate
      exact hid (h.known id hstate)
    · obtain ⟨hdrawn, hnone, hnot⟩ := h.held j k (.inr hmem)
      exact ⟨mem_cons_of_mem id hdrawn, hnone, hnot⟩
  apart := by
    have hfresh : ∀ j, (j, some id) ∉ rest := fun j hmem => hid (h.held j id (.inr hmem)).1
    rintro j k n (heq | hmem) (heq' | hmem')
    · cases heq
      cases heq'
      rfl
    · cases heq
      exact absurd hmem' (hfresh k)
    · cases heq'
      exact absurd hmem (hfresh j)
    · exact h.apart j k n (.inr hmem) (.inr hmem')

/-- A commit shows what the transaction has inserted, or fails. -/
theorem exec_commit {choice : Choice} {draft : Draft} {r : Except Failure Unit}
    (hexec : exec choice (.statement (.commit draft)) s = some (r, s')) :
    Quiet s s' ∨ (s'.networks = (draft.apply s.server.committed).networks ∧ s'.drawn = s.drawn ∧
      s'.deleted = s.deleted) := by
  obtain ⟨⟨_, server⟩, hout, heq⟩ := map_eq_some_iff.mp hexec
  cases heq
  unfold execStatement at hout
  split at hout
  · obtain ⟨_, hperform, heq⟩ := map_eq_some_iff.mp hout
    cases heq
    cases hperform
    exact .inr ⟨rfl, rfl, rfl⟩
  · rcases exec_cases hout with ⟨-, rfl⟩ | hperform
    · exact .inl (.of_networks rfl rfl rfl)
    · cases hperform
      exact .inr ⟨rfl, rfl, rfl⟩

section

variable {draft : Draft} (h : Distinct s (insert (i, held) rest))
  (hdue : Due held (some (.statement (.commit draft))))
  (hnetworks : s'.networks = (draft.apply s.server.committed).networks)

include h hdue hnetworks in
/-- A row is as it was, or it is new, under the id that the task holds. -/
theorem stateOf_commit (id : String) : (held ≠ some id ∧ s'.stateOf id = s.stateOf id) ∨
      (held = some id ∧ s.stateOf id = none ∧ id ∉ s.deleted ∧
        ∀ state ∈ s'.stateOf id, state = .provisioning) := by
  have hheld : held = some id → s.stateOf id = none ∧ id ∉ s.deleted := by
    rintro rfl
    exact (h.held i id (.inl rfl)).2
  rcases Store.get?_foldl_insert draft.networks s.networks id with ⟨-, hsame⟩ | ⟨row, hmem, hnew⟩
  · have hstate : s'.stateOf id = s.stateOf id := by
      rw [Registry.stateOf, hnetworks]
      exact congrArg _ hsame
    by_cases heq : held = some id
    · obtain ⟨hnone, hdeleted⟩ := hheld heq
      refine .inr ⟨heq, hnone, hdeleted, fun state hmem => ?_⟩
      rw [hstate, hnone] at hmem
      cases hmem
    · exact .inl ⟨heq, hstate⟩
  · obtain ⟨heq, hprovisioning⟩ := hdue _ hmem
    obtain ⟨hnone, hdeleted⟩ := hheld heq
    refine .inr ⟨heq, hnone, hdeleted, fun state hstate => ?_⟩
    rw [Registry.stateOf, hnetworks] at hstate
    have hstate' := (congrArg (Option.map NetworkRow.provisioningState) hnew).symm.trans hstate
    cases hstate'
    exact hprovisioning

include h hdue hnetworks in
theorem forward_commit (hdeleted : s'.deleted = s.deleted) : Forward s s' where
  deleted id hid := by rwa [hdeleted]
  kept id state hid := by
    rcases stateOf_commit h hdue hnetworks id with ⟨-, hsame⟩ | ⟨-, hnone, -⟩
    · exact .inl ⟨state, hsame.trans hid, le_rfl⟩
    · rw [hnone] at hid
      cases hid
  born id state hnone hsome := by
    rcases stateOf_commit h hdue hnetworks id with ⟨-, hsame⟩ | ⟨-, -, hnot, hstate⟩
    · rw [hsame, hnone] at hsome
      cases hsome
    · exact ⟨hnot, hstate state hsome⟩

include h hdue hnetworks in
theorem Distinct.commit (hdrawn : s'.drawn = s.drawn) (hdeleted : s'.deleted = s.deleted)
    (hrest : ∀ g ∈ rest, g.1 ≠ i) : Distinct s' (insert (i, none) rest) where
  known id hid := by
    rw [hdrawn]
    rcases stateOf_commit h hdue hnetworks id with ⟨-, hsame⟩ | ⟨rfl, -⟩
    · exact h.known id (hsame ▸ hid)
    · exact (h.held i id (.inl rfl)).1
  gone id hid := by
    rw [hdrawn]
    exact h.gone id (hdeleted ▸ hid)
  held := by
    rintro j id (heq | hmem)
    · cases heq
    · obtain ⟨hid, hnone, hnot⟩ := h.held j id (.inr hmem)
      rcases stateOf_commit h hdue hnetworks id with ⟨-, hsame⟩ | ⟨rfl, -⟩
      · exact ⟨hdrawn ▸ hid, hsame.trans hnone, hdeleted ▸ hnot⟩
      · exact absurd (h.apart j i id (.inr hmem) (.inl rfl)) (hrest _ hmem)
  apart := by
    rintro j k id (heq | hmem) (heq' | hmem')
    · cases heq
    · cases heq
    · cases heq'
    · exact h.apart j k id (.inr hmem) (.inr hmem')

end

end

/-! ## Procedures -/

section

variable {i : ℕ} {task : Task} {log : List world.Event}

/-- A task that draws no id and commits no registration keeps the outline. -/
theorem wp_plain {α : Type} {p : Proc α} (hp : p.All fun c => c.plain = true)
    {held : Option String} :
    holding.Wp i task (fun g _ _ => g = (i, held)) (i, held) log p := by
  have hplain : ∀ c : Call, c.plain = true → Due held (some c) := by
    intro c hc
    unfold Due
    split
    · rename_i heq
      cases heq
      cases hc
    · trivial
  have hstable : holding.Wp i task (fun g _ _ => g = (i, held) ∧ True) (i, held) log p := by
    refine Outline.Wp.of_stable (K := fun _ => True) ?_ (fun _ _ _ _ _ => trivial) ?_ trivial hp
    · exact fun _ c _ hc => ⟨rfl, hplain c hc⟩
    · exact fun s rest c choice r s' hc hinv _ hexec => hinv.quiet (quiet_of_exec hc hexec)
  exact hstable.mono fun g _ _ hg => hg.1

section

variable {α : Type} {Q : ℕ × Option String → List world.Event → α → Prop} {held : Option String}

/-- A statement of a registration other than its commit. -/
theorem wp_statement {c : Statement} (hc : c.isCommit = false) {next : c.Resp → Proc α}
    (hnext : ∀ log fails server r server', Registration.exec fails c server = some (r, server') →
      holding.Wp i task Q (i, held) log (next r)) :
    holding.Wp i task Q (i, held) log (.call (.statement c) next) := by
  have hdue : Due held (some (.statement c)) := by
    cases c with
    | commit => cases hc
    | _ => trivial
  refine ⟨⟨rfl, hdue⟩, fun s rest choice r s' hinv _ hexec => ?_⟩
  have hplain : (Call.statement c).plain = true := by simp [Call.plain, hc]
  refine ⟨(i, held), hinv.quiet (quiet_of_exec hplain hexec), ?_⟩
  obtain ⟨⟨r', server⟩, hout, heq⟩ := map_eq_some_iff.mp hexec
  cases heq
  rw [execStatement, if_neg (by simp [hc])] at hout
  exact hnext _ _ _ _ _ hout

theorem wp_giveUp {draft : Draft} {outcome : RegisterNetworkOutcome} :
    holding.Wp i task (fun g _ _ => g.1 = i) (i, held) log
      ((Registration.giveUp draft outcome).run.translate Call.statement fun _ r => r) := by
  refine wp_statement rfl fun log _ _ r _ _ => ?_
  cases r with
  | ok | error => exact rfl

/-- The last statements of a registration, once both rows are inserted. -/
theorem wp_conclude {request : Request} {draft : Draft}
    (hdraft : ∀ entry ∈ draft.networks, held = some entry.1 ∧
      entry.2.provisioningState = .provisioning) :
    holding.Wp i task (fun g _ _ => g.1 = i) (i, held) log
      ((Registration.conclude request draft).run.translate Call.statement fun _ r => r) := by
  refine wp_statement rfl fun log _ _ r _ hexec => ?_
  cases r with
  | error _ => exact rfl
  | ok written =>
    have hwritten : written.networks = draft.networks := by
      rcases exec_cases hexec with ⟨hrefuse, -⟩ | hperform
      · cases hrefuse
      · cases hperform
        rfl
    have hdue : Due held (some (.statement (.commit written))) := by
      intro entry hentry
      exact hdraft entry (hwritten ▸ hentry)
    refine ⟨⟨rfl, hdue⟩, fun s rest choice r s' hinv hrest hexec => ?_⟩
    refine ⟨(i, none), ?_, ?_⟩
    · rcases exec_commit hexec with hquiet | ⟨hnetworks, hdrawn, hdeleted⟩
      · refine (hinv.quiet hquiet).mono ?_
        rintro j id (heq | hmem)
        · cases heq
        · exact .inr hmem
      · exact hinv.commit hdue hnetworks hdrawn hdeleted hrest
    · cases r with
      | ok | error => exact rfl

theorem wp_ite {b : Prop} [Decidable b] {p q : Registration.Transaction RegisterNetworkOutcome}
    (hp : b → holding.Wp i task (fun g _ _ => g.1 = i) (i, held) log
      (p.run.translate Call.statement fun _ r => r))
    (hq : ¬b → holding.Wp i task (fun g _ _ => g.1 = i) (i, held) log
      (q.run.translate Call.statement fun _ r => r)) :
    holding.Wp i task (fun g _ _ => g.1 = i) (i, held) log
      ((if b then p else q).run.translate Call.statement fun _ r => r) := by
  split
  · rename_i hb
    exact hp hb
  · rename_i hb
    exact hq hb

variable (r : Registrant) (id : String)

theorem wp_enroll {draft : Draft} (hdraft : ∀ entry ∈ draft.networks, held = some entry.1 ∧
      entry.2.provisioningState = .provisioning) :
    holding.Wp i task (fun g _ _ => g.1 = i) (i, held) log
      ((Registration.enroll (r.request id) draft).run.translate Call.statement fun _ r => r) := by
  refine wp_statement rfl fun log _ _ answer _ hexec => ?_
  rcases insertDaemon_answer hexec with rfl | rfl | rfl
  · exact rfl
  · exact wp_giveUp
  · exact wp_conclude hdraft

theorem wp_enlist : holding.Wp i task (fun g _ _ => g.1 = i) (i, some id) log
      ((Registration.enlist (r.request id)).run.translate Call.statement fun _ r => r) := by
  refine wp_statement rfl fun log _ _ answer _ hexec => ?_
  rcases insertNetwork_answer hexec with rfl | rfl | rfl
  · exact rfl
  · exact wp_giveUp
  · apply wp_enroll
    intro entry hentry
    obtain rfl := mem_singleton.mp hentry
    exact ⟨rfl, rfl⟩

theorem wp_registerNetwork : holding.Wp i task (fun g _ _ => g.1 = i) (i, some id) log
      ((Registration.registerNetwork (r.request id)).run.translate Call.statement
        fun _ r => r) := by
  refine wp_statement rfl fun log _ _ answer _ _ => ?_
  cases answer with
  | error _ => exact rfl
  | ok _ =>
    refine wp_statement rfl fun log _ _ answer _ _ => ?_
    cases answer with
    | error _ => exact rfl
    | ok count =>
      refine wp_ite (fun _ => wp_giveUp) fun _ => ?_
      refine wp_statement rfl fun log _ _ answer _ _ => ?_
      cases answer with
      | error _ => exact rfl
      | ok count => exact wp_ite (fun _ => wp_giveUp) fun _ => wp_enlist r id

end

def Unasked (_ : ℕ × Option String) (_ : Answer) : Prop := True

theorem follows_register (r : Registrant) : holding.Follows Unasked i (i, none)
      ⟨.registerNetwork r, [], Task.body (.registerNetwork r)⟩ := by
  apply Outline.Wp.bind
  refine ⟨⟨rfl, trivial⟩, fun s rest choice id s' hinv _ hexec => ?_⟩
  simp only [exec] at hexec
  split at hexec
  · cases hexec
  · rename_i hfresh
    cases hexec
    refine ⟨(i, some choice.id), hinv.draw hfresh, ?_⟩
    exact (wp_registerNetwork r choice.id).mono fun g log value hg => ⟨⟨hg, trivial⟩, trivial⟩

theorem all_orElse {ε α : Type} {error : ε} {p : Proc (Except Failure α)} {ok : Call → Prop}
    (hp : p.All ok) : (orElse error p).run.All ok :=
  hp.bind fun _ => trivial

theorem all_transitionNetwork (id target : String) :
    (transitionNetwork id target).run.All fun c => c.plain = true := by
  unfold transitionNetwork
  split
  · refine ⟨rfl, fun marked => ?_⟩
    rcases marked with _ | (_ | _)
    · trivial
    · refine ⟨rfl, fun found => ?_⟩
      rcases found with _ | (_ | ⟨_, _, _, _, _ | _ | _⟩) <;> trivial
    · trivial
  split
  · refine ⟨rfl, fun deleted => ?_⟩
    rcases deleted with _ | (_ | _)
    · trivial
    · refine ⟨rfl, fun found => ?_⟩
      rcases found with _ | (_ | _) <;> trivial
    · trivial
  · trivial

theorem all_deleteNetwork (tenantId slug : String) :
    (deleteNetwork tenantId slug).run.All fun c => c.plain = true := by
  refine Prog.All.exceptBind ?_ fun found => ?_
  · exact all_orElse ⟨rfl, fun _ => trivial⟩
  split
  · trivial
  · split
    · exact Prog.All.exceptBind (all_orElse ⟨rfl, fun _ => trivial⟩) fun _ => trivial
    · trivial

theorem follows_plain {α : Type} {p : Proc α} {answer : α → Answer}
    (hbody : task.body = p.bind fun out => .ret (answer out)) (hp : p.All fun c => c.plain = true) :
    holding.Follows Unasked i (i, none) ⟨task, [], task.body⟩ := by
  rw [hbody]
  apply Outline.Wp.bind
  apply (wp_plain hp).mono
  rintro g log value rfl
  exact ⟨⟨rfl, trivial⟩, trivial⟩

theorem sound_holding : holding.Sound Unasked fun _ _ => True where
  spawn cfg task notes _ hinv := by
    refine ⟨(cfg.threads.length, none), ?_, hinv.mono ?_⟩
    · cases task with
      | registerNetwork r => exact follows_register r
      | transitionNetwork id target => exact follows_plain rfl (all_transitionNetwork id target)
      | deleteNetwork tenantId slug => exact follows_plain rfl (all_deleteNetwork tenantId slug)
      | deprovisionNetworksFor tenantId =>
        refine follows_plain rfl ?_
        exact Prog.All.exceptBind (all_orElse ⟨rfl, fun _ => trivial⟩) fun _ => trivial
    · rintro i id (heq | hmem)
      · cases heq
      · exact hmem
  env _ e := e.elim
  permits cfg i choice th c next g rest _ _ _ hsees hothers g' hmem heq := by
    obtain ⟨j, th', -, hsees', hne⟩ := hothers g' hmem
    exact hne (hsees'.1.symm.trans (heq.trans hsees.1))

end

/-! ## Whole runs -/

theorem distinct_start (server : Server) : Distinct (.start server) ∅ where
  known id hid := by
    cases hrow : server.committed.networks.get? id with
    | none => exact absurd (congrArg _ hrow) hid
    | some row => exact mem_map_of_mem (Store.get?_eq_some_iff.mp hrow)
  gone _ hid := by cases hid
  held _ _ h := h.elim
  apart _ _ _ h := h.elim

def Held (cfg : world.Config) : Prop := ∃ note, holding.Annotates Unasked note cfg

theorem held_start (server : Server) : Held (.start (.start server)) := by
  exact Outline.annotates_start (distinct_start server)

theorem held_step (h : Held cfg) (hstep : world.system.step cfg a = some cfg') : Held cfg' :=
  sound_holding.step trivial h hstep

/-- No step takes a network back. -/
theorem forward_step (h : Held cfg) (hstep : world.system.step cfg a = some cfg') :
    Forward cfg.state cfg'.state := by
  have hrefl := (Quiet.refl cfg.state).forward
  cases a with
  | spawn task =>
    cases hstep
    exact hrefl
  | env e => exact e.elim
  | step i choice =>
    obtain ⟨note, hfollows, hinv⟩ := h
    obtain ⟨th, th', s', hth, hadv, rfl⟩ := World.Config.step_step_eq_some.mp hstep
    obtain ⟨c, next, r, hprog, hexec, rfl⟩ := World.Thread.advance_eq_some.mp hadv
    have hsees := (hfollows i th hth).sees
    rw [World.Thread.pending, hprog] at hsees
    rw [Outline.setOf_note_eq_insert (List.getElem?_eq_some_iff.mp hth).1] at hinv
    by_cases hplain : c.plain = true
    · exact (quiet_of_exec hplain hexec).forward
    cases c with
    | newId =>
      simp only [exec] at hexec
      split at hexec
      · cases hexec
      · cases hexec
        exact ⟨hrefl.deleted, hrefl.kept, hrefl.born⟩
    | statement c =>
      cases c with
      | commit draft =>
        rcases exec_commit hexec with hquiet | ⟨hnetworks, -, hdeleted⟩
        · exact hquiet.forward
        · exact forward_commit hinv hsees.2 hnetworks hdeleted
      | _ => exact absurd rfl hplain
    | _ => exact absurd rfl hplain

/-! ## Answers of transitions -/

/-- The statement whose answer lets `transition_network` succeed. -/
def Confirms (id target : String) : (c : Call) → c.Resp → Prop
  | .markActive n, r => n = id ∧ target = "active" ∧ r = .ok true
  | .deleteIfDeprovisioning n, r => n = id ∧ target = "deprovisioned" ∧ r = .ok true
  | .findById n, r => n = id ∧
      ((target = "active" ∧ ∃ view, r = .ok (some view) ∧ view.provisioningState = .active) ∨
        (target = "deprovisioned" ∧ r = .ok none))
  | _, _ => False

def Confirmed (task : Task) (p : Proc Answer) : Prop :=
  ∀ id target, task = .transitionNetwork id target → ∀ c next r, p = .call c next →
    next r = .ret (.transitioned (.ok ())) → Confirms id target c r

theorem confirmed_of_ne {task : Task} (h : ∀ id target, task ≠ .transitionNetwork id target)
    (p : Proc Answer) : p.Always (Confirmed task) := by
  induction p with
  | ret value => exact fun id target heq => absurd heq (h id target)
  | call c next ih => exact ⟨fun id target heq => absurd heq (h id target), ih⟩

theorem confirmed_call {id : String} {c : Call} {next : c.Resp → Proc Answer}
    (h : ∀ r, next r = .ret (.transitioned (.ok ())) → Confirms id target c r) :
    Confirmed (.transitionNetwork id target) (.call c next) := by
  intro id' target' htask c' next' r hcall hnext
  cases htask
  cases hcall
  exact h r hnext

/-- A transition succeeds only on an answer that confirms it. -/
theorem confirmed_transition (id target : String) :
    (Task.body (.transitionNetwork id target)).Always
      (Confirmed (.transitionNetwork id target)) := by
  have hret : ∀ out, (Prog.ret (.transitioned out) : Proc Answer).Always
      (Confirmed (.transitionNetwork id target)) := by
    intro out _ _ _ c next r heq
    cases heq
  simp only [Task.body, transitionNetwork]
  split
  · rename_i htarget
    refine ⟨confirmed_call fun marked hnext => ?_, fun marked => ?_⟩
    · rcases marked with _ | (_ | _)
      · cases hnext
      · cases hnext
      · exact ⟨rfl, htarget, rfl⟩
    rcases marked with _ | (_ | _)
    · exact hret _
    · refine ⟨confirmed_call fun found hnext => ?_, fun found => ?_⟩
      · rcases found with _ | (_ | ⟨_, _, _, _, _ | _ | _⟩)
        · cases hnext
        · cases hnext
        · cases hnext
        · exact ⟨rfl, .inl ⟨htarget, _, rfl, rfl⟩⟩
        · cases hnext
      · rcases found with _ | (_ | ⟨_, _, _, _, _ | _ | _⟩) <;> exact hret _
    · exact hret _
  split
  · rename_i htarget
    refine ⟨confirmed_call fun deleted hnext => ?_, fun deleted => ?_⟩
    · rcases deleted with _ | (_ | _)
      · cases hnext
      · cases hnext
      · exact ⟨rfl, htarget, rfl⟩
    rcases deleted with _ | (_ | _)
    · exact hret _
    · refine ⟨confirmed_call fun found hnext => ?_, fun found => ?_⟩
      · rcases found with _ | (_ | _)
        · cases hnext
        · exact ⟨rfl, .inr ⟨htarget, rfl⟩⟩
        · cases hnext
      · rcases found with _ | (_ | _) <;> exact hret _
    · exact hret _
  · exact hret _

theorem confirmed_body (task : Task) : task.body.Always (Confirmed task) := by
  cases task with
  | transitionNetwork id target => exact confirmed_transition id target
  | registerNetwork | deleteNetwork | deprovisionNetworksFor =>
    exact confirmed_of_ne (fun _ _ heq => by cases heq) _

section

variable {choice : Choice} {s s' : Registry}

theorem settle_ok {α : Type} {out : α × Registry} {value : α}
    (hexec : some (choice.settle s out) = some (.ok value, s')) : out = (value, s') := by
  unfold Choice.settle at hexec
  split at hexec
  · cases hexec
  · cases hexec
    rfl

/-- The network is as the answer says when the statement is done. -/
theorem stateOf_of_confirms {id target : String} {c : Call} {r : c.Resp}
    (hconfirms : Confirms id target c r) (hexec : exec choice c s = some (r, s')) :
    (target = "active" ∧ s'.stateOf id = some .active) ∨
      (target = "deprovisioned" ∧ s'.stateOf id = none) := by
  cases c with
  | markActive n =>
    obtain ⟨rfl, htarget, rfl⟩ := hconfirms
    obtain ⟨hmarked, rfl⟩ := Prod.mk.inj (settle_ok hexec)
    obtain ⟨row, hrow, hactive⟩ := get?_markActive hmarked
    exact .inl ⟨htarget, (congrArg _ hrow).trans (congrArg some hactive)⟩
  | deleteIfDeprovisioning n =>
    obtain ⟨rfl, htarget, rfl⟩ := hconfirms
    have hout := settle_ok hexec
    unfold Registry.deleteIfDeprovisioning at hout
    dsimp only at hout
    split at hout
    · rename_i hdeleted
      cases hout
      exact .inr ⟨htarget, congrArg _ (get?_deleteIfDeprovisioning hdeleted)⟩
    · cases hout
  | findById n =>
    obtain ⟨rfl, ⟨htarget, view, rfl, hactive⟩ | ⟨htarget, rfl⟩⟩ := hconfirms
    · obtain ⟨hfound, rfl⟩ := Prod.mk.inj (settle_ok hexec)
      obtain ⟨row, hrow, rfl⟩ := map_eq_some_iff.mp hfound
      exact .inl ⟨htarget, (congrArg _ hrow).trans (congrArg some hactive)⟩
    · obtain ⟨hfound, rfl⟩ := Prod.mk.inj (settle_ok hexec)
      exact .inr ⟨htarget, congrArg _ (map_eq_none_iff.mp hfound)⟩
  | newId | statement | findBySlug | setDeprovisioning | setDeprovisioningForTenant =>
    exact hconfirms.elim

end

/-- A transition that succeeds with a step finds the network as it was asked for. -/
theorem stateOf_of_transitioned {i : ℕ} {choice : Choice} (hkeeps : cfg.Keeps Confirmed)
    (hstep : cfg.step (.step i choice) = some cfg') {th : world.Thread}
    (hth : cfg'.threads[i]? = some th) (hret : th.prog = .ret (.transitioned (.ok ())))
    {id : String} (htask : th.task = .transitionNetwork id target) :
    (target = "active" ∧ cfg'.state.stateOf id = some .active) ∨
      (target = "deprovisioned" ∧ cfg'.state.stateOf id = none) := by
  obtain ⟨old, new, s', hold, hadv, rfl⟩ := World.Config.step_step_eq_some.mp hstep
  obtain ⟨c, next, r, hprog, hexec, rfl⟩ := World.Thread.advance_eq_some.mp hadv
  simp only [List.getElem?_set_self (List.getElem?_eq_some_iff.mp hold).1, some.injEq] at hth
  subst hth
  have hconfirmed := hkeeps old (List.mem_of_getElem? hold)
  rw [hprog] at hconfirmed
  exact stateOf_of_confirms (hconfirmed.1 id target htask c next r rfl hret) hexec

/-- In every run, the states of a network are stages of the lifecycle in their order, a row is
deleted only when it is slated, and a transition succeeds only when the network is active, or
has no row, as its last statement is done. -/
theorem lifecycle_one_way (server : Server) {acts : List world.Action} {cfg : world.Config}
    (hrun : world.system.run (.start (.start server)) acts = some cfg) :
    (∀ id, (((world.system.visits (.start (.start server)) acts).map (·.state.stateOf id)).destutter
        (· ≠ ·)).Sublist lifecycle) ∧
      (∀ a cfg', world.system.step cfg a = some cfg' → ∀ id state,
        cfg.state.stateOf id = some state → cfg'.state.stateOf id = none →
          state = .deprovisioning) ∧
      ∀ i choice cfg', world.system.step cfg (.step i choice) = some cfg' →
        ∀ th, cfg'.threads[i]? = some th → th.prog = .ret (.transitioned (.ok ())) → ∀ id,
          (th.task = .transitionNetwork id "active" → cfg'.state.stateOf id = some .active) ∧
          (th.task = .transitionNetwork id "deprovisioned" → cfg'.state.stateOf id = none) := by
  have hheld : Held cfg := world.system.run_invariant (fun _ _ _ h hstep => held_step h hstep)
    (held_start server) hrun
  refine ⟨fun id => ?_, fun a cfg' hstep id state hstate hnone => ?_, ?_⟩
  · have hchain := world.system.isChain_visits
      (R := fun u v => u.state.position id ≤ v.state.position id)
      (fun _ _ _ h hstep => ⟨(forward_step h hstep).position_le id, held_step h hstep⟩)
      (held_start server) acts
    exact destutter_map_sublist hchain fun u _ => lifecycle_position u.state id
  · rcases (forward_step hheld hstep).kept id state hstate with ⟨_, hsome, -⟩ | ⟨-, hslated, -⟩
    · rw [hnone] at hsome
      cases hsome
    · exact hslated
  · intro i choice cfg' hstep th hth hret id
    have hkeeps := World.Config.keeps_of_run confirmed_body hrun
    refine ⟨fun htask => ?_, fun htask => ?_⟩
    · rcases stateOf_of_transitioned hkeeps hstep hth hret htask with ⟨-, hactive⟩ | ⟨hne, -⟩
      · exact hactive
      · exact absurd hne (by decide)
    · rcases stateOf_of_transitioned hkeeps hstep hth hret htask with ⟨hne, -⟩ | ⟨-, hnone⟩
      · exact absurd hne (by decide)
      · exact hnone

/-- A network is registered, published, deleted by its tenant and torn down. -/
def sampleLife : List world.Action :=
  .spawn (.registerNetwork ⟨"tenant-1", "home", "Home", "eu", "key-1", 1, 1⟩) :: steps 0 8 ++
    .spawn (.transitionNetwork "net-1" "active") :: steps 1 1 ++
    .spawn (.deleteNetwork "tenant-1" "home") :: steps 2 2 ++
    .spawn (.transitionNetwork "net-1" "deprovisioned") :: steps 3 1
where
  steps (i n : ℕ) : List world.Action := replicate n (.step i ⟨"net-1", false, false⟩)

def sampleStates : List (Option ProvisioningState) :=
  ((world.system.visits (.start (.start ⟨⟨∅, ∅, ∅⟩, [], [], []⟩)) sampleLife).map
    (·.state.stateOf "net-1")).destutter (· ≠ ·)

theorem lifecycle_one_way_sample : sampleStates.Sublist lifecycle ∧ sampleStates = lifecycle :=
  ⟨(lifecycle_one_way _ (System.run_eq_some_runD _ (by decide +kernel))).1 "net-1",
    by decide +kernel⟩

end Wardnet.Authority.Lifecycle
