/-
# DDNS replicas at work

Any number of replicas run provisioner and reaper passes, and serve IP reports
and ACME challenge updates. A repository statement, a provider request and each
Tenants statement behind a mesh request are one atomic call; everything between
two calls of a task belongs to the other tasks. A pass reads pages until one is
not full; its model reads at most the number of pages it is started with.
-/

import Wardnet.Base.Pool
import Wardnet.Ddns.State

namespace Wardnet.Ddns

open Base Tenants

inductive Failure
  | failed
  deriving DecidableEq

/-- The atomic calls of a replica. A record is created on behalf of the network
that the first argument names. -/
inductive Call
  | findById (networkId : String)
  | recordIp (networkId ip : String)
  | claimARecord (networkId fqdn : String) (recordId : RecordId)
  | casAcmeRecords (networkId : String) (expected newIds : List RecordId)
  | deleteOperational (networkId : String)
  | findARecord (fqdn : String)
  | upsertRecord (networkId : String) (type : RecordType) (fqdn content : String)
      (existing : Option RecordId)
  | deleteRecord (recordId : RecordId)
  | listNetworks (state : ProvisioningState) (region : String) (afterId : Option String)
      (limit : ℕ)
  | markNetworkActive (networkId : String)
  | finishDeprovision (networkId : String)
  | networkState (networkId : String)
  deriving DecidableEq

@[reducible]
def Call.Resp : Call → Type
  | .findById _ => Except Failure (Option Operational)
  | .recordIp .. => Except Failure Unit
  | .claimARecord .. => Except Failure Bool
  | .casAcmeRecords .. => Except Failure Bool
  | .deleteOperational _ => Except Failure Unit
  | .findARecord _ => Except Failure (Option RecordId)
  | .upsertRecord .. => Except Failure RecordId
  | .deleteRecord _ => Except Failure Unit
  | .listNetworks .. => Except Failure (List NetworkView)
  | .markNetworkActive _ => Except Failure Bool
  | .finishDeprovision _ => Except Failure Bool
  | .networkState _ => Except Failure (Option ProvisioningState)

/-- What a call leaves open: whether it fails, and which of several A records of
a name a lookup returns. -/
structure Choice where
  fails : Bool
  pick : RecordId

namespace Cloud

/-- The effect of a call that does not fail. Updating a missing record is an
error of the provider; a lookup returns some record of the name if there is
one. -/
def perform (pick : RecordId) : (c : Call) → Cloud → Option (c.Resp × Cloud)
  | .findById networkId, s => some (.ok (s.operational.get? networkId), s)
  | .recordIp networkId ip, s =>
    some (.ok (), { s with operational := s.operational.recordIp networkId ip })
  | .claimARecord networkId fqdn recordId, s =>
    let out := s.operational.claimARecord networkId fqdn recordId
    some (.ok out.1, { s with operational := out.2 })
  | .casAcmeRecords networkId expected newIds, s =>
    let out := s.operational.casAcmeRecords networkId expected newIds
    some (.ok out.1, { s with operational := out.2 })
  | .deleteOperational networkId, s =>
    some (.ok (), { s with operational := s.operational.erase networkId })
  | .findARecord fqdn, s =>
    if s.zone.aRecords fqdn = [] then some (.ok none, s)
    else if pick ∈ s.zone.aRecords fqdn then some (.ok (some pick), s)
    else none
  | .upsertRecord networkId type fqdn content existing, s =>
    match existing with
    | none =>
      let out := s.zone.create ⟨type, fqdn, content, networkId⟩
      some (.ok out.1, { s with zone := out.2 })
    | some id =>
      if s.zone.records.contains id then
        some (.ok id, { s with zone := s.zone.update id type fqdn content })
      else
        some (.error .failed, s)
  | .deleteRecord recordId, s => some (.ok (), { s with zone := s.zone.delete recordId })
  | .listNetworks state region afterId limit, s =>
    some (.ok (s.directory.networks.listForReconcile state region afterId limit), s)
  | .markNetworkActive networkId, s =>
    let out := s.directory.markActive networkId
    some (.ok out.1, { s with directory := out.2 })
  | .finishDeprovision networkId, s =>
    let out := s.directory.finishDeprovision networkId
    some (.ok out.1, { s with directory := out.2 })
  | .networkState networkId, s =>
    some (.ok ((s.directory.getNetwork networkId).map (·.provisioningState)), s)

def refuse : (c : Call) → c.Resp
  | .findById _ | .recordIp .. | .claimARecord .. | .casAcmeRecords .. | .deleteOperational _
  | .findARecord _ | .upsertRecord .. | .deleteRecord _ | .listNetworks ..
  | .markNetworkActive _ | .finishDeprovision _ | .networkState _ => .error .failed

def exec (choice : Choice) (c : Call) (s : Cloud) : Option (c.Resp × Cloud) :=
  if choice.fails then some (refuse c, s) else perform choice.pick c s

section

variable {pick id : RecordId} {networkId fqdn content : String} {type : RecordType} {s s' : Cloud}

theorem perform_of_exec {choice : Choice} {c : Call} {r : c.Resp} (hfails : choice.fails = false)
    (hexec : exec choice c s = some (r, s')) : perform choice.pick c s = some (r, s') := by
  rwa [exec, hfails, if_neg Bool.false_ne_true] at hexec

/-- A lookup finds nothing, or some record of the name. -/
theorem perform_findARecord {r : (Call.findARecord fqdn).Resp}
    (hperform : perform pick (.findARecord fqdn) s = some (r, s')) :
    s' = s ∧ (s.zone.aRecords fqdn = [] ∧ r = .ok none ∨
      pick ∈ s.zone.aRecords fqdn ∧ r = .ok (some pick)) := by
  simp only [perform] at hperform
  split at hperform
  · rename_i hnone
    cases hperform
    exact ⟨rfl, .inl ⟨hnone, rfl⟩⟩
  · split at hperform
    · rename_i hpick
      cases hperform
      exact ⟨rfl, .inr ⟨hpick, rfl⟩⟩
    · cases hperform

/-- An update rewrites the record, or fails because there is none. -/
theorem perform_update {r : (Call.upsertRecord networkId type fqdn content (some id)).Resp}
    (hperform : perform pick (.upsertRecord networkId type fqdn content (some id)) s =
      some (r, s')) :
    s.zone.records.contains id = true ∧ r = .ok id ∧
        s' = { s with zone := s.zone.update id type fqdn content } ∨
      ¬ s.zone.records.contains id = true ∧ r = .error .failed ∧ s' = s := by
  simp only [perform] at hperform
  split at hperform
  · rename_i hfound
    cases hperform
    exact .inl ⟨hfound, rfl, rfl⟩
  · rename_i hmissing
    cases hperform
    exact .inr ⟨hmissing, rfl, rfl⟩

end

end Cloud

abbrev Proc := Prog Call Call.Resp

abbrev issue (c : Call) : Proc c.Resp := Base.perform c

inductive DdnsError
  | conflict (message : String)
  | internal
  deriving DecidableEq

/-- A service operation: `?` on a failed call returns an internal error. -/
abbrev Service := ExceptT DdnsError Proc

def orInternal {α : Type} (p : Proc (Except Failure α)) : Service α :=
  ExceptT.mk (p.bind fun r => .ret (r.mapError fun _ => DdnsError.internal))

/-! ## The service -/

/-- `report_ip`: update the record in place if there is one, then store the ip. -/
def reportIp (networkId ip : String) : Service Unit := do
  let op ← orInternal (issue (.findById networkId))
  match op.bind fun op => op.cfARecordId.bind fun id => op.fqdn.map fun fqdn => (id, fqdn) with
  | some (id, fqdn) =>
    let _ ← orInternal (issue (.upsertRecord networkId .a fqdn ip (some id)))
  | none => pure ()
  orInternal (issue (.recordIp networkId ip))

/-- `provision`: adopt or create the A record, then claim it. The loser of the
claim deletes its record unless it is the one the winner stored. -/
def provision (networkId fqdn ip : String) : Service Unit := do
  let existing ← orInternal (issue (.findARecord fqdn))
  let recordId ← orInternal (issue (.upsertRecord networkId .a fqdn ip existing))
  let won ← orInternal (issue (.claimARecord networkId fqdn recordId))
  if won then pure () else
    let op ← orInternal (issue (.findById networkId))
    let winner := op.bind Operational.cfARecordId
    if winner = some recordId then pure () else
      -- A failed delete is only logged.
      let _ ← (issue (.deleteRecord recordId) : Proc _)

def networkFqdn (networkId : String) : Service (Option String) := do
  let op ← orInternal (issue (.findById networkId))
  pure (op.bind Operational.fqdn)

def currentAcmeIds (networkId : String) : Service (List RecordId) := do
  let op ← orInternal (issue (.findById networkId))
  pure ((op.map Operational.cfAcmeRecordIds).getD [])

def deleteRecordsOrErr : List RecordId → Service Unit
  | [] => pure ()
  | id :: ids => do
      orInternal (issue (.deleteRecord id))
      deleteRecordsOrErr ids

/-- `cleanup_created`: failures are only logged. -/
def cleanupCreated : List RecordId → Proc Unit
  | [] => pure ()
  | id :: ids => do
      let _ ← issue (.deleteRecord id)
      cleanupCreated ids

def casOrConflict (networkId : String) (prior newIds : List RecordId) : Service Unit := do
  let stored ← orInternal (issue (.casAcmeRecords networkId prior newIds))
  if stored then pure ()
  else throw (.conflict "a concurrent ACME challenge update was in flight; retry")

/-- Create one TXT record per value; on a failure delete what was created and
clear the stored ids, then report the failure. -/
def createTxtRecords (networkId fqdn : String) (prior : List RecordId) :
    List String → List RecordId → Service (List RecordId)
  | [], newIds => pure newIds
  | value :: values, newIds => do
      match ← (issue (.upsertRecord networkId .txt fqdn value none) : Proc _) with
      | .ok id => createTxtRecords networkId fqdn prior values (newIds ++ [id])
      | .error _ =>
        let _ ← (cleanupCreated newIds : Proc _)
        let _ ← (issue (.casAcmeRecords networkId prior []) : Proc _)
        throw .internal

def setAcmeChallenge (networkId fqdn : String) (values : List String) : Service Unit := do
  let prior ← currentAcmeIds networkId
  deleteRecordsOrErr prior
  let newIds ← createTxtRecords networkId fqdn prior values []
  casOrConflict networkId prior newIds

def clearAcmeChallenge (networkId : String) : Service Unit := do
  let prior ← currentAcmeIds networkId
  if prior = [] then pure () else
    deleteRecordsOrErr prior
    casOrConflict networkId prior []

/-- `delete_records`: delete everything the row names, then the row. -/
def deleteRecords (networkId : String) : Service Unit := do
  let some op ← orInternal (issue (.findById networkId)) | pure ()
  deleteRecordsOrErr op.recordIds
  orInternal (issue (.deleteOperational networkId))

/-! ## The endpoints -/

/-- `From<DdnsError> for ApiError`. -/
def DdnsError.toApiError : DdnsError → ApiError
  | .conflict message => .conflict message
  | .internal => .internal

def orApiError {α : Type} (p : Service α) : ExceptT ApiError Proc α :=
  ExceptT.mk (p.run.bind fun r => .ret (r.mapError DdnsError.toApiError))

/-- `PUT /v1/acme-challenge` after its checks on the request: the challenge name
derives from the name under which the network was published. -/
def putAcmeChallenge (networkId : String) (values : List String) :
    ExceptT ApiError Proc Unit := do
  let some fqdn ← orApiError (networkFqdn networkId)
    | throw (.conflict "network is not yet active")
  orApiError (setAcmeChallenge networkId ("_acme-challenge." ++ fqdn) values)

/-! ## The passes -/

def pageLimit : ℕ := 100

inductive Target
  | active
  | deprovisioned

/-- `transition_network`: the guarded statement, and a read of the state to
answer an idempotent repetition. -/
def transition (networkId : String) : Target → ExceptT Failure Proc (Except ApiError Unit)
  | .active => do
      if ← ExceptT.mk (issue (.markNetworkActive networkId)) then return .ok ()
      match ← ExceptT.mk (issue (.networkState networkId)) with
      | some .active => return .ok ()
      | none => return .error (.notFound "no such network")
      | some _ => return .error (.conflict "network is not in 'provisioning'")
  | .deprovisioned => do
      if ← ExceptT.mk (issue (.finishDeprovision networkId)) then return .ok ()
      match ← ExceptT.mk (issue (.networkState networkId)) with
      | none => return .ok ()
      | some _ => return .error (.conflict "network is not in 'deprovisioning'")

/-- One network of a provisioner pass. Every failure is only logged. -/
def provisionNetwork (subdomainParent : String) (net : NetworkView) : Proc Unit := do
  match ← issue (.findById net.id) with
  | .error _ => pure ()
  | .ok op =>
    match op.bind Operational.ip with
    | none => pure ()
    | some ip =>
      match ← (provision net.id (net.slug ++ "." ++ subdomainParent) ip).run with
      | .error _ => pure ()
      | .ok _ =>
        let _ ← (transition net.id .active).run

/-- One network of a reaper pass. Every failure is only logged. -/
def reapNetwork (net : NetworkView) : Proc Unit := do
  match ← (deleteRecords net.id).run with
  | .error _ => pure ()
  | .ok _ =>
    let _ ← (transition net.id .deprovisioned).run

def forPage (visit : NetworkView → Proc Unit) : List NetworkView → Proc Unit
  | [] => pure ()
  | net :: page => do
      visit net
      forPage visit page

/-- Drain the pages of a state: go on while pages are full. -/
def drain (state : ProvisioningState) (region : String) (visit : NetworkView → Proc Unit) :
    ℕ → Option String → Proc Unit
  | 0, _ => pure ()
  | pages + 1, afterId => do
      match ← issue (.listNetworks state region afterId pageLimit) with
      | .error _ => pure ()
      | .ok page =>
        if page = [] then pure () else
          forPage visit page
          if page.length = pageLimit then
            drain state region visit pages (page.getLast?.map NetworkView.id)
          else pure ()

def provisionerTick (region subdomainParent : String) (pages : ℕ) : Proc Unit :=
  drain .provisioning region (provisionNetwork subdomainParent) pages none

def reaperTick (region : String) (pages : ℕ) : Proc Unit :=
  drain .deprovisioning region reapNetwork pages none

/-! ## The region as a world of tasks -/

inductive Task
  | provisionerTick (region subdomainParent : String) (pages : ℕ)
  | reaperTick (region : String) (pages : ℕ)
  | reportIp (networkId ip : String)
  | setAcmeChallenge (networkId : String) (values : List String)
  | clearAcmeChallenge (networkId : String)

def Task.body : Task → Proc (Except ApiError Unit)
  | .provisionerTick region subdomainParent pages => do
      Ddns.provisionerTick region subdomainParent pages
      pure (.ok ())
  | .reaperTick region pages => do
      Ddns.reaperTick region pages
      pure (.ok ())
  | .reportIp networkId ip => (orApiError (Ddns.reportIp networkId ip)).run
  | .setAcmeChallenge networkId values => (putAcmeChallenge networkId values).run
  | .clearAcmeChallenge networkId => (orApiError (Ddns.clearAcmeChallenge networkId)).run

/-- The moves of Tenants on its own: registrations, deletions and lost
subscriptions. A network becomes active, and its row is deleted, only when a
replica reports so. -/
def tenantsMove (d : Directory) : Directory.Move → Option Directory
  | .markActive _ | .finishDeprovision _ => none
  | m => d.apply m

/-- Replicas running any tasks against the shared state while Tenants moves on. -/
@[reducible]
def world : World where
  State := Cloud
  Call := Call
  Resp := Call.Resp
  Choice := Choice
  exec := Cloud.exec
  Task := Task
  Result := Except ApiError Unit
  body := Task.body
  Env := Directory.Move
  env m s := (tenantsMove s.directory m).map fun directory => { s with directory }

end Wardnet.Ddns
