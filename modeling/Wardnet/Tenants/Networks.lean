/-
# The networks table

The statements of the network repository that move a network through its
lifecycle. Each is one atomic SQL statement; the lifecycle only moves forward,
and a row is deleted only from `deprovisioning`.
-/

import Mathlib.Data.List.Sort
import Mathlib.Data.String.Basic
import Wardnet.Base.Store
import Wardnet.Contract

namespace Wardnet.Tenants

open Base

/-- Text that a column of the type `VARCHAR(n)` takes. -/
def fitsVarchar (n : ℕ) (text : String) : Bool :=
  text.toList.length ≤ n ∧ Char.ofNat 0 ∉ text.toList

/-- A row of the networks table, without its primary key. -/
structure NetworkRow where
  tenantId : String
  slug : String
  displayName : String
  region : String
  provisioningState : ProvisioningState
  deriving DecidableEq

/-- The values of a row that the columns of the table take. -/
def NetworkRow.fits (row : NetworkRow) : Bool :=
  fitsVarchar 63 row.slug ∧ fitsVarchar 255 row.displayName ∧ fitsVarchar 63 row.region

def NetworkRow.view (id : String) (row : NetworkRow) : NetworkView :=
  ⟨id, row.tenantId, row.slug, row.region, row.provisioningState⟩

abbrev NetworkTable := Store String NetworkRow

namespace NetworkTable

def findById (networks : NetworkTable) (id : String) : Option NetworkView :=
  (networks.get? id).map (NetworkRow.view id)

def findBySlug (networks : NetworkTable) (slug : String) : Option NetworkView :=
  (networks.select fun _ row => row.slug = slug).head?.map fun entry => entry.2.view entry.1

/-- `list_for_reconcile`: a cursor page of networks in a state and region, by
id. -/
def listForReconcile (networks : NetworkTable) (state : ProvisioningState) (region : String)
    (afterId : Option String) (limit : ℕ) : List NetworkView :=
  let rows := networks.select fun id row =>
    row.provisioningState = state ∧ row.region = region ∧ ∀ after ∈ afterId, after < id
  ((rows.map fun entry => entry.2.view entry.1).insertionSort
    fun a b => a.id ≤ b.id).take limit

/-- `mark_active`: the provisioner published the network's DNS record. -/
def markActive (networks : NetworkTable) (id : String) : Bool × NetworkTable :=
  let out := networks.updateWhere
    (fun k row => k = id ∧ row.provisioningState = .provisioning)
    (fun row => { row with provisioningState := .active })
  (0 < out.1, out.2)

/-- `delete_if_deprovisioning`: the reaper tore the network's DNS down. -/
def deleteIfDeprovisioning (networks : NetworkTable) (id : String) : Bool × NetworkTable :=
  let out := networks.deleteWhere fun k row => k = id ∧ row.provisioningState = .deprovisioning
  (0 < out.1, out.2)

/-- `set_deprovisioning`: slate one network for teardown. -/
def setDeprovisioning (networks : NetworkTable) (id : String) : Bool × NetworkTable :=
  let out := networks.updateWhere
    (fun k row => k = id ∧ row.provisioningState ≠ .deprovisioning)
    (fun row => { row with provisioningState := .deprovisioning })
  (0 < out.1, out.2)

/-- `set_deprovisioning_for_tenant`: slate all of a tenant's networks. -/
def setDeprovisioningForTenant (networks : NetworkTable) (tenantId : String) :
    ℕ × NetworkTable :=
  networks.updateWhere
    (fun _ row => row.tenantId = tenantId ∧ row.provisioningState ≠ .deprovisioning)
    (fun row => { row with provisioningState := .deprovisioning })

theorem setDeprovisioningForTenant_snd (networks : NetworkTable) (tenantId : String) :
    (networks.setDeprovisioningForTenant tenantId).2 = networks.modify fun _ row =>
      if row.tenantId = tenantId then { row with provisioningState := .deprovisioning }
      else row := by
  simp only [setDeprovisioningForTenant, Store.updateWhere]
  congr
  funext _ row
  -- Slating a network a second time changes nothing.
  obtain ⟨owner, slug, displayName, region, state⟩ := row
  by_cases htenant : owner = tenantId
  · by_cases hstate : state = .deprovisioning
    · simp [htenant, hstate]
    · simp [htenant, hstate]
  · simp [htenant]

/-- Whether no row holds the slug: the unique index on `slug`. -/
def slugFree (networks : NetworkTable) (slug : String) : Bool :=
  (networks.select fun _ row => row.slug = slug).isEmpty

variable {networks : NetworkTable} {state : ProvisioningState} {region : String}
  {afterId : Option String} {limit : ℕ} {view : NetworkView}

theorem slugFree_iff {slug : String} :
    networks.slugFree slug = true ↔ ∀ id row, networks.get? id = some row → row.slug ≠ slug := by
  simp only [slugFree, List.isEmpty_iff, List.eq_nil_iff_forall_not_mem, Prod.forall,
    Store.mem_select_iff, decide_eq_true_eq, not_and]

/-- A listed network is in the requested state, under its own slug. -/
theorem row_of_mem_listForReconcile
    (hmem : view ∈ networks.listForReconcile state region afterId limit) :
    ∃ row, networks.get? view.id = some row ∧ row.provisioningState = state ∧
      row.slug = view.slug := by
  have hview := List.mem_of_mem_take hmem
  rw [List.mem_insertionSort] at hview
  obtain ⟨⟨id, row⟩, hrow, rfl⟩ := List.mem_map.mp hview
  obtain ⟨hget, hcond⟩ := Store.mem_select_iff.mp hrow
  exact ⟨row, hget, (of_decide_eq_true hcond).1, rfl⟩

theorem state_of_mem_listForReconcile
    (hmem : view ∈ networks.listForReconcile state region afterId limit) :
    ∃ row, networks.get? view.id = some row ∧ row.provisioningState = state := by
  obtain ⟨row, hrow, hstate, -⟩ := row_of_mem_listForReconcile hmem
  exact ⟨row, hrow, hstate⟩

/-- The repository reports a transition only when the row is active. -/
theorem get?_markActive {id : String} (hmarked : (networks.markActive id).1 = true) :
    ∃ row, (networks.markActive id).2.get? id = some row ∧ row.provisioningState = .active := by
  obtain ⟨k, row, hrow, hcond⟩ := Store.updateWhere_pos_iff.mp (of_decide_eq_true hmarked)
  obtain ⟨rfl, hstate⟩ := of_decide_eq_true hcond
  exact ⟨{ row with provisioningState := .active }, by simp [markActive, hrow, hstate], rfl⟩

/-- The repository reports a deletion only when the row is gone. -/
theorem get?_deleteIfDeprovisioning {id : String}
    (hdeleted : (networks.deleteIfDeprovisioning id).1 = true) :
    (networks.deleteIfDeprovisioning id).2.get? id = none := by
  obtain ⟨k, row, hrow, hcond⟩ :=
    Store.deleteWhere_pos_iff.mp (of_decide_eq_true hdeleted)
  obtain ⟨rfl, hstate⟩ := of_decide_eq_true hcond
  simp [deleteIfDeprovisioning, hrow, hstate]

end NetworkTable

end Wardnet.Tenants
