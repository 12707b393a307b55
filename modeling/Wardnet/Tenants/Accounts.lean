/-
# Tenant accounts

The tenants table with its tombstones, the daemons and pending enrollments that
network registration touches, and the login methods and sessions that hang off a
tenant. An email is unique among live tenants only. Tenant ids are random and are
never drawn twice; the table remembers the ids of swept tenants to say so.
-/

import Wardnet.Tenants.Networks

namespace Wardnet.Tenants

open Base

/-- A tenant row. The tombstone is set when the account is deregistered. -/
structure Tenant where
  email : String
  deregisteredAt : Option Int
  deriving DecidableEq

/-- The tenants table, with the index `uq_tenants_email_active`. -/
structure TenantTable where
  rows : Store String Tenant
  /-- The ids of swept tenants. -/
  retired : List String
  email_unique : ∀ id id' row row', rows.get? id = some row → rows.get? id' = some row' →
    row.deregisteredAt = none → row'.deregisteredAt = none → row.email = row'.email → id = id'
  retired_gone : ∀ id ∈ retired, rows.get? id = none

inductive CreateTenantOutcome
  | created
  | emailTaken
  deriving DecidableEq

namespace TenantTable

def empty : TenantTable := ⟨∅, [], by simp, by simp⟩

/-- `find_by_id`: tombstoned tenants are found too. -/
def findById (table : TenantTable) (id : String) : Option Tenant := table.rows.get? id

/-- `find_by_email`: the live tenant of an email. -/
def findByEmail (table : TenantTable) (email : String) : Option (String × Tenant) :=
  (table.rows.select fun _ row => row.email = email ∧ row.deregisteredAt = none).head?

def isLive (table : TenantTable) (id : String) : Bool :=
  (table.rows.get? id).any (·.deregisteredAt = none)

variable {table : TenantTable} {email : String}

theorem isSome_findById_of_isLive {id : String} (h : table.isLive id = true) :
    (table.findById id).isSome = true := by
  obtain ⟨row, hrow, -⟩ := (Option.any_eq_true _ _).mp h
  rw [findById, hrow]
  rfl

/-- `list_live_ids`. -/
def liveIds (table : TenantTable) : List String :=
  (table.rows.select fun _ row => row.deregisteredAt = none).map Prod.fst

theorem mem_liveIds_iff {id : String} : id ∈ table.liveIds ↔ table.isLive id = true := by
  simp [liveIds, isLive, Store.mem_select_iff, Option.any_eq_true]

/-- `create`: an email clash is an outcome; a clash of the primary key is a
failed statement. -/
def create (table : TenantTable) (id email : String) :
    Option (CreateTenantOutcome × TenantTable) :=
  if hid : table.rows.get? id = none ∧ id ∉ table.retired then
    if hemail : table.rows.select (fun _ row => row.email = email ∧ row.deregisteredAt = none)
        = [] then
      some (.created,
        { table with
          rows := table.rows.insert id ⟨email, none⟩
          email_unique := by
            have hfree : ∀ k row, table.rows.get? k = some row → row.deregisteredAt = none →
                row.email ≠ email := by
              intro k row hrow hlive heq
              have : (k, row) ∈ table.rows.select
                  (fun _ row => row.email = email ∧ row.deregisteredAt = none) :=
                Store.mem_select_iff.mpr ⟨hrow, by simp [heq, hlive]⟩
              rw [hemail] at this
              cases this
            intro k k' row row' hrow hrow' hlive hlive' heq
            rw [Store.get?_insert] at hrow hrow'
            split at hrow <;> split at hrow'
            · simp_all
            · cases hrow
              exact absurd heq.symm (hfree k' row' hrow' hlive')
            · cases hrow'
              exact absurd heq (hfree k row hrow hlive)
            · exact table.email_unique k k' row row' hrow hrow' hlive hlive' heq
          retired_gone := by
            intro k hk
            have hne : k ≠ id := fun heq => hid.2 (heq ▸ hk)
            rw [Store.get?_insert_of_ne _ hne]
            exact table.retired_gone k hk })
    else some (.emailTaken, table)
  else none

theorem create_cases {table' : TenantTable} {id : String} {outcome : CreateTenantOutcome}
    (h : table.create id email = some (outcome, table')) :
    (outcome = .emailTaken ∧ table' = table) ∨ (outcome = .created ∧ table.rows.get? id = none ∧
        table'.rows = table.rows.insert id ⟨email, none⟩) := by
  unfold create at h
  split at h
  · rename_i hid
    split at h
    · cases h
      exact .inr ⟨rfl, hid.1, rfl⟩
    · cases h
      exact .inl ⟨rfl, rfl⟩
  · cases h

theorem retired_create {id : String} {out : CreateTenantOutcome × TenantTable}
    (h : table.create id email = some out) :
    out.2.retired = table.retired := by
  unfold create at h
  split at h
  · split at h
    · cases h
      rfl
    · cases h
      rfl
  · cases h

theorem fresh_of_create {id : String} {out : CreateTenantOutcome × TenantTable}
    (h : table.create id email = some out) :
    table.rows.get? id = none ∧ id ∉ table.retired := by
  unfold create at h
  split at h
  · assumption
  · cases h

/-- `set_deregistered`: stamp the tombstone on a live tenant. -/
def setDeregistered (table : TenantTable) (id : String) (now : Int) : Bool × TenantTable :=
  let out := table.rows.updateWhere (fun k row => k = id ∧ row.deregisteredAt = none)
    fun row => { row with deregisteredAt := some now }
  (0 < out.1,
    { table with
      rows := out.2
      email_unique := by
        have hlive : ∀ k row, out.2.get? k = some row → row.deregisteredAt = none →
            table.rows.get? k = some row := by
          intro k row hrow hnone
          obtain ⟨old, hold, hnew⟩ := Option.map_eq_some_iff.mp
            ((Store.get?_updateWhere ..).symm.trans hrow)
          split at hnew
          · rw [← hnew] at hnone
            cases hnone
          · rwa [← hnew]
        intro k k' row row' hrow hrow' hnone hnone'
        exact table.email_unique k k' row row' (hlive k row hrow hnone)
          (hlive k' row' hrow' hnone') hnone hnone'
      retired_gone := by
        intro k hk
        rw [Store.get?_updateWhere, table.retired_gone k hk]
        rfl })

section

variable (table : TenantTable) (id : String) (now : Int)

theorem setDeregistered_fst : (table.setDeregistered id now).1 = table.isLive id := by
  rw [Bool.eq_iff_iff]
  simp only [setDeregistered, decide_eq_true_eq, Store.updateWhere_pos_iff, isLive,
    Option.any_eq_true]
  constructor
  · rintro ⟨k, row, hrow, rfl, hlive⟩
    exact ⟨row, hrow, by simpa using hlive⟩
  · rintro ⟨row, hrow, hlive⟩
    exact ⟨id, row, hrow, rfl, by simpa using hlive⟩

theorem isLive_setDeregistered (n : String) :
    (table.setDeregistered id now).2.isLive n = (table.isLive n && decide (n ≠ id)) := by
  simp only [setDeregistered, isLive, Store.get?_updateWhere]
  cases table.rows.get? n with
  | none => rfl
  | some row =>
    by_cases heq : n = id <;> cases hstamp : row.deregisteredAt <;> simp [heq, hstamp]

theorem isSome_findById_setDeregistered (n : String) :
    ((table.setDeregistered id now).2.findById n).isSome = (table.findById n).isSome := by
  simp [setDeregistered, findById]

end

/-- The tombstoned tenants among those that `empty` allows. -/
def tombstoned (table : TenantTable) (empty : String → Bool) : List String :=
  (table.rows.select fun id row => row.deregisteredAt ≠ none ∧ empty id = true).map Prod.fst

theorem mem_tombstoned {empty : String → Bool} {id : String} (h : id ∈ table.tombstoned empty) :
    (table.findById id).isSome = true ∧ table.isLive id = false := by
  obtain ⟨⟨_, row⟩, hmem, rfl⟩ := List.mem_map.mp h
  obtain ⟨hrow, hstamped⟩ := Store.mem_select_iff.mp hmem
  simp only [findById, isLive, hrow]
  exact ⟨rfl, by simpa using (of_decide_eq_true hstamped).1⟩

def remove (table : TenantTable) (ids : List String) : TenantTable where
  rows := table.rows.retain fun id _ => id ∉ ids
  retired := ids ++ table.retired
  email_unique := by
    intro k k' row row' hrow hrow'
    rw [Store.get?_retain] at hrow hrow'
    exact table.email_unique k k' row row' (Option.filter_eq_some_iff.mp hrow).1
      (Option.filter_eq_some_iff.mp hrow').1
  retired_gone := by
    intro k hk
    rw [Store.get?_retain]
    rcases List.mem_append.mp hk with hids | hold
    · simp [hids]
    · simp [table.retired_gone k hold]

end TenantTable

/-! ## Daemons and network registration -/

structure DaemonRow where
  tenantId : String
  networkId : String
  deriving DecidableEq

structure PendingRow where
  tenantId : String
  expiresAt : Int
  deriving DecidableEq

structure Fleet where
  networks : NetworkTable
  daemons : Store String DaemonRow
  pending : Store String PendingRow

inductive RegisterNetworkOutcome
  | created
  | slugTaken
  | networkLimit
  | daemonLimit
  | daemonExists
  deriving DecidableEq

/-- `register_network` as one transaction: limits first, then the network, then
the daemon; every refusal rolls back. A clash of the primary key is a failed
statement, and so is a value that its column does not take. -/
def Fleet.registerNetwork (fleet : Fleet) (networkId : String) (row : NetworkRow)
    (publicKey : String) (maxNetworks maxDaemons : ℕ) :
    Option (RegisterNetworkOutcome × Fleet) :=
  if maxNetworks ≤ (fleet.networks.select fun _ r => r.tenantId = row.tenantId).length then
    some (.networkLimit, fleet)
  else if maxDaemons ≤ (fleet.daemons.select fun _ r => r.tenantId = row.tenantId).length then
    some (.daemonLimit, fleet)
  else if !row.fits then none
  else if !fleet.networks.slugFree row.slug then some (.slugTaken, fleet)
  else if fleet.networks.contains networkId then none
  else if !fitsVarchar 64 publicKey then none
  else if fleet.daemons.contains publicKey then some (.daemonExists, fleet)
  else
    some (.created,
      { networks := fleet.networks.insert networkId row
        daemons := fleet.daemons.insert publicKey ⟨row.tenantId, networkId⟩
        pending := fleet.pending.erase publicKey })

/-! ## Login methods -/

/-- A login method, under its provider and subject. -/
structure TenantIdentity where
  tenantId : String
  secretHash : Option String
  email : String
  deriving DecidableEq

/-- A browser session, under the hash of its token. -/
structure Session where
  tenantId : String
  expiresAt : Int
  createdAt : Int
  deriving DecidableEq

inductive InsertIdentityOutcome
  | created
  | alreadyExists
  deriving DecidableEq

abbrev IdentityTable := Store (String × String) TenantIdentity

/-- `insert`: the first row of a provider and subject stays. -/
def IdentityTable.insertIdentity (table : IdentityTable) (provider subject : String)
    (identity : TenantIdentity) : InsertIdentityOutcome × IdentityTable :=
  if table.contains (provider, subject) then (.alreadyExists, table)
  else (.created, Store.insert table (provider, subject) identity)

end Wardnet.Tenants
