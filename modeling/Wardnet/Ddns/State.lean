/-
# DNS records and the operational table

What the DDNS replicas of a region share: the records at the DNS provider, the
table of operational rows, and their view of Tenants. The provider never uses a
record id twice, and deleting a missing record succeeds. Each record remembers
the network it was created for; the provider does not know it.
-/

import Wardnet.Tenants.Directory

namespace Wardnet.Ddns

open Base Tenants Store Option

abbrev RecordId := ℕ

inductive RecordType
  | a
  | txt
  deriving DecidableEq

structure DnsRecord where
  type : RecordType
  name : String
  content : String
  /-- The network on whose behalf it was created. -/
  createdFor : String
  deriving DecidableEq

structure Zone where
  records : Store RecordId DnsRecord
  nextId : RecordId
  id_lt : ∀ id rec, records.get? id = some rec → id < nextId

namespace Zone

def empty : Zone := ⟨∅, 0, by simp⟩

/-- `create_record`: the record gets an id that was never used. -/
def create (zone : Zone) (rec : DnsRecord) : RecordId × Zone :=
  (zone.nextId,
    { records := zone.records.insert zone.nextId rec
      nextId := zone.nextId + 1
      id_lt := by
        intro id rec' hrec
        rw [Store.get?_insert] at hrec
        split at hrec
        · rename_i heq
          rw [heq]
          exact Nat.lt_succ_self _
        · exact Nat.lt_succ_of_lt (zone.id_lt id rec' hrec) })

/-- `update_record`: rewrite name and content of an existing record. -/
def update (zone : Zone) (id : RecordId) (type : RecordType) (name content : String) : Zone :=
  { zone with
    records := (zone.records.updateWhere (fun k _ => k = id)
      fun rec => { rec with type, name, content }).2
    id_lt := by
      intro k rec hrec
      rw [Store.get?_updateWhere, Option.map_eq_some_iff] at hrec
      obtain ⟨old, hold, -⟩ := hrec
      exact zone.id_lt k old hold }

/-- `delete_record`: a missing record counts as deleted. -/
def delete (zone : Zone) (id : RecordId) : Zone :=
  { zone with
    records := zone.records.erase id
    id_lt := by
      intro k rec hrec
      rw [Store.get?_erase] at hrec
      split at hrec
      · cases hrec
      · exact zone.id_lt k rec hrec }

def aRecords (zone : Zone) (fqdn : String) : List RecordId :=
  (zone.records.select fun _ rec => rec.type = .a ∧ rec.name = fqdn).map Prod.fst

variable {zone : Zone} {fqdn content : String} {k : RecordId}

theorem mem_aRecords_iff {id : RecordId} : id ∈ zone.aRecords fqdn ↔
      ∃ rec, zone.records.get? id = some rec ∧ rec.type = .a ∧ rec.name = fqdn := by
  simp [aRecords, mem_select_iff]

theorem nodup_aRecords (zone : Zone) (fqdn : String) : (zone.aRecords fqdn).Nodup :=
  (zone.records.nodup.sublist (List.filter_sublist.map _))

theorem mem_aRecords_create {networkId : String} {id : RecordId} :
    id ∈ (zone.create ⟨.a, fqdn, content, networkId⟩).2.aRecords fqdn ↔
      id = zone.nextId ∨ id ∈ zone.aRecords fqdn := by
  simp only [mem_aRecords_iff, create, get?_insert]
  by_cases heq : id = zone.nextId
  · simp [heq]
  · simp [heq]

theorem mem_aRecords_update {id : RecordId} (hexists : zone.records.contains id) :
    k ∈ (zone.update id .a fqdn content).aRecords fqdn ↔ k = id ∨ k ∈ zone.aRecords fqdn := by
  simp only [mem_aRecords_iff, update, get?_updateWhere]
  by_cases heq : k = id
  · obtain ⟨rec, hrec⟩ := contains_eq_true_iff.mp hexists
    simp [heq, hrec]
  · simp [heq]

theorem mem_aRecords_delete {id : RecordId} :
    k ∈ (zone.delete id).aRecords fqdn ↔ k ∈ zone.aRecords fqdn ∧ k ≠ id := by
  simp only [mem_aRecords_iff, delete, get?_erase]
  by_cases heq : k = id
  · simp [heq]
  · simp [heq]

end Zone

/-- An operational row: what the replicas know of one network's DNS. -/
structure Operational where
  ip : Option String
  fqdn : Option String
  cfARecordId : Option RecordId
  cfAcmeRecordIds : List RecordId
  deriving DecidableEq

def Operational.recordIds (op : Operational) : List RecordId :=
  op.cfARecordId.toList ++ op.cfAcmeRecordIds

abbrev OperationalTable := Store String Operational

namespace OperationalTable

/-- `record_ip`: an ip-only upsert that never touches a record id. -/
def recordIp (table : OperationalTable) (networkId ip : String) : OperationalTable :=
  match table.get? networkId with
  | none => table.insert networkId ⟨some ip, none, none, []⟩
  | some op => table.insert networkId { op with ip := some ip }

/-- `claim_a_record`: store the record id if none is stored yet. -/
def claimARecord (table : OperationalTable) (networkId fqdn : String) (recordId : RecordId) :
    Bool × OperationalTable :=
  let out := table.updateWhere (fun k op => k = networkId ∧ op.cfARecordId = none)
    fun op => { op with fqdn := some fqdn, cfARecordId := some recordId }
  (0 < out.1, out.2)

/-- `cas_acme_records`: replace the challenge ids if they are as expected. An
empty expectation also creates the row. -/
def casAcmeRecords (table : OperationalTable) (networkId : String)
    (expected newIds : List RecordId) : Bool × OperationalTable :=
  if expected = [] then
    match table.get? networkId with
    | none => (true, table.insert networkId ⟨none, none, none, newIds⟩)
    | some op =>
      if op.cfAcmeRecordIds = [] then
        (true, table.insert networkId { op with cfAcmeRecordIds := newIds })
      else (false, table)
  else
    let out := table.updateWhere (fun k op => k = networkId ∧ op.cfAcmeRecordIds = expected)
      fun op => { op with cfAcmeRecordIds := newIds }
    (0 < out.1, out.2)

def stored (table : OperationalTable) (networkId : String) : List RecordId :=
  ((table.get? networkId).map Operational.recordIds).getD []

/-! ## What the statements do to the stored ids -/

@[simp]
theorem stored_recordIp (table : OperationalTable) (networkId ip n : String) :
    (table.recordIp networkId ip).stored n = table.stored n := by
  unfold recordIp
  split
  · rename_i hrow
    by_cases heq : n = networkId
    · simp [stored, heq, hrow, Operational.recordIds]
    · simp [stored, heq]
  · rename_i op hrow
    by_cases heq : n = networkId
    · simp [stored, heq, hrow, Operational.recordIds]
    · simp [stored, heq]

variable {table : OperationalTable} {fqdn networkId : String} {recordId : RecordId}
  {expected newIds : List RecordId}

theorem mem_stored_erase {n : String} {id : RecordId} :
    id ∈ stored (table.erase networkId) n ↔ n ≠ networkId ∧ id ∈ table.stored n := by
  by_cases heq : n = networkId
  · simp [stored, heq]
  · simp [stored, heq]

def aRecordId (table : OperationalTable) (networkId : String) : Option RecordId :=
  (table.get? networkId).bind Operational.cfARecordId

theorem claimARecord_won_iff : (table.claimARecord networkId fqdn recordId).1 = true ↔
      ∃ op, table.get? networkId = some op ∧ op.cfARecordId = none := by
  simp [claimARecord, updateWhere_pos_iff]

/-- A claim for a row that has a record changes nothing. -/
theorem claimARecord_of_claimed {winner : RecordId}
    (hclaimed : table.aRecordId networkId = some winner) :
    table.claimARecord networkId fqdn recordId = (false, table) := by
  obtain ⟨op, hop, hid⟩ := bind_eq_some_iff.mp hclaimed
  apply Prod.ext
  · simp only
    rw [Bool.eq_false_iff, ne_eq, claimARecord_won_iff]
    rintro ⟨op', hop', hnone⟩
    simp_all
  · simp only [claimARecord, updateWhere]
    apply modify_eq_self
    intro k op' hop'
    by_cases hk : k = networkId
    · subst hk
      obtain rfl := some.inj (hop.symm.trans hop')
      simp [hid]
    · simp [hk]

/-- A claim for a row without a record stores the record and its name. -/
theorem get?_claimARecord_of_unclaimed {op : Operational} (hop : table.get? networkId = some op)
    (hnone : op.cfARecordId = none) :
    (table.claimARecord networkId fqdn recordId).2.get? networkId =
      some { op with fqdn := some fqdn, cfARecordId := some recordId } := by
  simp [claimARecord, hop, hnone]

/-- A claim stores its record exactly when it wins, and loses nothing. -/
theorem mem_stored_claimARecord {n : String} {id : RecordId} :
    id ∈ (table.claimARecord networkId fqdn recordId).2.stored n ↔ id ∈ table.stored n ∨
        (n = networkId ∧ id = recordId ∧ (table.claimARecord networkId fqdn recordId).1) := by
  rw [claimARecord_won_iff]
  simp only [claimARecord, stored, get?_updateWhere, map_map]
  cases hop : table.get? n with
  | none =>
    simp only [map_none, getD_none, List.not_mem_nil, false_or, false_iff]
    rintro ⟨rfl, -, op, hop', -⟩
    rw [hop] at hop'
    cases hop'
  | some op =>
    by_cases hwin : n = networkId ∧ op.cfARecordId = none
    · obtain ⟨rfl, hnone⟩ := hwin
      simp [hnone, Operational.recordIds, hop, or_comm]
    · have hlose : ¬ (n = networkId ∧ id = recordId ∧
          ∃ op', table.get? networkId = some op' ∧ op'.cfARecordId = none) := by
        rintro ⟨rfl, -, op', hop', hnone⟩
        rw [hop] at hop'
        cases hop'
        exact hwin ⟨rfl, hnone⟩
      simp [hwin, hlose]

def acmeIds (table : OperationalTable) (networkId : String) : List RecordId :=
  ((table.get? networkId).map Operational.cfAcmeRecordIds).getD []

/-- A compare-and-set hits exactly when the stored ids are the expected ones; a
missing row has none. -/
theorem casAcmeRecords_hit_iff : (table.casAcmeRecords networkId expected newIds).1 = true ↔
      table.acmeIds networkId = expected := by
  unfold casAcmeRecords acmeIds
  by_cases hempty : expected = []
  · rw [if_pos hempty, hempty]
    cases table.get? networkId with
    | none => simp
    | some op => by_cases hop : op.cfAcmeRecordIds = [] <;> simp [hop]
  · rw [if_neg hempty]
    simp only [updateWhere_pos_iff, decide_eq_true_eq]
    cases hop : table.get? networkId with
    | none =>
      simp only [map_none, getD_none, (Ne.symm hempty), iff_false]
      rintro ⟨k, op, hop', rfl, -⟩
      rw [hop] at hop'
      cases hop'
    | some op =>
      simp only [map_some, getD_some]
      constructor
      · rintro ⟨k, op', hop', rfl, hids⟩
        rw [hop] at hop'
        cases hop'
        exact hids
      · intro hids
        exact ⟨networkId, op, hop, rfl, hids⟩

theorem get?_casAcmeRecords_of_miss (hmiss : table.acmeIds networkId ≠ expected) (n : String) :
    (table.casAcmeRecords networkId expected newIds).2.get? n = table.get? n := by
  unfold casAcmeRecords
  unfold acmeIds at hmiss
  by_cases hempty : expected = []
  · rw [if_pos hempty]
    rw [hempty] at hmiss
    cases hop : table.get? networkId with
    | none => simp [hop] at hmiss
    | some op =>
      simp only [hop, map_some, getD_some] at hmiss
      simp [hmiss]
  · rw [if_neg hempty]
    simp only [get?_updateWhere]
    cases hop : table.get? n with
    | none => rfl
    | some op =>
      by_cases heq : n = networkId
      · subst heq
        simp only [hop, map_some, getD_some] at hmiss
        simp [hmiss]
      · simp [heq]

/-- A compare-and-set that hits replaces the challenge ids of the one row. -/
theorem get?_casAcmeRecords_of_hit (hhit : table.acmeIds networkId = expected) (n : String) :
    (table.casAcmeRecords networkId expected newIds).2.get? n = if n = networkId then
        some { (table.get? networkId).getD ⟨none, none, none, []⟩ with cfAcmeRecordIds := newIds }
      else table.get? n := by
  unfold casAcmeRecords
  unfold acmeIds at hhit
  by_cases hempty : expected = []
  · rw [if_pos hempty]
    rw [hempty] at hhit
    cases hop : table.get? networkId with
    | none => simp
    | some op =>
      simp only [hop, map_some, getD_some] at hhit
      simp [hhit]
  · rw [if_neg hempty]
    cases hop : table.get? networkId with
    | none => simp [hop, Ne.symm hempty] at hhit
    | some op =>
      simp only [hop, map_some, getD_some] at hhit
      by_cases heq : n = networkId
      · simp [heq, hop, hhit]
      · cases hn : table.get? n <;> simp [heq, hn]

/-- What a compare-and-set does to the stored ids: those it replaces were
expected, and those it adds are new. -/
theorem stored_casAcmeRecords (newIds : List RecordId) (hhit : table.acmeIds networkId = expected)
    (n : String) (id : RecordId) :
    (id ∈ table.stored n →
        id ∈ (table.casAcmeRecords networkId expected newIds).2.stored n ∨ id ∈ expected) ∧
      (id ∈ (table.casAcmeRecords networkId expected newIds).2.stored n →
        id ∈ table.stored n ∨ (n = networkId ∧ id ∈ newIds)) ∧
      (id ∈ newIds → id ∈ (table.casAcmeRecords networkId expected newIds).2.stored networkId) := by
  simp only [stored, get?_casAcmeRecords_of_hit hhit, if_true]
  have hnew : id ∈ newIds → id ∈ ((some
      { (table.get? networkId).getD ⟨none, none, none, []⟩ with cfAcmeRecordIds := newIds }).map
        Operational.recordIds).getD [] := by
    intro hid
    exact List.mem_append_right _ hid
  by_cases heq : n = networkId
  · subst heq
    unfold acmeIds at hhit
    cases hop : table.get? n with
    | none => simp [Operational.recordIds]
    | some op =>
      simp only [hop, map_some, getD_some] at hhit
      simp only [Operational.recordIds, if_true, map_some, getD_some,
        List.mem_append, hhit]
      tauto
  · rw [if_neg heq]
    exact ⟨.inl, .inl, hnew⟩

end OperationalTable

structure Cloud where
  directory : Directory
  operational : OperationalTable
  zone : Zone

end Wardnet.Ddns
