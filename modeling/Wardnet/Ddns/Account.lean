/-
# Accounting for DNS records

A record is accounted for while its id is stored in the row of its network or a
task still holds it. This holds along every run whose writes are well timed: no
record id enters the row of a network that is no longer live, and no challenge
update loses its compare-and-set. Well-timed calls never bring a record back and
never add to the row of a torn-down network, and this is all a task needs to
know about the others.
-/

import Wardnet.Base.Rely
import Wardnet.Ddns.World

namespace Wardnet.Ddns

open Base Tenants OperationalTable

/-! ## What any call may do -/

/-- A claim that stores its record, and a compare-and-set that brings new
records, meet a network that Tenants holds as live, and the compare-and-set
finds the ids it expects. -/
def GoodCall (s : Cloud) : Call → Prop
  | .claimARecord networkId fqdn recordId =>
    (s.operational.claimARecord networkId fqdn recordId).1 → s.directory.Live networkId
  | .casAcmeRecords networkId expected newIds =>
    newIds ≠ [] → s.directory.Live networkId ∧ s.operational.acmeIds networkId = expected
  | _ => True

/-- What a well-timed call of any task leaves true: records keep their owner and
never come back, torn-down networks stay so and gain no record ids. -/
structure Evolves (s s' : Cloud) : Prop where
  nextId_le : s.zone.nextId ≤ s'.zone.nextId
  records : ∀ id rec', s'.zone.records.get? id = some rec' → id < s.zone.nextId →
    ∃ rec, s.zone.records.get? id = some rec ∧ rec.createdFor = rec'.createdFor
  tornDown : ∀ n, s.directory.TornDown n → s'.directory.TornDown n
  stored : ∀ n, s.directory.TornDown n → ∀ id ∈ s'.operational.stored n,
    id ∈ s.operational.stored n

theorem Evolves.refl (s : Cloud) : Evolves s s where
  nextId_le := le_refl _
  records := fun _ rec' hrec _ => ⟨rec', hrec, rfl⟩
  tornDown := fun _ h => h
  stored := fun _ _ _ h => h

variable {s s' : Cloud} {m : Directory.Move} {ids : List RecordId}

theorem Evolves.of_operational {operational : OperationalTable}
    (hstored : ∀ n, s.directory.TornDown n → ∀ id ∈ operational.stored n,
      id ∈ s.operational.stored n) : Evolves s { s with operational } :=
  { Evolves.refl s with stored := hstored }

theorem Evolves.of_directory {directory : Directory}
    (hmove : s.directory.apply m = some directory) : Evolves s { s with directory } :=
  { Evolves.refl s with tornDown := fun _ h => h.apply hmove }

theorem Evolves.of_create (s : Cloud) (rec : DnsRecord) :
    Evolves s { s with zone := (s.zone.create rec).2 } :=
  { Evolves.refl s with
    nextId_le := Nat.le_succ _
    records := by
      intro id rec' hrec hlt
      rcases Store.get?_of_insert hrec with ⟨heq, -⟩ | ⟨-, hrec⟩
      · exact absurd heq (Nat.ne_of_lt hlt)
      · exact ⟨rec', hrec, rfl⟩ }

theorem Evolves.of_update (s : Cloud) (id : RecordId) (type : RecordType) (name content : String) :
    Evolves s { s with zone := s.zone.update id type name content } :=
  { Evolves.refl s with
    records := by
      intro k rec' hrec _
      simp only [Zone.update, Store.get?_updateWhere, Option.map_eq_some_iff] at hrec
      obtain ⟨rec, hold, rfl⟩ := hrec
      refine ⟨rec, hold, ?_⟩
      split <;> rfl }

theorem Evolves.of_delete (s : Cloud) (id : RecordId) :
    Evolves s { s with zone := s.zone.delete id } :=
  { Evolves.refl s with
    records := by
      intro k rec' hrec _
      exact ⟨rec', (Store.get?_of_erase hrec).2, rfl⟩ }

/-- Every well-timed call of every task evolves the shared state. -/
theorem exec_evolves {choice : Choice} {c : Call} {r : c.Resp} (hgood : GoodCall s c)
    (hexec : world.exec choice c s = some (r, s')) : Evolves s s' := by
  change (if choice.fails then some (Cloud.refuse c, s) else Cloud.perform choice.pick c s) =
    some (r, s') at hexec
  split at hexec
  · cases hexec
    exact .refl s
  · cases c with
    | findById | listNetworks | networkState =>
      cases hexec
      exact .refl s
    | recordIp networkId ip =>
      cases hexec
      exact .of_operational (by simp)
    | claimARecord networkId fqdn recordId =>
      cases hexec
      apply Evolves.of_operational
      intro n htorn id hid
      rcases mem_stored_claimARecord.mp hid with hold | ⟨rfl, -, hwon⟩
      · exact hold
      · exact absurd htorn (hgood hwon).not_tornDown
    | casAcmeRecords networkId expected newIds =>
      cases hexec
      apply Evolves.of_operational
      intro n htorn id hid
      by_cases hhit : s.operational.acmeIds networkId = expected
      · rcases ((stored_casAcmeRecords newIds hhit n id).2.1 hid) with
          hold | ⟨rfl, hnew⟩
        · exact hold
        · exact absurd htorn (hgood (List.ne_nil_of_mem hnew)).1.not_tornDown
      · rw [stored, get?_casAcmeRecords_of_miss hhit] at hid
        exact hid
    | deleteOperational networkId =>
      cases hexec
      exact .of_operational fun n _ id hid => (mem_stored_erase.mp hid).2
    | findARecord fqdn =>
      obtain ⟨rfl, -⟩ := Cloud.perform_findARecord hexec
      exact .refl _
    | upsertRecord networkId type fqdn content existing =>
      cases existing with
      | none =>
        cases hexec
        exact .of_create s _
      | some id =>
        obtain ⟨-, -, rfl⟩ | ⟨-, -, rfl⟩ := Cloud.perform_update hexec
        · exact .of_update s _ _ _ _
        · exact .refl _
    | deleteRecord recordId =>
      cases hexec
      exact .of_delete s _
    | markNetworkActive networkId =>
      cases hexec
      exact .of_directory (m := .markActive networkId) rfl
    | finishDeprovision networkId =>
      cases hexec
      exact .of_directory (m := .finishDeprovision networkId) rfl

theorem tenantsMove_eq_some {d d' : Directory} (hmove : tenantsMove d m = some d') :
    d.apply m = some d' ∧ d'.retired = d.retired := by
  cases m with
  | markActive | finishDeprovision => cases hmove
  | registerNetwork id row =>
    refine ⟨hmove, ?_⟩
    simp only [tenantsMove, Directory.apply, Directory.registerNetwork] at hmove
    split at hmove
    · cases hmove
      rfl
    · cases hmove
  | setDeprovisioning | setDeprovisioningForTenant | loseSubscription =>
    exact ⟨hmove, by cases hmove; rfl⟩

theorem env_eq_some (henv : world.env m s = some s') :
    Evolves s s' ∧ s'.operational = s.operational ∧ s'.zone = s.zone ∧
      s'.directory.retired = s.directory.retired := by
  obtain ⟨directory, hmove, rfl⟩ := Option.map_eq_some_iff.mp henv
  obtain ⟨happly, hretired⟩ := tenantsMove_eq_some hmove
  exact ⟨.of_directory happly, rfl, rfl, hretired⟩

/-! ## Facts that last -/

def Allocated (ids : List RecordId) (s : Cloud) : Prop := ∀ id ∈ ids, id < s.zone.nextId

def Deleted (ids : List RecordId) (s : Cloud) : Prop :=
  ∀ id ∈ ids, id < s.zone.nextId ∧ s.zone.records.get? id = none

def MadeFor (networkId : String) (ids : List RecordId) (s : Cloud) : Prop :=
  ∀ id ∈ ids, id < s.zone.nextId ∧
    ∀ rec, s.zone.records.get? id = some rec → rec.createdFor = networkId

def Covers (networkId : String) (ids : List RecordId) (s : Cloud) : Prop :=
  s.directory.TornDown networkId ∧ ∀ id ∈ s.operational.stored networkId, id ∈ ids

theorem Evolves.get?_eq_none (h : Evolves s s') {id : RecordId} (hlt : id < s.zone.nextId)
    (hnone : s.zone.records.get? id = none) :
    s'.zone.records.get? id = none := by
  cases hrec : s'.zone.records.get? id with
  | none => rfl
  | some rec =>
    obtain ⟨old, hold, -⟩ := h.records id rec hrec hlt
    rw [hnone] at hold
    cases hold

theorem Evolves.allocated (h : Evolves s s') (hids : Allocated ids s) : Allocated ids s' :=
  fun id hid => lt_of_lt_of_le (hids id hid) h.nextId_le

theorem Evolves.deleted (h : Evolves s s') (hids : Deleted ids s) : Deleted ids s' := by
  intro id hid
  obtain ⟨hlt, hnone⟩ := hids id hid
  exact ⟨lt_of_lt_of_le hlt h.nextId_le, h.get?_eq_none hlt hnone⟩

variable {networkId : String} {held held' : List RecordId} {others : Set (List RecordId)}

theorem Evolves.madeFor (h : Evolves s s') (hids : MadeFor networkId ids s) :
    MadeFor networkId ids s' := by
  intro id hid
  obtain ⟨hlt, howner⟩ := hids id hid
  refine ⟨lt_of_lt_of_le hlt h.nextId_le, fun rec hrec => ?_⟩
  obtain ⟨old, hold, hsame⟩ := h.records id rec hrec hlt
  rw [← hsame]
  exact howner old hold

theorem Evolves.covers (h : Evolves s s') (hids : Covers networkId ids s) :
    Covers networkId ids s' :=
  ⟨h.tornDown _ hids.1, fun id hid => hids.2 id (h.stored _ hids.1 id hid)⟩

/-! ## The invariant -/

/-- Every record is accounted for, and deleted networks have none. -/
structure Accounted (s : Cloud) (holdings : Set (List RecordId)) : Prop where
  leak : ∀ id rec, s.zone.records.get? id = some rec →
    id ∈ s.operational.stored rec.createdFor ∨ ∃ held ∈ holdings, id ∈ held
  alloc : ∀ n, ∀ id ∈ s.operational.stored n, id < s.zone.nextId
  gone : ∀ n ∈ s.directory.retired, ∀ id ∈ s.operational.stored n, s.zone.records.get? id = none

/-- What a step of one task has to show: its new records are held, what it lets
go of is stored or gone, and a network is retired only without records. -/
theorem Accounted.next (h : Accounted s (insert held others)) (hevolves : Evolves s s')
    (hnew : ∀ id rec, s'.zone.records.get? id = some rec → ¬ id < s.zone.nextId → id ∈ held')
    (hstored : ∀ id rec, s'.zone.records.get? id = some rec →
      id ∈ s.operational.stored rec.createdFor → id ∈ s'.operational.stored rec.createdFor)
    (hheld : ∀ id ∈ held, ∀ rec, s'.zone.records.get? id = some rec →
      id ∈ s'.operational.stored rec.createdFor ∨ id ∈ held')
    (halloc : ∀ n, ∀ id ∈ s'.operational.stored n,
      id ∈ s.operational.stored n ∨ id < s'.zone.nextId)
    (hgone : ∀ n ∈ s'.directory.retired, n ∈ s.directory.retired ∨
      ∀ id ∈ s'.operational.stored n, s'.zone.records.get? id = none) :
    Accounted s' (insert held' others) where
  leak := by
    intro id rec hrec
    by_cases hlt : id < s.zone.nextId
    · obtain ⟨old, hold, hsame⟩ := hevolves.records id rec hrec hlt
      rcases h.leak id old hold with hid | ⟨x, rfl | hx, hid⟩
      · rw [hsame] at hid
        exact .inl (hstored id rec hrec hid)
      · rcases hheld id hid rec hrec with hid' | hid'
        · exact .inl hid'
        · exact .inr ⟨held', Set.mem_insert _ _, hid'⟩
      · exact .inr ⟨x, Set.mem_insert_of_mem _ hx, hid⟩
    · exact .inr ⟨held', Set.mem_insert _ _, hnew id rec hrec hlt⟩
  alloc := by
    intro n id hid
    rcases halloc n id hid with hold | hlt
    · exact lt_of_lt_of_le (h.alloc n id hold) hevolves.nextId_le
    · exact hlt
  gone := by
    intro n hn id hid
    rcases hgone n hn with hold | hempty
    · have hid' := hevolves.stored n (.inl hold) id hid
      exact hevolves.get?_eq_none (h.alloc n id hid') (h.gone n hold id hid')
    · exact hempty id hid

/-- A step that touches neither records nor stored ids only has to account for
what it lets go of. -/
theorem Accounted.next_of_same (h : Accounted s (insert held others)) (hevolves : Evolves s s')
    (hrecords : ∀ id rec', s'.zone.records.get? id = some rec' →
      ∃ rec, s.zone.records.get? id = some rec)
    (hstored : ∀ n, s'.operational.stored n = s.operational.stored n)
    (hretired : s'.directory.retired = s.directory.retired)
    (hheld : ∀ id ∈ held, ∀ rec, s'.zone.records.get? id = some rec →
      id ∈ s.operational.stored rec.createdFor ∨ id ∈ held') :
    Accounted s' (insert held' others) := by
  apply h.next hevolves
  · intro id rec hrec hfresh
    obtain ⟨old, hold⟩ := hrecords id rec hrec
    exact absurd (s.zone.id_lt id old hold) hfresh
  · intro id rec _ hid
    rwa [hstored]
  · intro id hid rec hrec
    rw [hstored]
    exact hheld id hid rec hrec
  · intro n id hid
    rw [hstored] at hid
    exact .inl hid
  · intro n hn
    rw [hretired] at hn
    exact .inl hn

/-- What the tasks may rely on: no call fails, and writes are well timed. The
ghost value of a task lists the records it has created and neither stored nor
deleted. -/
@[reducible]
def leak : Rely world where
  Ghost := List RecordId
  Inv := Accounted
  Permits s c choice := choice.fails = false ∧ GoodCall s c
  Rel := Evolves
  exec_rel := fun hpermits hexec => exec_evolves hpermits.2 hexec
  idle := []
  inv_idle := by
    intro s holdings h
    refine ⟨fun id rec hrec => ?_, h.alloc, h.gone⟩
    rcases h.leak id rec hrec with hid | ⟨held, hheld, hid⟩
    · exact Or.inl hid
    · exact Or.inr ⟨held, Set.mem_insert_of_mem _ hheld, hid⟩
  env_rel := fun _ henv => (env_eq_some henv).1
  env_inv := by
    intro m s s' holdings _ henv h
    obtain ⟨-, hoperational, hzone, hretired⟩ := env_eq_some henv
    refine ⟨?_, ?_, ?_⟩
    · rw [hoperational, hzone]
      exact h.leak
    · rw [hoperational, hzone]
      exact h.alloc
    · rw [hoperational, hzone, hretired]
      exact h.gone

end Wardnet.Ddns
