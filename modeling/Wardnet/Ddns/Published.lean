/-
# What is published

Tenants holds a network as active only after a replica has stored the id of its A record.
Nobody may delete that record while the network is live: the loser of a claim deletes its own
record only when another one is stored, and the reaper deletes the records of networks whose
teardown nobody can call off. Both arguments need that a name belongs to one network for
good, so slugs are never used twice here; a slug says whose it is.

Calls may fail at any point and tasks may stop anywhere. A task that is about to delete or
rewrite a record carries the reason why it may do so as its ghost value.
-/

import Wardnet.Ddns.Ownership

namespace Wardnet.Ddns.Active

open Base Tenants Ownership Store Option OperationalTable Directory

variable (parent : String) (ownerOf : String → String)

/-- The id was given out, and its record, if it still exists, is the A record of the name. -/
def Fits (id : RecordId) (name : String) (s : Cloud) : Prop :=
  id < s.zone.nextId ∧
    ∀ rec, s.zone.records.get? id = some rec → rec.type = .a ∧ rec.name = name

/-- The name belongs to the network, which is or was registered under its slug. -/
def Names (n name : String) (s : Cloud) : Prop :=
  ∃ slug, name = fqdnOf slug parent ∧ ownerOf slug = n ∧ s.directory.Slugged n slug

def Claimed (n : String) (s : Cloud) : Prop :=
  s.directory.TornDown n ∨ ∃ id, s.operational.aRecordId n = some id

/-- Another record is stored for the network, unless it is torn down. -/
def Superseded (n : String) (id : RecordId) (s : Cloud) : Prop :=
  s.directory.TornDown n ∨ ∃ winner, winner ≠ id ∧ s.operational.aRecordId n = some winner

def Rowed (n : String) (s : Cloud) : Prop :=
  s.directory.TornDown n ∨ ∃ op, s.operational.get? n = some op

/-- The record may be claimed for the network: it has the right name, and it exists as long
as the claim can be won. -/
def Held (n name : String) (id : RecordId) (s : Cloud) : Prop :=
  Fits id name s ∧ Names parent ownerOf n name s ∧ (Claimed n s ∨ s.zone.records.contains id)

/-- The record may be deleted on behalf of the network. -/
def Spare (n : String) (id : RecordId) (s : Cloud) : Prop :=
  ∃ name, Fits id name s ∧ Names parent ownerOf n name s ∧ Superseded n id s

structure Drifts (s s' : Cloud) : Prop where
  moves : Directory.Moves s.directory s'.directory
  rows : ∀ n op, s.operational.get? n = some op → s'.directory.TornDown n ∨
    ∃ op', s'.operational.get? n = some op' ∧
      ∀ id, op.cfARecordId = some id → op'.cfARecordId = some id
  fresh : s.zone.nextId ≤ s'.zone.nextId
  names : ∀ id rec', id < s.zone.nextId → s'.zone.records.get? id = some rec' →
    ∃ rec, s.zone.records.get? id = some rec ∧ rec'.type = rec.type ∧ rec'.name = rec.name
  kept : ∀ id rec, s.zone.records.get? id = some rec → s'.zone.records.contains id = true ∨
    ∀ slug, rec.name = fqdnOf slug parent → Superseded (ownerOf slug) id s'

structure Published (s : Cloud) : Prop where
  reserved : ∀ n row, s.directory.networks.get? n = some row → ownerOf row.slug = n
  rows : ∀ n op, s.operational.get? n = some op → op.cfAcmeRecordIds = [] ∧
    ∀ id, op.cfARecordId = some id →
      ∃ name, op.fqdn = some name ∧ Fits id name s ∧ Names parent ownerOf n name s
  stored : ∀ n id, s.operational.aRecordId n = some id →
    s.directory.TornDown n ∨ s.zone.records.contains id = true
  active : ∀ n row, s.directory.networks.get? n = some row → row.provisioningState = .active →
    ∃ id, s.operational.aRecordId n = some id

variable {parent ownerOf} {s s' : Cloud} {n name : String} {id : RecordId}

/-! ## Facts that last -/

section

variable (hdrifts : Drifts parent ownerOf s s')

include hdrifts

theorem Drifts.tornDown (h : s.directory.TornDown n) : s'.directory.TornDown n :=
  h.moves hdrifts.moves

theorem Drifts.aRecordId (h : s.operational.aRecordId n = some id) :
    s'.directory.TornDown n ∨ s'.operational.aRecordId n = some id := by
  obtain ⟨op, hop, hid⟩ := bind_eq_some_iff.mp h
  rcases hdrifts.rows n op hop with htorn | ⟨op', hop', hkept⟩
  · exact .inl htorn
  · exact .inr (bind_eq_some_iff.mpr ⟨op', hop', hkept id hid⟩)

theorem Fits.drifts (h : Fits id name s) : Fits id name s' := by
  refine ⟨h.1.trans_le hdrifts.fresh, fun rec' hrec' => ?_⟩
  obtain ⟨rec, hrec, htype, hname⟩ := hdrifts.names id rec' h.1 hrec'
  rw [htype, hname]
  exact h.2 rec hrec

theorem Names.drifts (h : Names parent ownerOf n name s) : Names parent ownerOf n name s' := by
  obtain ⟨slug, hname, howner, hslugged⟩ := h
  exact ⟨slug, hname, howner, hslugged.moves hdrifts.moves⟩

theorem Claimed.drifts (h : Claimed n s) : Claimed n s' := by
  rcases h with htorn | ⟨id, hid⟩
  · exact .inl (hdrifts.tornDown htorn)
  · exact (hdrifts.aRecordId hid).imp_right fun h => ⟨id, h⟩

theorem Superseded.drifts (h : Superseded n id s) : Superseded n id s' := by
  rcases h with htorn | ⟨winner, hne, hid⟩
  · exact .inl (hdrifts.tornDown htorn)
  · exact (hdrifts.aRecordId hid).imp_right fun h => ⟨winner, hne, h⟩

theorem Rowed.drifts (h : Rowed n s) : Rowed n s' := by
  rcases h with htorn | ⟨op, hop⟩
  · exact .inl (hdrifts.tornDown htorn)
  · exact (hdrifts.rows n op hop).imp_right fun hrow => hrow.imp fun _ h => h.1

theorem Spare.drifts (h : Spare parent ownerOf n id s) : Spare parent ownerOf n id s' := by
  obtain ⟨name, hfits, hnames, hsuperseded⟩ := h
  exact ⟨name, hfits.drifts hdrifts, hnames.drifts hdrifts, hsuperseded.drifts hdrifts⟩

/-- A record under the name of a network stays, unless it is superseded. -/
theorem Names.kept (hnames : Names parent ownerOf n name s) (hfits : Fits id name s)
    (h : s.zone.records.contains id = true) :
    s'.zone.records.contains id = true ∨ Superseded n id s' := by
  obtain ⟨slug, rfl, rfl, -⟩ := hnames
  obtain ⟨rec, hrec⟩ := contains_eq_true_iff.mp h
  exact (hdrifts.kept id rec hrec).imp_right fun hgone => hgone slug (hfits.2 rec hrec).2

theorem Held.drifts (h : Held parent ownerOf n name id s) : Held parent ownerOf n name id s' := by
  obtain ⟨hfits, hnames, hstands⟩ := h
  refine ⟨hfits.drifts hdrifts, hnames.drifts hdrifts, ?_⟩
  rcases hstands with hclaimed | hcontains
  · exact .inl (hclaimed.drifts hdrifts)
  rcases hnames.kept hdrifts hfits hcontains with hkept | htorn | ⟨winner, -, hid⟩
  · exact .inr hkept
  · exact .inl (.inl htorn)
  · exact .inl (.inr ⟨winner, hid⟩)

end

/-! ## What the calls do -/

variable (parent ownerOf) in
/-- A row is deleted after the teardown has begun, a record when it is not the stored one of a
live network, and rewriting a record keeps its name. -/
def Safe (s : Cloud) : Call → Prop
  | .deleteOperational n => s.directory.TornDown n
  | .deleteRecord id => ∀ rec, s.zone.records.get? id = some rec → ∀ slug,
      rec.name = fqdnOf slug parent → Superseded (ownerOf slug) id s
  | .upsertRecord _ type name _ (some id) => ∀ rec, s.zone.records.get? id = some rec →
      rec.type = type ∧ rec.name = name
  | _ => True

variable (parent ownerOf) in
theorem Drifts.refl (s : Cloud) : Drifts parent ownerOf s s where
  moves := .refl _
  rows _ op hop := .inr ⟨op, hop, fun _ h => h⟩
  fresh := le_rfl
  names _ rec _ hrec := ⟨rec, hrec, rfl, rfl⟩
  kept _ rec hrec := .inl (contains_eq_true_iff.mpr ⟨rec, hrec⟩)

variable {directory : Directory} {c : Call} {m : Directory.Move} {r : c.Resp}

theorem Drifts.of_directory (hmoves : Directory.Moves s.directory directory) :
    Drifts parent ownerOf s { s with directory } :=
  { Drifts.refl parent ownerOf s with
    moves := hmoves
    rows := fun _ op hop => .inr ⟨op, hop, fun _ h => h⟩
    kept := fun _ rec hrec => .inl (contains_eq_true_iff.mpr ⟨rec, hrec⟩) }

/-- The table changes, and no row of a live network loses its record. -/
theorem Drifts.of_operational {operational : OperationalTable}
    (hrows : ∀ n op, s.operational.get? n = some op → s.directory.TornDown n ∨
      ∃ op', operational.get? n = some op' ∧
        ∀ id, op.cfARecordId = some id → op'.cfARecordId = some id) :
    Drifts parent ownerOf s { s with operational } :=
  { Drifts.refl parent ownerOf s with
    rows := hrows
    kept := fun _ rec hrec => .inl (contains_eq_true_iff.mpr ⟨rec, hrec⟩) }

theorem Drifts.create (rec : DnsRecord) :
    Drifts parent ownerOf s { s with zone := (s.zone.create rec).2 } :=
  { Drifts.refl parent ownerOf s with
    fresh := Nat.le_succ _
    names := by
      intro id rec' hlt hrec'
      refine ⟨rec', ?_, rfl, rfl⟩
      simpa [Zone.create, Nat.ne_of_lt hlt] using hrec'
    kept := by
      intro id old hold
      refine .inl (contains_eq_true_iff.mpr ⟨old, ?_⟩)
      simpa [Zone.create, Nat.ne_of_lt (s.zone.id_lt id old hold)] using hold }

theorem Drifts.update {type : RecordType} {content : String}
    (hsame : ∀ rec, s.zone.records.get? id = some rec → rec.type = type ∧ rec.name = name) :
    Drifts parent ownerOf s { s with zone := s.zone.update id type name content } :=
  { Drifts.refl parent ownerOf s with
    names := by
      intro k rec' _ hrec'
      simp only [Zone.update, get?_updateWhere, map_eq_some_iff] at hrec'
      obtain ⟨old, hold, rfl⟩ := hrec'
      refine ⟨old, hold, ?_⟩
      split
      · rename_i heq
        obtain rfl := of_decide_eq_true heq
        exact ⟨(hsame old hold).1.symm, (hsame old hold).2.symm⟩
      · exact ⟨rfl, rfl⟩
    kept := by
      intro k old hold
      refine .inl (contains_eq_true_iff.mpr ?_)
      simp [Zone.update, hold] }

theorem Drifts.delete (hspare : ∀ rec, s.zone.records.get? id = some rec → ∀ slug,
      rec.name = fqdnOf slug parent → Superseded (ownerOf slug) id s) :
    Drifts parent ownerOf s { s with zone := s.zone.delete id } :=
  { Drifts.refl parent ownerOf s with
    names := by
      intro k rec' _ hrec'
      simp only [Zone.delete, get?_erase] at hrec'
      split at hrec'
      · cases hrec'
      · exact ⟨rec', hrec', rfl, rfl⟩
    kept := by
      intro k rec hrec
      by_cases heq : k = id
      · subst heq
        exact .inr (hspare rec hrec)
      · refine .inl (contains_eq_true_iff.mpr ⟨rec, ?_⟩)
        simpa [Zone.delete, heq] using hrec }

theorem drifts_of_perform {pick : RecordId} (hsafe : Safe parent ownerOf s c)
    (hperform : Cloud.perform pick c s = some (r, s')) :
    Drifts parent ownerOf s s' := by
  cases c with
  | findById | listNetworks | networkState =>
    cases hperform
    exact .refl parent ownerOf s
  | recordIp networkId ip =>
    cases hperform
    refine .of_operational fun n op hop => .inr ?_
    by_cases heq : n = networkId
    · subst heq
      exact ⟨{ op with ip := some ip }, by simp [recordIp, hop], fun _ h => h⟩
    · exact ⟨op, by rwa [get?_recordIp_of_ne _ _ heq], fun _ h => h⟩
  | casAcmeRecords networkId expected newIds =>
    cases hperform
    refine .of_operational fun n op hop => .inr ?_
    by_cases hhit : s.operational.acmeIds networkId = expected
    · by_cases heq : n = networkId
      · subst heq
        exact ⟨_, by rw [get?_casAcmeRecords_of_hit hhit, if_pos rfl],
          by simp [hop]⟩
      · exact ⟨op, by rwa [get?_casAcmeRecords_of_ne _ _ _ heq], fun _ h => h⟩
    · exact ⟨op, by rwa [get?_casAcmeRecords_of_miss hhit], fun _ h => h⟩
  | claimARecord networkId fqdn recordId =>
    cases hperform
    refine .of_operational fun n op hop => .inr ?_
    refine ⟨_, by simp only [claimARecord, get?_updateWhere, hop]; rfl,
      fun id hid => ?_⟩
    dsimp only
    split
    · rename_i hclaims
      simp [(of_decide_eq_true hclaims).2] at hid
    · exact hid
  | deleteOperational networkId =>
    cases hperform
    refine .of_operational fun n op hop => ?_
    by_cases heq : n = networkId
    · exact .inl (heq ▸ hsafe)
    · exact .inr ⟨op, by simpa [heq] using hop, fun _ h => h⟩
  | findARecord fqdn =>
    obtain ⟨rfl, -⟩ := Cloud.perform_findARecord hperform
    exact .refl parent ownerOf _
  | upsertRecord networkId type fqdn content existing =>
    cases existing with
    | none =>
      cases hperform
      exact .create _
    | some id =>
      obtain ⟨-, -, rfl⟩ | ⟨-, -, rfl⟩ := Cloud.perform_update hperform
      · exact .update hsafe
      · exact .refl parent ownerOf _
  | deleteRecord id =>
    cases hperform
    exact .delete hsafe
  | markNetworkActive networkId =>
    cases hperform
    exact .of_directory (apply_moves (m := .markActive networkId) rfl)
  | finishDeprovision networkId =>
    cases hperform
    exact .of_directory (apply_moves (m := .finishDeprovision networkId) rfl)

theorem drifts_of_exec {choice : Choice} (hsafe : Safe parent ownerOf s c)
    (hexec : Cloud.exec choice c s = some (r, s')) :
    Drifts parent ownerOf s s' := by
  unfold Cloud.exec at hexec
  split at hexec
  · cases hexec
    exact .refl parent ownerOf s
  · exact drifts_of_perform hsafe hexec

/-! ## The invariant, change by change -/

namespace Published

section

variable (h : Published parent ownerOf s)
include h

theorem drifts (hdrifts : Drifts parent ownerOf s s')
    (hoperational : s'.operational = s.operational)
    (hreserved : ∀ n row, s'.directory.networks.get? n = some row → ownerOf row.slug = n)
    (hactive : ∀ n row, s'.directory.networks.get? n = some row → row.provisioningState = .active →
      ∃ id, s.operational.aRecordId n = some id) : Published parent ownerOf s' where
  reserved := hreserved
  rows n op hop := by
    rw [hoperational] at hop
    obtain ⟨hacme, hfits⟩ := h.rows n op hop
    refine ⟨hacme, fun id hid => ?_⟩
    obtain ⟨name, hfqdn, hfits, hnames⟩ := hfits id hid
    exact ⟨name, hfqdn, hfits.drifts hdrifts, hnames.drifts hdrifts⟩
  stored n id hid := by
    rw [hoperational] at hid
    rcases h.stored n id hid with htorn | hcontains
    · exact .inl (hdrifts.tornDown htorn)
    obtain ⟨op, hop, hid'⟩ := bind_eq_some_iff.mp hid
    obtain ⟨name, -, hfits, hnames⟩ := (h.rows n op hop).2 id hid'
    rcases hnames.kept hdrifts hfits hcontains with hkept | htorn | ⟨winner, hne, hwinner⟩
    · exact .inr hkept
    · exact .inl htorn
    · rw [hoperational, hid] at hwinner
      exact absurd (some.inj hwinner).symm hne
  active n row hrow hstate := by
    rw [hoperational]
    exact hactive n row hrow hstate

theorem zone {zone : Zone} (hdrifts : Drifts parent ownerOf s { s with zone }) :
    Published parent ownerOf { s with zone } :=
  h.drifts hdrifts rfl h.reserved h.active

theorem operational {operational : OperationalTable}
    (hdrifts : Drifts parent ownerOf s { s with operational })
    (hrows : ∀ n op, operational.get? n = some op → op.cfAcmeRecordIds = [] ∧ ∀ id, op.cfARecordId =
      some id → ∃ name, op.fqdn = some name ∧ Fits id name s ∧ Names parent ownerOf n name s)
    (hstored : ∀ n id, operational.aRecordId n = some id → s.directory.TornDown n ∨
      s.zone.records.contains id = true) :
    Published parent ownerOf { s with operational } where
  reserved := h.reserved
  rows := hrows
  stored := hstored
  active n row hrow hstate := by
    obtain ⟨id, hid⟩ := h.active n row hrow hstate
    rcases hdrifts.aRecordId hid with htorn | hkept
    · have hlive : s.directory.Live n := by simp [Directory.Live, hrow, hstate]
      exact absurd htorn hlive.not_tornDown
    · exact ⟨id, hkept⟩

theorem recordIp (networkId ip : String) :
    Published parent ownerOf { s with operational := s.operational.recordIp networkId ip } := by
  have hold : ∀ n op, (s.operational.recordIp networkId ip).get? n = some op →
      op.cfARecordId = none ∧ op.cfAcmeRecordIds = [] ∨ ∃ old, s.operational.get? n = some old ∧
        op.cfARecordId = old.cfARecordId ∧ op.fqdn = old.fqdn ∧
          op.cfAcmeRecordIds = old.cfAcmeRecordIds := by
    intro n op hop
    by_cases heq : n = networkId
    · subst heq
      unfold OperationalTable.recordIp at hop
      cases hrow : s.operational.get? n with
      | none =>
        simp only [hrow, get?_insert_self, some.injEq] at hop
        exact .inl (by simp [← hop])
      | some old =>
        simp only [hrow, get?_insert_self, some.injEq] at hop
        exact .inr ⟨old, rfl, by simp [← hop]⟩
    · rw [get?_recordIp_of_ne _ _ heq] at hop
      exact .inr ⟨op, hop, rfl, rfl, rfl⟩
  apply h.operational (drifts_of_perform (c := .recordIp networkId ip) trivial
    (rfl : Cloud.perform 0 _ s = _))
  · intro n op hop
    rcases hold n op hop with ⟨hnone, hacme⟩ | ⟨old, hrow, hid, hfqdn, hacme⟩
    · exact ⟨hacme, by simp [hnone]⟩
    · rw [hid, hfqdn, hacme]
      exact h.rows n old hrow
  · intro n id hid
    obtain ⟨op, hop, hid⟩ := bind_eq_some_iff.mp hid
    rcases hold n op hop with ⟨hnone, -⟩ | ⟨old, hrow, hsame, -⟩
    · simp [hnone] at hid
    · exact h.stored n id (bind_eq_some_iff.mpr ⟨old, hrow, hsame ▸ hid⟩)

theorem deleteOperational (htorn : s.directory.TornDown n) :
    Published parent ownerOf { s with operational := s.operational.erase n } := by
  have hold : ∀ m op, (s.operational.erase n).get? m = some op →
      s.operational.get? m = some op := by
    intro m op hop
    rw [get?_erase] at hop
    split at hop
    · cases hop
    · exact hop
  apply h.operational (drifts_of_perform (c := .deleteOperational n) htorn
    (rfl : Cloud.perform 0 _ s = _))
  · exact fun m op hop => h.rows m op (hold m op hop)
  · intro m id hid
    obtain ⟨op, hop, hid⟩ := bind_eq_some_iff.mp hid
    exact h.stored m id (bind_eq_some_iff.mpr ⟨op, hold m op hop, hid⟩)

/-- A claim stores a record that exists, unless the network is torn down. -/
theorem claim (hheld : Held parent ownerOf n name id s) : Published parent ownerOf
      { s with operational := (s.operational.claimARecord n name id).2 } := by
  obtain ⟨hfits, hnames, hstands⟩ := hheld
  have hold : ∀ m op, (s.operational.claimARecord n name id).2.get? m = some op →
      s.operational.get? m = some op ∨ m = n ∧ ∃ old, s.operational.get? n = some old ∧
        old.cfARecordId = none ∧ op = { old with fqdn := some name, cfARecordId := some id } := by
    intro m op hop
    simp only [claimARecord, get?_updateWhere, map_eq_some_iff] at hop
    obtain ⟨old, hold, rfl⟩ := hop
    split
    · rename_i hclaims
      obtain ⟨rfl, hnone⟩ := of_decide_eq_true hclaims
      exact .inr ⟨rfl, old, hold, hnone, rfl⟩
    · exact .inl hold
  apply h.operational (drifts_of_perform (c := .claimARecord n name id) trivial
    (rfl : Cloud.perform 0 _ s = _))
  · intro m op hop
    rcases hold m op hop with hrow | ⟨rfl, old, hrow, -, rfl⟩
    · exact h.rows m op hrow
    · refine ⟨(h.rows m old hrow).1, ?_⟩
      rintro _ ⟨⟩
      exact ⟨name, rfl, hfits, hnames⟩
  · intro m k hk
    obtain ⟨op, hop, hk⟩ := bind_eq_some_iff.mp hk
    rcases hold m op hop with hrow | ⟨rfl, old, hrow, hnone, rfl⟩
    · exact h.stored m k (bind_eq_some_iff.mpr ⟨op, hrow, hk⟩)
    · obtain rfl := some.inj hk
      rcases hstands with (htorn | ⟨winner, hwinner⟩) | hcontains
      · exact .inl htorn
      · simp [aRecordId, hrow, hnone] at hwinner
      · exact .inr hcontains

end

end Published

/-! ## The rely condition -/

/-- What a task may be about to do to a record or a row. -/
inductive Ghost
  | idle
  /-- Rewrite the record under its name. -/
  | holds (name : String) (id : RecordId)
  /-- Delete the record that lost the claim for the network. -/
  | spare (n : String) (id : RecordId)
  /-- Delete the records of a torn-down network, and its row. -/
  | reaps (n : String) (ids : List RecordId)

variable (parent ownerOf) in
def Ghost.Fits (s : Cloud) : Ghost → Prop
  | .idle => True
  | .holds name id => Active.Fits id name s
  | .spare n id => Spare parent ownerOf n id s
  | .reaps n ids => s.directory.TornDown n ∧ ∀ id ∈ ids, Spare parent ownerOf n id s

theorem Ghost.Fits.drifts {g : Ghost} (h : g.Fits parent ownerOf s)
    (hdrifts : Drifts parent ownerOf s s') : g.Fits parent ownerOf s' := by
  cases g with
  | idle => trivial
  | holds name id => exact Active.Fits.drifts hdrifts h
  | spare n id => exact Spare.drifts hdrifts h
  | reaps n ids =>
    exact ⟨hdrifts.tornDown h.1, fun id hid => Spare.drifts hdrifts (h.2 id hid)⟩

def Shows (x : Ghost) : Call → Prop
  | .upsertRecord _ type name _ (some id) => type = .a ∧ x = .holds name id
  | .deleteRecord id => (∃ n, x = .spare n id) ∨ ∃ n ids, x = .reaps n ids ∧ id ∈ ids
  | .deleteOperational n => ∃ ids, x = .reaps n ids
  | _ => True

theorem Spare.safe (h : Spare parent ownerOf n id s) :
    Safe parent ownerOf s (.deleteRecord id) := by
  obtain ⟨name, hfits, ⟨slug, rfl, rfl, -⟩, hsuperseded⟩ := h
  intro rec hrec slug' hslug'
  obtain rfl := fqdnOf_inj ((hfits.2 rec hrec).2.symm.trans hslug')
  exact hsuperseded

theorem safe_of_shows {x : Ghost} (hx : x.Fits parent ownerOf s) (hshows : Shows x c) :
    Safe parent ownerOf s c := by
  cases c with
  | deleteOperational n =>
    obtain ⟨ids, rfl⟩ := hshows
    exact hx.1
  | deleteRecord id =>
    rcases hshows with ⟨n, rfl⟩ | ⟨n, ids, rfl, hid⟩
    · exact Spare.safe hx
    · exact (hx.2 id hid).safe
  | upsertRecord networkId type name content existing =>
    cases existing with
    | none => trivial
    | some id =>
      obtain ⟨rfl, rfl⟩ := hshows
      exact hx.2
  | _ => trivial

variable (ownerOf) in
def Reserves : Directory.Move → Prop
  | .registerNetwork n row => ownerOf row.slug = n
  | _ => True

/-- A network of the directory was there before, or was just registered. -/
theorem row_of_tenantsMove {d d' : Directory} {row' : NetworkRow}
    (hmove : tenantsMove d m = some d') (hrow' : d'.networks.get? n = some row') :
    (∃ row, m = .registerNetwork n row ∧ row'.slug = row.slug ∧
        row'.provisioningState = .provisioning) ∨
      ∃ row, d.networks.get? n = some row ∧ row'.slug = row.slug ∧
        (row'.provisioningState = .active → row.provisioningState = .active) := by
  cases m with
  | markActive | finishDeprovision => cases hmove
  | loseSubscription =>
    cases hmove
    exact .inr ⟨row', hrow', rfl, fun h => h⟩
  | registerNetwork k row =>
    simp only [tenantsMove, apply, registerNetwork] at hmove
    split at hmove
    · cases hmove
      by_cases heq : n = k
      · subst heq
        simp only [get?_insert_self, some.injEq] at hrow'
        exact .inl ⟨row, rfl, by rw [← hrow'], by rw [← hrow']⟩
      · exact .inr ⟨row', by simpa [heq] using hrow', rfl, fun h => h⟩
    · cases hmove
  | setDeprovisioning | setDeprovisioningForTenant =>
    cases hmove
    obtain ⟨row, hrow, rfl⟩ := map_eq_some_iff.mp ((get?_updateWhere ..).symm.trans hrow')
    refine .inr ⟨row, hrow, ?_⟩
    split
    · exact ⟨rfl, by simp⟩
    · exact ⟨rfl, fun h => h⟩

theorem Published.tenantsMove (h : Published parent ownerOf s) (hreserves : Reserves ownerOf m)
    (hmove : tenantsMove s.directory m = some directory) :
    Published parent ownerOf { s with directory } := by
  apply h.drifts (.of_directory (apply_moves (tenantsMove_eq_some hmove).1)) rfl
  · intro n row hrow
    rcases row_of_tenantsMove hmove hrow with ⟨row', rfl, hslug, -⟩ | ⟨row', hrow', hslug, -⟩
    · rw [hslug]
      exact hreserves
    · rw [hslug]
      exact h.reserved n row' hrow'
  · intro n row hrow hstate
    rcases row_of_tenantsMove hmove hrow with ⟨row', -, -, hnew⟩ | ⟨row', hrow', -, hold⟩
    · rw [hstate] at hnew
      cases hnew
    · exact h.active n row' hrow' (hold hstate)

variable (parent ownerOf) in
/-- Passes under one parent domain and reports, while no slug is used for two networks. A
call is permitted where the ghost value of its task shows why. -/
@[reducible]
def publication : Rely world where
  Ghost := Ghost
  Inv s ghosts := Published parent ownerOf s ∧ ∀ g ∈ ghosts, g.Fits parent ownerOf s
  Spawns
    | .provisionerTick _ subdomainParent _ => subdomainParent = parent
    | .reaperTick .. | .reportIp .. => True
    | .setAcmeChallenge .. | .clearAcmeChallenge _ => False
  Moves _ m := Reserves ownerOf m
  Permits s c _ := Safe parent ownerOf s c
  Shows := Shows
  Rel := Drifts parent ownerOf
  exec_rel hsafe hexec := drifts_of_exec hsafe hexec
  idle := .idle
  inv_idle h := ⟨h.1, by
    rintro g (rfl | hg)
    · trivial
    · exact h.2 g hg⟩
  env_rel := by
    intro m s s' _ henv
    obtain ⟨directory, hmove, rfl⟩ := Option.map_eq_some_iff.mp henv
    exact .of_directory (Directory.apply_moves (tenantsMove_eq_some hmove).1)
  env_inv := by
    intro m s s' ghosts hreserves henv h
    obtain ⟨directory, hmove, rfl⟩ := Option.map_eq_some_iff.mp henv
    have hdrifts : Drifts parent ownerOf s { s with directory } :=
      .of_directory (Directory.apply_moves (tenantsMove_eq_some hmove).1)
    exact ⟨h.1.tenantsMove hreserves hmove, fun g hg => (h.2 g hg).drifts hdrifts⟩

end Wardnet.Ddns.Active
