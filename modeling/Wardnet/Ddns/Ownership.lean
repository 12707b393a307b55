/-
# Whose record it is

Records are found by name and owned by network id. A name is free again once its network
is deleted, so the record of a new network may be adopted from an old one. As long as
reports and challenge updates write only for networks that Tenants holds as live, no row
outlives its network, and the record stored in one row is stored in no other.

A late report breaks this. It brings the row of a deleted network back, a provisioner that
has listed the network before claims a record in it, and the successor under the same slug
adopts that record too.
-/

import Wardnet.Ddns.Leak

namespace Wardnet.Ddns.Ownership

open Base Tenants OperationalTable Option

/-- A record that a task holds, under which name and for which network. -/
structure Hold where
  networkId : String
  fqdn : String
  id : RecordId

abbrev fqdnOf (slug parent : String) : String := slug ++ "." ++ parent

theorem fqdnOf_inj {slug slug' parent : String} (h : fqdnOf slug parent = fqdnOf slug' parent) :
    slug = slug' := by
  rw [fqdnOf, fqdnOf, String.append_assoc, String.append_assoc] at h
  exact (String.append_left_inj ("." ++ parent)).mp h

/-- The record that a report finds in the row, and the name stored with it. -/
abbrev reportRecord (op : Option Operational) : Option (RecordId × String) :=
  op.bind fun op => op.cfARecordId.bind fun id => op.fqdn.map fun fqdn => (id, fqdn)

/-- The record stored in the row has the name of the network. -/
def Fits (parent : String) (naming : RecordId → String) (s : Cloud) (op : Operational)
    (row : NetworkRow) : Prop :=
  ∀ id, op.cfARecordId = some id →
    id < s.zone.nextId ∧ op.fqdn = some (naming id) ∧ naming id = fqdnOf row.slug parent

/-- The held record has the name of the network, however long ago it was looked up. -/
def Hold.Fits (parent : String) (naming : RecordId → String) (s : Cloud) (h : Hold) : Prop :=
  h.id < s.zone.nextId ∧ naming h.id = h.fqdn ∧
    ∃ slug, h.fqdn = fqdnOf slug parent ∧ s.directory.Slugged h.networkId slug

/-- The invariant. `naming` gives the name of every record that was ever created. -/
structure Owned (parent : String) (naming : RecordId → String) (s : Cloud)
    (holds : Set (Option Hold)) : Prop where
  slugs : s.directory.SlugsUnique
  rows : ∀ n op, s.operational.get? n = some op →
    ∃ row, s.directory.networks.get? n = some row ∧ Fits parent naming s op row
  records : ∀ id rec, s.zone.records.get? id = some rec → rec.name = naming id
  held : ∀ h, some h ∈ holds → h.Fits parent naming s

/-- What a call that is well timed may do to the state. -/
structure Drifts (s s' : Cloud) : Prop where
  moves : Directory.Moves s.directory s'.directory
  cleared : ∀ n, s.directory.TornDown n → s.operational.get? n = none →
    s'.operational.get? n = none

/-- Reports and challenge updates write for live networks only. -/
def Timed (s : Cloud) : Call → Prop
  | .recordIp networkId _ | .casAcmeRecords networkId _ _ => s.directory.Live networkId
  | _ => True

variable {parent : String} {naming : RecordId → String} {s s' : Cloud} {others : Set (Option Hold)}
  {x : Option Hold}

/-! ## Rows, records and directories -/

/-- A write to the row of a live network does not bring back the row of a torn-down one. -/
theorem get?_recordIp_of_ne (table : OperationalTable) {networkId n : String} (ip : String)
    (hne : n ≠ networkId) : (table.recordIp networkId ip).get? n = table.get? n := by
  unfold recordIp
  split <;> simp [hne]

theorem get?_casAcmeRecords_of_ne (table : OperationalTable) {networkId n : String}
    (expected newIds : List RecordId) (hne : n ≠ networkId) :
    (table.casAcmeRecords networkId expected newIds).2.get? n = table.get? n := by
  by_cases hhit : table.acmeIds networkId = expected
  · rw [get?_casAcmeRecords_of_hit hhit, if_neg hne]
  · exact get?_casAcmeRecords_of_miss hhit n

theorem drifts_of_perform {pick : RecordId} {c : Call} {r : c.Resp} (htimed : Timed s c)
    (hperform : Cloud.perform pick c s = some (r, s')) : Drifts s s' := by
  have hne : ∀ {n m}, s.directory.Live m → s.directory.TornDown n → n ≠ m := by
    rintro n m hlive htorn rfl
    exact hlive.not_tornDown htorn
  cases c with
  | findById | listNetworks | networkState | deleteRecord =>
    cases hperform
    exact ⟨.refl _, fun _ _ h => h⟩
  | recordIp networkId ip =>
    cases hperform
    refine ⟨.refl _, fun n htorn hnone => ?_⟩
    rwa [get?_recordIp_of_ne _ _ (hne htimed htorn)]
  | casAcmeRecords networkId expected newIds =>
    cases hperform
    refine ⟨.refl _, fun n htorn hnone => ?_⟩
    rwa [get?_casAcmeRecords_of_ne _ _ _ (hne htimed htorn)]
  | claimARecord networkId fqdn recordId =>
    cases hperform
    exact ⟨.refl _, fun n _ hnone => by simp [claimARecord, hnone]⟩
  | deleteOperational networkId =>
    cases hperform
    refine ⟨.refl _, fun n _ hnone => ?_⟩
    by_cases heq : n = networkId
    · simp [heq]
    · simpa [heq] using hnone
  | findARecord fqdn =>
    obtain ⟨rfl, -⟩ := Cloud.perform_findARecord hperform
    exact ⟨.refl _, fun _ _ h => h⟩
  | upsertRecord networkId type fqdn content existing =>
    cases existing with
    | none =>
      cases hperform
      exact ⟨.refl _, fun _ _ h => h⟩
    | some id =>
      obtain ⟨-, -, rfl⟩ | ⟨-, -, rfl⟩ := Cloud.perform_update hperform
      · exact ⟨.refl _, fun _ _ h => h⟩
      · exact ⟨.refl _, fun _ _ h => h⟩
  | markNetworkActive networkId =>
    cases hperform
    exact ⟨Directory.apply_moves (m := .markActive networkId) rfl, fun _ _ h => h⟩
  | finishDeprovision networkId =>
    cases hperform
    exact ⟨Directory.apply_moves (m := .finishDeprovision networkId) rfl, fun _ _ h => h⟩

theorem Hold.Fits.moves {h : Hold} {directory : Directory} (hfits : h.Fits parent naming s)
    (hmoves : Directory.Moves s.directory directory) :
    h.Fits parent naming { s with directory } := by
  obtain ⟨hlt, hname, slug, hslug, hslugged⟩ := hfits
  exact ⟨hlt, hname, slug, hslug, hslugged.moves hmoves⟩

namespace Owned

theorem mono {holds : Set (Option Hold)} (h : Owned parent naming s holds) (hsub : others ⊆ holds) :
    Owned parent naming s others :=
  ⟨h.slugs, h.rows, h.records, fun hold hmem => h.held hold (hsub hmem)⟩

section

variable (h : Owned parent naming s others)
include h

theorem hold (hx : ∀ hold ∈ x, hold.Fits parent naming s) :
    Owned parent naming s (insert x others) := by
  refine ⟨h.slugs, h.rows, h.records, ?_⟩
  rintro hold (heq | hmem)
  · exact hx hold heq.symm
  · exact h.held hold hmem

theorem release : Owned parent naming s (insert none others) :=
  h.hold nofun

/-- A deleted network has no row. -/
theorem not_retired (n : String) (op : Operational) (hop : s.operational.get? n = some op) :
    n ∉ s.directory.retired := by
  intro hretired
  obtain ⟨row, hrow, -⟩ := h.rows n op hop
  rw [s.directory.retired_gone n hretired] at hrow
  cases hrow

theorem directory {directory : Directory} (hmoves : Directory.Moves s.directory directory)
    (hretired : ∀ n op, s.operational.get? n = some op → n ∉ directory.retired) :
    Owned parent naming { s with directory } others := by
  refine ⟨h.slugs.moves hmoves, fun n op hop => ?_, h.records, fun hold hmem =>
    (h.held hold hmem).moves hmoves⟩
  obtain ⟨row, hrow, hfits⟩ := h.rows n op hop
  rcases hmoves.kept n row hrow with hgone | ⟨row', hrow', hslug, -⟩
  · exact absurd hgone (hretired n op hop)
  · refine ⟨row', hrow', fun id hid => ?_⟩
    rw [hslug]
    exact hfits id hid

/-- The table changes: each row is of a network that Tenants holds, and its record fits. -/
theorem operational {operational : OperationalTable}
    (hrows : ∀ n op, operational.get? n = some op → ∃ row, s.directory.networks.get? n = some row ∧
      Fits parent naming s op row) :
    Owned parent naming { s with operational } others :=
  ⟨h.slugs, hrows, h.records, h.held⟩

theorem write {operational : OperationalTable} {networkId : String}
    (hlive : s.directory.Live networkId)
    (hothers : ∀ n, n ≠ networkId → operational.get? n = s.operational.get? n)
    (hrow : ∀ op, operational.get? networkId = some op → op.cfARecordId = none ∨ ∃ old,
      s.operational.get? networkId = some old ∧ op.cfARecordId = old.cfARecordId ∧ op.fqdn =
      old.fqdn) : Owned parent naming { s with operational } others := by
  apply h.operational
  intro n op hop
  by_cases heq : n = networkId
  · subst heq
    obtain ⟨row, hnetwork, -⟩ := (any_eq_true _ _).mp hlive
    refine ⟨row, hnetwork, fun id hid => ?_⟩
    rcases hrow op hop with hnone | ⟨old, hold, hsame, hfqdn⟩
    · simp [hnone] at hid
    · obtain ⟨row', hrow', hfits⟩ := h.rows n old hold
      rw [hnetwork] at hrow'
      cases hrow'
      rw [hfqdn]
      exact hfits id (hsame ▸ hid)
  · exact h.rows n op (hothers n heq ▸ hop)

theorem create (rec : DnsRecord) : Owned parent (Function.update naming s.zone.nextId rec.name)
      { s with zone := (s.zone.create rec).2 } others := by
  have hold : ∀ id, id < s.zone.nextId → id < (s.zone.create rec).2.nextId ∧
        Function.update naming s.zone.nextId rec.name id = naming id := fun id hlt =>
    ⟨Nat.lt_succ_of_lt hlt, Function.update_of_ne (Nat.ne_of_lt hlt) _ _⟩
  refine ⟨h.slugs, fun n op hop => ?_, fun id rec' hrec => ?_, fun hold' hmem => ?_⟩
  · obtain ⟨row, hrow, hfits⟩ := h.rows n op hop
    refine ⟨row, hrow, fun id hid => ?_⟩
    obtain ⟨hlt, hname⟩ := hfits id hid
    rw [(hold id hlt).2]
    exact ⟨(hold id hlt).1, hname⟩
  · rcases Store.get?_of_insert hrec with ⟨rfl, rfl⟩ | ⟨-, hrec⟩
    · rw [Function.update_self]
    · rw [(hold id (s.zone.id_lt id rec' hrec)).2]
      exact h.records id rec' hrec
  · obtain ⟨hlt, hname, hslug⟩ := h.held hold' hmem
    exact ⟨(hold _ hlt).1, (hold _ hlt).2.trans hname, hslug⟩

theorem update {id : RecordId} {type : RecordType} {name content : String}
    (hname : naming id = name) :
    Owned parent naming { s with zone := s.zone.update id type name content } others := by
  refine ⟨h.slugs, h.rows, fun k rec hrec => ?_, h.held⟩
  simp only [Zone.update, Store.get?_updateWhere, map_eq_some_iff] at hrec
  obtain ⟨old, hold, rfl⟩ := hrec
  split
  · rename_i heq
    rw [of_decide_eq_true heq, hname]
  · exact h.records k old hold

theorem delete {id : RecordId} :
    Owned parent naming { s with zone := s.zone.delete id } others := by
  refine ⟨h.slugs, h.rows, fun k rec hrec => ?_, h.held⟩
  simp only [Zone.delete, Store.get?_erase] at hrec
  split at hrec
  · cases hrec
  · exact h.records k rec hrec

/-- A claim stores a held record in the row of its network. -/
theorem claim {hold : Hold} (hfits : hold.Fits parent naming s) : Owned parent naming
      { s with operational :=
          (s.operational.claimARecord hold.networkId hold.fqdn hold.id).2 } others := by
  apply h.operational
  intro n op hop
  simp only [claimARecord, Store.get?_updateWhere, map_eq_some_iff] at hop
  obtain ⟨old, hold', rfl⟩ := hop
  obtain ⟨row, hrow, hfits'⟩ := h.rows n old hold'
  refine ⟨row, hrow, ?_⟩
  split
  · rename_i hclaims
    obtain ⟨rfl, -⟩ := of_decide_eq_true hclaims
    obtain ⟨hlt, hname, slug, hslug, hslugged⟩ := hfits
    rintro id ⟨⟩
    exact ⟨hlt, by rw [hname], by rw [hname, hslug, hslugged.slug_eq hrow]⟩
  · exact hfits'

/-- A stored record has the name of its network. -/
theorem naming_eq {n : String} {id : RecordId} (hid : s.operational.aRecordId n = some id) :
    ∃ row, s.directory.networks.get? n = some row ∧ naming id = fqdnOf row.slug parent := by
  obtain ⟨op, hop, hid⟩ := bind_eq_some_iff.mp hid
  obtain ⟨row, hrow, hfits⟩ := h.rows n op hop
  exact ⟨row, hrow, (hfits id hid).2.2⟩

/-- No record is stored in two rows. -/
theorem unique {m n : String} {id : RecordId} (hm : s.operational.aRecordId m = some id)
    (hn : s.operational.aRecordId n = some id) :
    m = n := by
  obtain ⟨row, hrow, hname⟩ := h.naming_eq hm
  obtain ⟨row', hrow', hname'⟩ := h.naming_eq hn
  exact h.slugs m n row row' hrow hrow' (fqdnOf_inj (hname.symm.trans hname'))

/-- Nobody else stores a record that is held for a network of the directory. -/
theorem eq_of_held {hold : Hold} (hmem : some hold ∈ others) {row : NetworkRow}
    (hrow : s.directory.networks.get? hold.networkId = some row) {n : String}
    (hn : s.operational.aRecordId n = some hold.id) : n = hold.networkId := by
  obtain ⟨-, hname, slug, hslug, hslugged⟩ := h.held hold hmem
  obtain ⟨row', hrow', hname'⟩ := h.naming_eq hn
  have hsame : fqdnOf row'.slug parent = fqdnOf row.slug parent := by
    rw [hslugged.slug_eq hrow, ← hslug, ← hname, hname']
  exact h.slugs n hold.networkId row' row hrow' hrow (fqdnOf_inj hsame)

end

/-- Before anything is published, nothing is shared. -/
theorem unpublished {directory : Directory} (hslugs : directory.SlugsUnique) :
    Owned parent naming (.unpublished directory) ∅ where
  slugs := hslugs
  rows := by simp [Cloud.unpublished]
  records := by simp [Cloud.unpublished, Zone.empty]
  held := by simp

end Owned

/-! ## Calls -/

/-- The calls that leave stored and held records as they are, and retire no network. -/
def harmless : Call → Bool
  | .claimARecord .. | .upsertRecord _ _ _ _ (some _) | .finishDeprovision _ => false
  | _ => true

theorem Owned.harmless {c : Call} (h : Owned parent naming s others) (hharmless : harmless c = true)
    {pick : RecordId} {r : c.Resp} (htimed : Timed s c)
    (hperform : Cloud.perform pick c s = some (r, s')) :
    ∃ naming', Owned parent naming' s' others := by
  cases c with
  | findById | listNetworks | networkState =>
    cases hperform
    exact ⟨naming, h⟩
  | deleteRecord id =>
    cases hperform
    exact ⟨naming, h.delete⟩
  | recordIp networkId ip =>
    cases hperform
    refine ⟨naming, h.write htimed (fun n hne => get?_recordIp_of_ne _ _ hne) fun op hop => ?_⟩
    unfold recordIp at hop
    cases hrow : s.operational.get? networkId with
    | none =>
      simp only [hrow, Store.get?_insert_self, some.injEq] at hop
      exact .inl (by rw [← hop])
    | some old =>
      simp only [hrow, Store.get?_insert_self, some.injEq] at hop
      exact .inr ⟨old, rfl, by rw [← hop], by rw [← hop]⟩
  | casAcmeRecords networkId expected newIds =>
    cases hperform
    refine ⟨naming, h.write htimed (fun n hne => get?_casAcmeRecords_of_ne _ _ _ hne)
      fun op hop => ?_⟩
    by_cases hhit : s.operational.acmeIds networkId = expected
    · rw [get?_casAcmeRecords_of_hit hhit, if_pos rfl, some.injEq] at hop
      cases hrow : s.operational.get? networkId with
      | none => exact .inl (by rw [← hop, hrow]; rfl)
      | some old => exact .inr ⟨old, rfl, by rw [← hop, hrow]; rfl, by rw [← hop, hrow]; rfl⟩
    · rw [get?_casAcmeRecords_of_miss hhit] at hop
      exact .inr ⟨op, hop, rfl, rfl⟩
  | deleteOperational networkId =>
    cases hperform
    refine ⟨naming, h.operational fun n op hop => ?_⟩
    rw [Store.get?_erase] at hop
    split at hop
    · cases hop
    · exact h.rows n op hop
  | findARecord fqdn =>
    obtain ⟨rfl, -⟩ := Cloud.perform_findARecord hperform
    exact ⟨naming, h⟩
  | upsertRecord networkId type fqdn content existing =>
    cases existing with
    | none =>
      cases hperform
      exact ⟨_, h.create _⟩
    | some id => cases hharmless
  | markNetworkActive networkId =>
    cases hperform
    refine ⟨naming, h.directory (Directory.apply_moves (m := .markActive networkId) rfl) ?_⟩
    exact h.not_retired
  | claimARecord | finishDeprovision => cases hharmless

/-! ## The rely condition -/

def Shows (x : Option Hold) : Call → Prop
  | .upsertRecord networkId _ fqdn _ (some id) => x = some ⟨networkId, fqdn, id⟩
  | _ => True

variable (parent) in
/-- Passes publish under one parent domain; no call fails, and reports and challenge updates
are well timed. -/
@[reducible]
def ownership : Rely world where
  Ghost := Option Hold
  Inv s holds := ∃ naming, Owned parent naming s holds
  Spawns
    | .provisionerTick _ subdomainParent _ => subdomainParent = parent
    | _ => True
  Permits s c choice := choice.fails = false ∧ Timed s c
  Shows := Shows
  Rel := Drifts
  exec_rel := by
    intro s c choice r s' hpermits hexec
    exact drifts_of_perform hpermits.2 (Cloud.perform_of_exec hpermits.1 hexec)
  idle := none
  inv_idle := fun ⟨naming, h⟩ => ⟨naming, h.release⟩
  env_rel := by
    intro m s s' _ henv
    obtain ⟨directory, hmove, rfl⟩ := Option.map_eq_some_iff.mp henv
    exact ⟨Directory.apply_moves (tenantsMove_eq_some hmove).1, fun _ _ h => h⟩
  env_inv := by
    rintro m s s' holds - henv ⟨naming, h⟩
    obtain ⟨directory, hmove, rfl⟩ := Option.map_eq_some_iff.mp henv
    obtain ⟨happly, hretired⟩ := tenantsMove_eq_some hmove
    exact ⟨naming, h.directory (Directory.apply_moves happly) (hretired ▸ h.not_retired)⟩

end Wardnet.Ddns.Ownership
