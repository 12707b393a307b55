/-
# Tenants, as the regional services see it

The Tunneller and the DDNS service read networks and tenants over the mesh and
report lifecycle results back. This module is their view of Tenants: the
networks table, each tenant's current subscription, and the moves Tenants makes
on its own. Network ids are random and are never drawn twice; the directory
remembers the ids of deleted networks to say so.
-/

import Wardnet.Tenants.Networks

namespace Wardnet.Tenants

open Base

structure Directory where
  networks : NetworkTable
  /-- The current subscription of every tenant. -/
  tenants : Store String (Option SubscriptionView)
  /-- The ids of deleted networks. -/
  retired : List String
  retired_gone : ∀ id ∈ retired, networks.get? id = none

namespace Directory

def empty : Directory := ⟨∅, ∅, [], by simp⟩

def getNetwork (d : Directory) (id : String) : Option NetworkView := d.networks.findById id

def getTenant (d : Directory) (id : String) : Option TenantView :=
  (d.tenants.get? id).map (TenantView.mk id)

/-- Replace the networks table by one that holds no further ids. -/
def withNetworks (d : Directory) (networks : NetworkTable)
    (hgone : ∀ id, d.networks.get? id = none → networks.get? id = none) : Directory :=
  { d with networks, retired_gone := fun id hid => hgone id (d.retired_gone id hid) }

def markActive (d : Directory) (id : String) : Bool × Directory :=
  ((d.networks.markActive id).1, d.withNetworks (d.networks.markActive id).2 (by
    intro k hk
    simp [NetworkTable.markActive, hk]))

def setDeprovisioning (d : Directory) (id : String) : Directory :=
  d.withNetworks (d.networks.setDeprovisioning id).2 (by
    intro k hk
    simp [NetworkTable.setDeprovisioning, hk])

def setDeprovisioningForTenant (d : Directory) (tenantId : String) : Directory :=
  d.withNetworks (d.networks.setDeprovisioningForTenant tenantId).2 (by
    intro k hk
    simp [NetworkTable.setDeprovisioningForTenant, hk])

/-- `finish_deprovision`: delete the row of a torn-down network for good. -/
def finishDeprovision (d : Directory) (id : String) : Bool × Directory :=
  if h : (d.networks.deleteIfDeprovisioning id).1 then
    (true,
      { d with
        networks := (d.networks.deleteIfDeprovisioning id).2
        retired := id :: d.retired
        retired_gone := by
          intro k hk
          rcases List.mem_cons.mp hk with rfl | hk
          · exact NetworkTable.get?_deleteIfDeprovisioning h
          · simp [NetworkTable.deleteIfDeprovisioning, d.retired_gone k hk] })
  else
    (false, d)

variable {d d' : Directory} {m : Move} {networkId : String}

theorem mem_retired_finishDeprovision {id n : String} (h : n ∈ (d.finishDeprovision id).2.retired) :
    n = id ∨ n ∈ d.retired := by
  unfold finishDeprovision at h
  split at h
  · exact List.mem_cons.mp h
  · exact .inr h

/-- The network is registered under a fresh id and a free slug. -/
def registerNetwork (d : Directory) (id : String) (row : NetworkRow) : Option Directory :=
  if h : d.networks.get? id = none ∧ id ∉ d.retired ∧ d.networks.slugFree row.slug then
    some
      { d with
        networks := d.networks.insert id { row with provisioningState := .provisioning }
        retired_gone := by
          intro k hk
          have hne : k ≠ id := fun heq => h.2.1 (heq ▸ hk)
          rw [Store.get?_insert_of_ne _ hne]
          exact d.retired_gone k hk }
  else
    none

def loseSubscription (d : Directory) (tenantId : String) : Directory :=
  { d with tenants := (d.tenants.updateWhere (fun k _ => k = tenantId) fun _ => none).2 }

inductive Move
  | registerNetwork (id : String) (row : NetworkRow)
  | markActive (id : String)
  | setDeprovisioning (id : String)
  | setDeprovisioningForTenant (tenantId : String)
  | finishDeprovision (id : String)
  | loseSubscription (tenantId : String)

def apply (d : Directory) : Move → Option Directory
  | .registerNetwork id row => d.registerNetwork id row
  | .markActive id => some (d.markActive id).2
  | .setDeprovisioning id => some (d.setDeprovisioning id)
  | .setDeprovisioningForTenant tenantId => some (d.setDeprovisioningForTenant tenantId)
  | .finishDeprovision id => some (d.finishDeprovision id).2
  | .loseSubscription tenantId => some (d.loseSubscription tenantId)

/-! ## What a move does to the networks -/

/-- Whatever Tenants does: ids of deleted networks stay retired, a network keeps its slug
and, once slated, its state, until it is deleted, and at most one network is new, under a
fresh id and a free slug. -/
structure Moves (d d' : Directory) : Prop where
  retired : ∀ id ∈ d.retired, id ∈ d'.retired
  kept : ∀ id row, d.networks.get? id = some row → id ∈ d'.retired ∨
    ∃ row', d'.networks.get? id = some row' ∧ row'.slug = row.slug ∧
      (row.provisioningState = .deprovisioning → row'.provisioningState = .deprovisioning)
  known : ∀ id row', d'.networks.get? id = some row' →
    (∃ row, d.networks.get? id = some row ∧ row'.slug = row.slug) ∨
      ((∀ other row, d.networks.get? other = some row → row.slug ≠ row'.slug) ∧
        ∀ other, other ≠ id → d'.networks.get? other = d.networks.get? other)

theorem Moves.refl (d : Directory) : Moves d d where
  retired _ hid := hid
  kept _ row hrow := .inr ⟨row, hrow, rfl, id⟩
  known _ row hrow := .inl ⟨row, hrow, rfl⟩

/-- An `UPDATE` that leaves slugs and slated networks alone. -/
theorem moves_updateWhere {p : String → NetworkRow → Bool} {f : NetworkRow → NetworkRow}
    (hretired : d'.retired = d.retired) (hnetworks : d'.networks = (d.networks.updateWhere p f).2)
    (hslug : ∀ row, (f row).slug = row.slug)
    (hstate : ∀ id row, p id row = true → row.provisioningState = .deprovisioning →
      (f row).provisioningState = .deprovisioning) : Moves d d' where
  retired id hid := hretired ▸ hid
  kept id row hrow := by
    refine .inr ⟨if p id row then f row else row, by simp [hnetworks, hrow], ?_⟩
    split
    · rename_i hp
      exact ⟨hslug row, hstate id row hp⟩
    · exact ⟨rfl, fun h => h⟩
  known id row' hrow' := by
    rw [hnetworks, Store.get?_updateWhere, Option.map_eq_some_iff] at hrow'
    obtain ⟨row, hrow, rfl⟩ := hrow'
    refine .inl ⟨row, hrow, ?_⟩
    split
    · exact hslug row
    · rfl

theorem moves_finishDeprovision (d : Directory) (id : String) :
    Moves d (d.finishDeprovision id).2 := by
  unfold finishDeprovision
  split
  · refine ⟨fun _ hid => List.mem_cons_of_mem _ hid, fun k row hrow => ?_, fun k row' hrow' => ?_⟩
    · by_cases heq : k = id
      · exact .inl (by simp [heq])
      · exact .inr ⟨row, by simp [NetworkTable.deleteIfDeprovisioning, hrow, heq], rfl, fun h => h⟩
    · simp only [NetworkTable.deleteIfDeprovisioning, Store.get?_deleteWhere] at hrow'
      exact .inl ⟨row', (Option.filter_eq_some_iff.mp hrow').1, rfl⟩
  · exact .refl d

theorem moves_registerNetwork {id : String} {row : NetworkRow}
    (hmove : d.registerNetwork id row = some d') : Moves d d' := by
  unfold registerNetwork at hmove
  split at hmove
  · rename_i hfresh
    have hnone := hfresh.1
    have hfree := hfresh.2.2
    cases hmove
    refine ⟨fun _ hid => hid, fun k old hold => .inr ⟨old, ?_, rfl, fun h => h⟩,
      fun k row' hrow' => ?_⟩
    · have hne : k ≠ id := fun heq => by simp [heq, hnone] at hold
      simpa [hne] using hold
    · by_cases heq : k = id
      · subst heq
        simp only [Store.get?_insert_self, Option.some.injEq] at hrow'
        subst hrow'
        exact .inr ⟨NetworkTable.slugFree_iff.mp hfree, fun other hne => by simp [hne]⟩
      · exact .inl ⟨row', by simpa [heq] using hrow', rfl⟩
  · cases hmove

theorem apply_moves (hmove : d.apply m = some d') : Moves d d' := by
  cases m with
  | registerNetwork id row => exact moves_registerNetwork hmove
  | finishDeprovision id =>
    cases hmove
    exact moves_finishDeprovision d id
  | markActive id =>
    cases hmove
    exact moves_updateWhere (p := fun k row => k = id ∧ row.provisioningState = .provisioning)
      (f := fun row => { row with provisioningState := .active }) rfl rfl (fun _ => rfl)
      (by simp +contextual)
  | setDeprovisioning id =>
    cases hmove
    exact moves_updateWhere (p := fun k row => k = id ∧ row.provisioningState ≠ .deprovisioning)
      (f := fun row => { row with provisioningState := .deprovisioning }) rfl rfl (fun _ => rfl)
      (fun _ _ _ _ => rfl)
  | setDeprovisioningForTenant tenantId =>
    cases hmove
    exact moves_updateWhere
      (p := fun _ row => row.tenantId = tenantId ∧ row.provisioningState ≠ .deprovisioning)
      (f := fun row => { row with provisioningState := .deprovisioning }) rfl rfl (fun _ => rfl)
      (fun _ _ _ _ => rfl)
  | loseSubscription tenantId =>
    cases hmove
    exact ⟨fun _ hid => hid, (Moves.refl d).kept, (Moves.refl d).known⟩

/-! ## Decommissioning is final -/

/-- The network is gone or being torn down. -/
def TornDown (d : Directory) (networkId : String) : Prop :=
  networkId ∈ d.retired ∨
    ∃ row, d.networks.get? networkId = some row ∧ row.provisioningState = .deprovisioning

/-- Tenants holds the network as provisioning or active. -/
def Live (d : Directory) (networkId : String) : Prop :=
  (d.networks.get? networkId).any (·.provisioningState ≠ .deprovisioning)

instance (d : Directory) (networkId : String) : Decidable (d.Live networkId) :=
  inferInstanceAs (Decidable (_ = true))

theorem Live.not_tornDown (hlive : d.Live networkId) : ¬ d.TornDown networkId := by
  obtain ⟨row, hrow, hstate⟩ := (Option.any_eq_true _ _).mp hlive
  rintro (hretired | ⟨row', hrow', hstate'⟩)
  · rw [d.retired_gone _ hretired] at hrow
    cases hrow
  · rw [hrow] at hrow'
    cases hrow'
    exact of_decide_eq_true hstate hstate'

def Unsubscribed (d : Directory) (tenantId : String) : Prop :=
  (d.getTenant tenantId).any TenantView.entitled = false

instance (d : Directory) (tenantId : String) : Decidable (d.Unsubscribed tenantId) :=
  inferInstanceAs (Decidable (_ = false))

/-- A torn-down network is never registered again, and stays slated until its
row is deleted. -/
theorem TornDown.moves (h : d.TornDown networkId) (hmoves : Moves d d') :
    d'.TornDown networkId := by
  rcases h with hretired | ⟨row, hrow, hstate⟩
  · exact .inl (hmoves.retired _ hretired)
  · rcases hmoves.kept _ row hrow with hretired | ⟨row', hrow', -, hstate'⟩
    · exact .inl hretired
    · exact .inr ⟨row', hrow', hstate' hstate⟩

theorem TornDown.apply (h : d.TornDown networkId) (hmove : d.apply m = some d') :
    d'.TornDown networkId :=
  h.moves (apply_moves hmove)

/-- The network is or was registered under the slug. -/
def Slugged (d : Directory) (networkId slug : String) : Prop :=
  networkId ∈ d.retired ∨ ∃ row, d.networks.get? networkId = some row ∧ row.slug = slug

theorem Slugged.moves {slug : String} (h : d.Slugged networkId slug) (hmoves : Moves d d') :
    d'.Slugged networkId slug := by
  rcases h with hretired | ⟨row, hrow, hslug⟩
  · exact .inl (hmoves.retired _ hretired)
  · rcases hmoves.kept _ row hrow with hretired | ⟨row', hrow', hsame, -⟩
    · exact .inl hretired
    · exact .inr ⟨row', hrow', hsame.trans hslug⟩

/-- A registered network has the slug it was registered under. -/
theorem Slugged.slug_eq {slug : String} (h : d.Slugged networkId slug) {row : NetworkRow}
    (hrow : d.networks.get? networkId = some row) : row.slug = slug := by
  rcases h with hretired | ⟨row', hrow', hslug⟩
  · rw [d.retired_gone _ hretired] at hrow
    cases hrow
  · rw [hrow] at hrow'
    cases hrow'
    exact hslug

/-- No two networks share a slug: the unique index on `slug`. -/
def SlugsUnique (d : Directory) : Prop :=
  ∀ m n row row', d.networks.get? m = some row → d.networks.get? n = some row' →
    row.slug = row'.slug → m = n

theorem SlugsUnique.moves (h : d.SlugsUnique) (hmoves : Moves d d') : d'.SlugsUnique := by
  intro m n row row' hm hn hslug
  by_contra hne
  rcases hmoves.known m row hm with ⟨old, hold, hsame⟩ | ⟨hfree, hothers⟩
  · rcases hmoves.known n row' hn with ⟨old', hold', hsame'⟩ | ⟨hfree', -⟩
    · exact hne (h m n old old' hold hold' (hsame.symm.trans (hslug.trans hsame')))
    · exact hfree' m old hold (hsame.symm.trans hslug)
  · rw [hothers n (Ne.symm hne)] at hn
    exact hfree n row' hn hslug.symm

/-- Tenants never hands a lost subscription back. -/
theorem Unsubscribed.apply {tenantId : String} (h : d.Unsubscribed tenantId)
    (hmove : d.apply m = some d') : d'.Unsubscribed tenantId := by
  cases m with
  | registerNetwork id row =>
    simp only [Directory.apply, registerNetwork] at hmove
    split at hmove
    · cases hmove
      exact h
    · cases hmove
  | markActive | setDeprovisioning | setDeprovisioningForTenant => cases hmove; exact h
  | finishDeprovision id =>
    cases hmove
    unfold finishDeprovision
    split
    · exact h
    · exact h
  | loseSubscription lost =>
    cases hmove
    simp only [Unsubscribed, getTenant, loseSubscription, Store.get?_updateWhere,
      Option.any_map] at h ⊢
    cases hsub : d.tenants.get? tenantId with
    | none => rfl
    | some sub =>
      by_cases heq : tenantId = lost
      · simp [heq, TenantView.entitled]
      · simpa [hsub, heq] using h

end Directory

end Wardnet.Tenants
