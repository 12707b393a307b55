/-
# The published address and the reported one

A report writes the A record and then the row, and the provisioner reads the row and then
writes the record. Each order is right on its own, but two reports, or a report and a
publication, that overlap can leave the record with one address and the row with another.

Reports that overlap neither each other nor a publication keep the two together: once all
tasks have returned, the stored A record points to the stored address.
-/

import Wardnet.Ddns.Leak

namespace Wardnet.Ddns.Reported

open Base Tenants Outline OperationalTable Option Operational

def storedIp (s : Cloud) (networkId : String) : Option String :=
  (s.operational.get? networkId).bind Operational.ip

def PointsTo (s : Cloud) (id : RecordId) (ip : String) : Prop :=
  ∃ rec, s.zone.records.get? id = some rec ∧ rec.content = ip

/-- The record stored for the network points to the address stored for it. -/
def Agrees (s : Cloud) (networkId : String) : Prop :=
  ∀ id, s.operational.aRecordId networkId = some id →
    ∃ ip, storedIp s networkId = some ip ∧ PointsTo s id ip

/-- The region serves the one network, and a stored record has its name stored. -/
structure OneNetwork (s : Cloud) (networkId : String) : Prop where
  only : ∀ m row, s.directory.networks.get? m = some row → m = networkId
  named : ∀ op, s.operational.get? networkId = some op → op.cfARecordId.isSome → op.fqdn.isSome

/-! ## The phases of reports and publications -/

/-- How far a task has come. A pass is `read` from reading the address, `held` from writing
the record to its claim, and `lost` and `dropping` after a lost claim. A report has
`arrived`, is `reporting` once it has read the row, and has `updated` the record. -/
inductive Note
  | idle
  | read (ip : String)
  | held (ip : String) (id : RecordId)
  | lost (id : RecordId)
  | dropping (id : RecordId)
  | arrived
  | reporting (claimed : Option RecordId)
  | updated (ip : String)

instance : Inhabited Note := ⟨.idle⟩

namespace Note

def Publishing : Note → Prop
  | read _ | held _ _ => True
  | _ => False

def Reporting : Note → Prop
  | reporting _ | updated _ => True
  | _ => False

def OfReport : Note → Prop
  | arrived | reporting _ | updated _ => True
  | _ => False

def Ok (networkId : String) (s : Cloud) : Note → Prop
  | idle | arrived => True
  | read ip => storedIp s networkId = some ip
  | held ip id => storedIp s networkId = some ip ∧
      (s.operational.aRecordId networkId = none → PointsTo s id ip)
  | lost _ => s.operational.aRecordId networkId ≠ none
  | dropping id => s.operational.aRecordId networkId ≠ none ∧
      s.operational.aRecordId networkId ≠ some id
  | reporting claimed => s.operational.aRecordId networkId = claimed
  | updated ip => ∀ id, s.operational.aRecordId networkId = some id → PointsTo s id ip

end Note

/-- The invariant: unless a report has just written the record, the record and the row
agree. -/
structure Tracked (networkId : String) (s : Cloud) (notes : Set Note) : Prop where
  one : OneNetwork s networkId
  agrees : (∀ ip, .updated ip ∉ notes) → Agrees s networkId
  ok : ∀ g ∈ notes, g.Ok networkId s

variable {networkId : String} {s s' : Cloud} {g g' : Note} {rest : Set Note}

namespace Tracked

theorem next (h : Tracked networkId s (insert g rest)) (hone : OneNetwork s' networkId)
    (hagrees : (∀ ip, .updated ip ∉ insert g' rest) → Agrees s' networkId)
    (hok : g'.Ok networkId s') (hothers : ∀ g₀ ∈ rest, g₀.Ok networkId s → g₀.Ok networkId s') :
    Tracked networkId s' (insert g' rest) where
  one := hone
  agrees := hagrees
  ok g₀ hg₀ := by
    rcases hg₀ with rfl | hg₀
    · exact hok
    · exact hothers g₀ hg₀ (h.ok g₀ (.inr hg₀))

/-- Nothing is reported while no report is under way. -/
theorem agrees_of_noReport (h : Tracked networkId s (insert g rest)) (hg : ¬ g.Reporting)
    (hrest : ∀ g₀ ∈ rest, ¬ g₀.Reporting) : Agrees s networkId := by
  apply h.agrees
  rintro ip (rfl | hmem)
  · exact hg trivial
  · exact hrest _ hmem trivial

theorem quiet (h : Tracked networkId s (insert g rest))
    (honly : ∀ m row, s'.directory.networks.get? m = some row → m = networkId)
    (hoperational : s'.operational = s.operational) (hzone : s'.zone = s.zone)
    (hok : g'.Ok networkId s) (hupdated : ∀ ip, g = .updated ip → g' = .updated ip) :
    Tracked networkId s' (insert g' rest) := by
  obtain ⟨directory, operational, zone⟩ := s'
  subst hoperational hzone
  refine h.next ⟨honly, h.one.named⟩ (fun hnot => h.agrees fun ip hmem => ?_)
    (by cases g' <;> exact hok)
    fun g₀ _ hg₀ => by cases g₀ <;> exact hg₀
  rcases hmem with heq | hmem
  · exact hnot ip (.inl (hupdated ip heq.symm).symm)
  · exact hnot ip (.inr hmem)

/-- A pass writes its record. It writes the stored address, so that no other pass that
holds the record can tell. -/
theorem publish {zone : Zone} {ip : String} {id : RecordId}
    (h : Tracked networkId s (insert (.read ip) rest)) (hrest : ∀ g₀ ∈ rest, ¬ g₀.Reporting)
    (hid : PointsTo { s with zone } id ip)
    (hother : ∀ k ip', k ≠ id → PointsTo s k ip' → PointsTo { s with zone } k ip') :
    Tracked networkId { s with zone } (insert (.held ip id) rest) := by
  have hip : storedIp s networkId = some ip := h.ok _ (.inl rfl)
  have hpoints : ∀ k, PointsTo s k ip → PointsTo { s with zone } k ip := by
    intro k hk
    by_cases heq : k = id
    · exact heq ▸ hid
    · exact hother k ip heq hk
  refine h.next ⟨h.one.only, h.one.named⟩ (fun _ k hk => ?_) ⟨hip, fun _ => hid⟩
    fun g₀ hg₀ hok => ?_
  · obtain ⟨ip', hip', hk⟩ := h.agrees_of_noReport (by simp [Note.Reporting]) hrest k hk
    rw [hip] at hip'
    cases hip'
    exact ⟨ip, hip, hpoints k hk⟩
  · cases g₀ with
    | held ip' k =>
      obtain ⟨hip', hk⟩ := hok
      obtain rfl := some.inj (hip'.symm.trans hip)
      exact ⟨hip', fun hnone => hpoints k (hk hnone)⟩
    | reporting | updated => exact absurd trivial (hrest _ hg₀)
    | _ => exact hok

/-- A claim stores the record, which points to the stored address, or loses. -/
theorem claim {fqdn ip : String} {id : RecordId}
    (h : Tracked networkId s (insert (.held ip id) rest)) (hrest : ∀ g₀ ∈ rest, ¬ g₀.Reporting) :
    Tracked networkId { s with operational := (s.operational.claimARecord networkId fqdn id).2 }
      (insert (if (s.operational.claimARecord networkId fqdn id).1 then .idle else .lost id)
        rest) := by
  obtain ⟨hip, hpoints⟩ := h.ok _ (.inl rfl)
  obtain ⟨op, hop, hopip⟩ := bind_eq_some_iff.mp hip
  cases hid : op.cfARecordId with
  | none =>
    have hunclaimed : s.operational.aRecordId networkId = none := by
      simp [aRecordId, hop, hid]
    have hrow : (s.operational.claimARecord networkId fqdn id).2.get? networkId =
        some { op with fqdn := some fqdn, cfARecordId := some id } :=
      get?_claimARecord_of_unclaimed hop hid
    rw [if_pos (claimARecord_won_iff.mpr ⟨op, hop, hid⟩)]
    refine h.next ⟨h.one.only, fun op' hop' _ => ?_⟩ (fun _ k hk => ?_) trivial fun g₀ hg₀ hok => ?_
    · obtain rfl := some.inj (hrow.symm.trans hop')
      rfl
    · simp only [aRecordId, hrow, bind_some, some.injEq] at hk
      exact ⟨ip, by simpa [storedIp, hrow] using hopip, hk ▸ hpoints hunclaimed⟩
    · have hip' : ∀ ip', storedIp s networkId = some ip' → storedIp
          { s with operational := (s.operational.claimARecord networkId fqdn id).2 } networkId =
            some ip' := by
        intro ip' hip'
        simpa [storedIp, hrow, hop] using hip'
      cases g₀ with
      | read ip' => exact hip' ip' hok
      | held ip' k =>
        exact ⟨hip' ip' hok.1, fun hnone => by simp [aRecordId, hrow] at hnone⟩
      | lost k => exact absurd hunclaimed hok
      | dropping k => exact absurd hunclaimed hok.1
      | reporting | updated => exact absurd trivial (hrest _ hg₀)
      | idle | arrived => trivial
  | some winner =>
    have hclaimed : s.operational.aRecordId networkId = some winner := by
      simp [aRecordId, hop, hid]
    rw [claimARecord_of_claimed hclaimed]
    exact h.quiet h.one.only rfl rfl (by simp [Note.Ok, hclaimed]) (by simp)

theorem drop {id : RecordId} (h : Tracked networkId s (insert (.dropping id) rest)) :
    Tracked networkId { s with zone := s.zone.delete id } (insert .idle rest) := by
  obtain ⟨hclaimed, hother⟩ := h.ok _ (.inl rfl)
  have hpoints : ∀ k ip, s.operational.aRecordId networkId = some k → PointsTo s k ip →
      PointsTo { s with zone := s.zone.delete id } k ip := by
    rintro k ip hk ⟨rec, hrec, hip⟩
    have hne : k ≠ id := fun heq => hother (heq ▸ hk)
    exact ⟨rec, by simpa [Zone.delete, hne] using hrec, hip⟩
  refine h.next ⟨h.one.only, h.one.named⟩ (fun hnot k hk => ?_) trivial fun g₀ hg₀ hok => ?_
  · obtain ⟨ip, hip, hrec⟩ := h.agrees (by simpa using hnot) k hk
    exact ⟨ip, hip, hpoints k ip hk hrec⟩
  · cases g₀ with
    | held ip k => exact ⟨hok.1, fun hnone => absurd hnone hclaimed⟩
    | updated ip => exact fun k hk => hpoints k ip hk (hok k hk)
    | _ => exact hok

theorem update {zone : Zone} {ip : String} {id : RecordId}
    (h : Tracked networkId s (insert (.reporting (some id)) rest))
    (hrest : ∀ g₀ ∈ rest, ¬ g₀.Reporting) (halone : ∀ g₀ ∈ rest, ¬ g₀.Publishing)
    (hid : PointsTo { s with zone } id ip) :
    Tracked networkId { s with zone } (insert (.updated ip) rest) := by
  have hclaimed : s.operational.aRecordId networkId = some id := h.ok _ (.inl rfl)
  refine h.next ⟨h.one.only, h.one.named⟩ (fun hnot => absurd (.inl rfl) (hnot ip)) (fun k hk => ?_)
    fun g₀ hg₀ hok => ?_
  · obtain rfl := some.inj (hclaimed.symm.trans hk)
    exact hid
  · cases g₀ with
    | read | held => exact absurd trivial (halone _ hg₀)
    | reporting | updated => exact absurd trivial (hrest _ hg₀)
    | _ => exact hok

/-- A report stores the address that the record points to, if one is stored. -/
theorem record {ip : String} (h : Tracked networkId s (insert g rest))
    (hrest : ∀ g₀ ∈ rest, ¬ g₀.Reporting) (halone : ∀ g₀ ∈ rest, ¬ g₀.Publishing)
    (hg : g = .reporting none ∨ g = .updated ip) :
    Tracked networkId { s with operational := s.operational.recordIp networkId ip }
      (insert .idle rest) := by
  have hclaimed : (s.operational.recordIp networkId ip).aRecordId networkId =
      s.operational.aRecordId networkId := by
    unfold recordIp aRecordId
    split <;> simp_all
  have hip : storedIp { s with operational := s.operational.recordIp networkId ip } networkId =
      some ip := by
    unfold recordIp storedIp
    split <;> simp_all
  refine h.next ⟨h.one.only, fun op hop hid => ?_⟩ (fun _ id hid => ?_) trivial fun g₀ hg₀ hok => ?_
  · unfold recordIp at hop
    split at hop
    · simp only [Store.get?_insert_self, some.injEq] at hop
      subst hop
      simp at hid
    · rename_i old hold
      simp only [Store.get?_insert_self, some.injEq] at hop
      subst hop
      exact h.one.named old hold hid
  · replace hid : s.operational.aRecordId networkId = some id := hclaimed ▸ hid
    refine ⟨ip, hip, ?_⟩
    rcases hg with rfl | rfl
    · have hnone : s.operational.aRecordId networkId = none := h.ok _ (.inl rfl)
      simp [hnone] at hid
    · exact h.ok _ (.inl rfl) id hid
  · cases g₀ with
    | read | held => exact absurd trivial (halone _ hg₀)
    | reporting | updated => exact absurd trivial (hrest _ hg₀)
    | lost k => exact fun hnone => hok (hclaimed.symm.trans hnone)
    | dropping k =>
      obtain ⟨hne, hother⟩ := hok
      exact ⟨hclaimed.symm ▸ hne, hclaimed.symm ▸ hother⟩
    | idle | arrived => trivial

end Tracked

/-! ## The outline -/

def touches : Call → Bool
  | .findById _ | .recordIp .. | .claimARecord .. | .findARecord _ | .upsertRecord .. => true
  | _ => false

def isReport : Task → Bool
  | .reportIp .. => true
  | _ => false

/-- The task is a report that has read the row and not stored the address yet. -/
def reportUnderWay : Task → Option Call → Bool
  | .reportIp .., some (.upsertRecord ..) | .reportIp .., some (.recordIp ..) => true
  | _, _ => false

/-- The task is a pass that has read the address and not claimed its record yet. -/
def publicationUnderWay : Task → Option Call → Bool
  | .provisionerTick .., some (.findARecord _) | .provisionerTick .., some (.upsertRecord ..)
  | .provisionerTick .., some (.claimARecord ..) => true
  | _, _ => false

@[reducible]
def outline (networkId : String) : Outline world Note where
  Inv := Tracked networkId
  Sees _ g task _ pending := (g.Reporting → reportUnderWay task pending = true) ∧
    (g.Publishing → publicationUnderWay task pending = true) ∧ (g.OfReport → isReport task = true)
  Permits _ g rest c choice := choice.fails = false ∧
    (touches c = true → ∀ g₀ ∈ rest, ¬ g₀.Reporting) ∧ (g.OfReport → ∀ g₀ ∈ rest, ¬ g₀.Publishing)

theorem wp_issue {i : ℕ} {task : Task} {log : List world.Event} (c : Call)
    {Q : Note → c.Resp → Prop} (hsees : (outline networkId).Sees i g task log (some c))
    (hcall : ∀ s rest pick r s', Tracked networkId s (insert g rest) →
      (touches c = true → ∀ g₀ ∈ rest, ¬ g₀.Reporting) →
      (g.OfReport → ∀ g₀ ∈ rest, ¬ g₀.Publishing) → Cloud.perform pick c s = some (r, s') →
      ∃ g', Tracked networkId s' (insert g' rest) ∧ Q g' r) :
    (outline networkId).Wp i task (fun g' _ r => Q g' r) g log (issue c) := by
  refine ⟨hsees, fun s rest choice r s' hinv hperm hexec => ?_⟩
  obtain ⟨hok, hnoReport, hnoPublish⟩ := hperm
  refine hcall s rest choice.pick r s' hinv hnoReport hnoPublish ?_
  simpa [Cloud.exec, hok] using hexec

theorem wp_orInternal {α : Type} {i : ℕ} {task : Task} {log : List world.Event}
    {Q : Note → List world.Event → Except DdnsError α → Prop} {p : Proc (Except Failure α)}
    (h : (outline networkId).Wp i task
      (fun g' log' r => Q g' log' (r.mapError fun _ => DdnsError.internal)) g log p) :
    (outline networkId).Wp i task Q g log (orInternal p).run :=
  Wp.bind h

/-! ## Passes -/

section

variable {i : ℕ} {region parent : String} {pages : ℕ} {log : List world.Event}

theorem wp_readIp : (outline networkId).Wp i (.provisionerTick region parent pages)
      (fun g' _ r => ∃ op, r = .ok op ∧ g' = ((op.bind Operational.ip).map .read).getD .idle)
      .idle log (issue (.findById networkId)) := by
  apply wp_issue (.findById networkId) ⟨False.elim, False.elim, False.elim⟩
  intro s rest pick r s' h _ _ hperform
  cases hperform
  refine ⟨_, h.quiet h.one.only rfl rfl ?_ nofun, _, rfl, rfl⟩
  cases hip : (s.operational.get? networkId).bind ip with
  | none => trivial
  | some ip => exact hip

variable {ip fqdn : String} {state : ProvisioningState} {afterId : Option String}

theorem wp_findARecord : (outline networkId).Wp i (.provisionerTick region parent pages)
      (fun g' _ r => ∃ existing, r = .ok existing ∧ g' = .read ip) (.read ip) log
      (issue (.findARecord fqdn)) := by
  apply wp_issue (.findARecord fqdn) ⟨False.elim, fun _ => rfl, False.elim⟩
  intro s rest pick r s' h _ _ hperform
  obtain ⟨rfl, ⟨-, rfl⟩ | ⟨-, rfl⟩⟩ := Cloud.perform_findARecord hperform
  · exact ⟨_, h, _, rfl, rfl⟩
  · exact ⟨_, h, _, rfl, rfl⟩

theorem wp_upsertRecord (existing : Option RecordId) :
    (outline networkId).Wp i (.provisionerTick region parent pages) (fun g' _ r => match r with
        | .ok id => g' = .held ip id
        | .error _ => g' = .idle) (.read ip) log
      (issue (.upsertRecord networkId .a fqdn ip existing)) := by
  apply wp_issue (.upsertRecord networkId .a fqdn ip existing)
    ⟨False.elim, fun _ => rfl, False.elim⟩
  intro s rest pick r s' h hrest _ hperform
  cases existing with
  | none =>
    cases hperform
    refine ⟨_, h.publish (hrest rfl) ⟨⟨.a, fqdn, ip, networkId⟩, ?_, rfl⟩ ?_, rfl⟩
    · simp [Zone.create]
    · rintro k ip' hne ⟨rec, hrec, hip⟩
      exact ⟨rec, by simpa [Zone.create, show k ≠ s.zone.nextId from hne] using hrec, hip⟩
  | some id =>
    obtain ⟨hexists, rfl, rfl⟩ | ⟨-, rfl, rfl⟩ := Cloud.perform_update hperform
    · obtain ⟨rec, hrec⟩ := Store.contains_eq_true_iff.mp hexists
      refine ⟨_, h.publish (hrest rfl) ⟨_, by simp [Zone.update, hrec]; rfl, rfl⟩ ?_, rfl⟩
      rintro k ip' hne ⟨rec, hrec, hip⟩
      exact ⟨rec, by simp [Zone.update, hne, hrec], hip⟩
    · exact ⟨.idle, h.quiet h.one.only rfl rfl trivial (by simp), rfl⟩

theorem wp_claimARecord {id : RecordId} :
    (outline networkId).Wp i (.provisionerTick region parent pages)
      (fun g' _ r => ∃ won, r = .ok won ∧ g' = if won then .idle else .lost id) (.held ip id) log
      (issue (.claimARecord networkId fqdn id)) := by
  apply wp_issue (.claimARecord networkId fqdn id) ⟨False.elim, fun _ => rfl, False.elim⟩
  intro s rest pick r s' h hrest _ hperform
  cases hperform
  exact ⟨_, h.claim (hrest rfl), _, rfl, rfl⟩

theorem wp_findWinner {id : RecordId} :
    (outline networkId).Wp i (.provisionerTick region parent pages)
      (fun g' _ r => ∃ op : Option Operational, r = .ok op ∧
        g' = if op.bind Operational.cfARecordId = some id then .idle else .dropping id)
      (.lost id) log (issue (.findById networkId)) := by
  apply wp_issue (.findById networkId) ⟨False.elim, False.elim, False.elim⟩
  intro s rest pick r s' h _ _ hperform
  cases hperform
  refine ⟨_, h.quiet h.one.only rfl rfl ?_ nofun, _, rfl, rfl⟩
  split
  · trivial
  · rename_i hother
    exact ⟨h.ok _ (.inl rfl), hother⟩

theorem wp_deleteRecord {id : RecordId} :
    (outline networkId).Wp i (.provisionerTick region parent pages) (fun g' _ _ => g' = .idle)
      (.dropping id) log (issue (.deleteRecord id)) := by
  apply wp_issue (.deleteRecord id) ⟨False.elim, False.elim, False.elim⟩
  intro s rest pick r s' h _ _ hperform
  cases hperform
  exact ⟨_, h.drop, rfl⟩

theorem wp_provision :
    (outline networkId).Wp i (.provisionerTick region parent pages) (fun g' _ _ => g' = .idle)
      (.read ip) log (provision networkId fqdn ip).run := by
  apply Wp.exceptBind
  apply wp_orInternal
  apply wp_findARecord.mono
  rintro _ _ _ ⟨existing, rfl, rfl⟩
  apply Wp.exceptBind
  apply wp_orInternal
  apply (wp_upsertRecord existing).mono
  intro g' _ r hr
  cases r with
  | error e => exact hr
  | ok id =>
    subst hr
    apply Wp.exceptBind
    apply wp_orInternal
    apply wp_claimARecord.mono
    rintro _ _ _ ⟨won, rfl, rfl⟩
    cases won with
    | true => rfl
    | false =>
      apply Wp.exceptBind
      apply wp_orInternal
      apply wp_findWinner.mono
      rintro _ _ _ ⟨op, rfl, rfl⟩
      simp only [Except.mapError]
      split
      · rfl
      · apply Wp.exceptBind
        apply Wp.bind
        apply wp_deleteRecord.mono
        rintro _ _ _ rfl
        rfl

theorem wp_quiet (c : Call) {Q : c.Resp → Prop}
    (hcall : ∀ s pick r s', OneNetwork s networkId → Cloud.perform pick c s = some (r, s') →
      (∀ m row, s'.directory.networks.get? m = some row → m = networkId) ∧
        s'.operational = s.operational ∧ s'.zone = s.zone ∧ Q r) :
    (outline networkId).Wp i (.provisionerTick region parent pages) (fun g' _ r => g' = .idle ∧ Q r)
      .idle log (issue c) := by
  apply wp_issue c ⟨False.elim, False.elim, False.elim⟩
  intro s rest pick r s' h _ _ hperform
  obtain ⟨honly, hoperational, hzone, hQ⟩ := hcall s pick r s' h.one hperform
  exact ⟨.idle, h.quiet honly hoperational hzone trivial nofun, rfl, hQ⟩

theorem wp_markNetworkActive : (outline networkId).Wp i (.provisionerTick region parent pages)
      (fun g' _ r => g' = .idle ∧ ∃ marked, r = .ok marked) .idle log
      (issue (.markNetworkActive networkId)) := by
  apply wp_quiet (.markNetworkActive networkId)
  intro s pick r s' hone hperform
  cases hperform
  refine ⟨fun m row hrow => ?_, rfl, rfl, _, rfl⟩
  simp only [Directory.markActive, Directory.withNetworks, NetworkTable.markActive,
    Store.get?_updateWhere, map_eq_some_iff] at hrow
  obtain ⟨old, hold, -⟩ := hrow
  exact hone.only m old hold

theorem wp_networkState : (outline networkId).Wp i (.provisionerTick region parent pages)
      (fun g' _ r => g' = .idle ∧ ∃ state, r = .ok state) .idle log
      (issue (.networkState networkId)) := by
  apply wp_quiet (.networkState networkId)
  intro s pick r s' hone hperform
  cases hperform
  exact ⟨hone.only, rfl, rfl, _, rfl⟩

theorem wp_listNetworks {limit : ℕ} :
    (outline networkId).Wp i (.provisionerTick region parent pages)
      (fun g' _ r => g' = .idle ∧ ∃ page, r = .ok page ∧ ∀ net ∈ page, net.id = networkId) .idle log
      (issue (.listNetworks state region afterId limit)) := by
  apply wp_quiet (.listNetworks state region afterId limit)
  intro s pick r s' hone hperform
  cases hperform
  refine ⟨hone.only, rfl, rfl, _, rfl, fun net hnet => ?_⟩
  obtain ⟨row, hrow, -⟩ := NetworkTable.state_of_mem_listForReconcile hnet
  exact hone.only _ row hrow

theorem wp_transition :
    (outline networkId).Wp i (.provisionerTick region parent pages) (fun g' _ _ => g' = .idle) .idle
      log (transition networkId .active).run := by
  apply Wp.exceptBind
  apply wp_markNetworkActive.mono
  rintro _ _ _ ⟨rfl, marked, rfl⟩
  cases marked with
  | true => rfl
  | false =>
    apply Wp.exceptBind
    apply wp_networkState.mono
    rintro _ _ _ ⟨rfl, state, rfl⟩
    dsimp only
    split
    all_goals rfl

theorem wp_provisionNetwork {net : NetworkView} (hnet : net.id = networkId) :
    (outline networkId).Wp i (.provisionerTick region parent pages) (fun g' _ _ => g' = .idle) .idle
      log (provisionNetwork parent net) := by
  subst hnet
  apply Wp.bind
  apply wp_readIp.mono
  rintro _ _ _ ⟨op, rfl, rfl⟩
  cases hip : op.bind ip with
  | none =>
    simp only [hip]
    rfl
  | some ip =>
    simp only [hip]
    apply Wp.bind
    apply wp_provision.mono
    rintro _ _ r rfl
    cases r with
    | error => rfl
    | ok =>
      apply Wp.bind
      apply wp_transition.mono
      rintro _ _ _ rfl
      rfl

theorem wp_forPage {page : List NetworkView} (hpage : ∀ net ∈ page, net.id = networkId) :
    (outline networkId).Wp i (.provisionerTick region parent pages) (fun g' _ _ => g' = .idle) .idle
      log (forPage (provisionNetwork parent) page) := by
  induction page generalizing log with
  | nil => rfl
  | cons net page ih =>
    apply Wp.bind
    apply (wp_provisionNetwork (hpage net List.mem_cons_self)).mono
    rintro _ _ _ rfl
    exact ih fun net' hnet' => hpage net' (List.mem_cons_of_mem _ hnet')

theorem wp_drain {n : ℕ} :
    (outline networkId).Wp i (.provisionerTick region parent pages) (fun g' _ _ => g' = .idle) .idle
      log (drain state region (provisionNetwork parent) n afterId) := by
  induction n generalizing log afterId with
  | zero => rfl
  | succ n ih =>
    apply Wp.bind
    apply wp_listNetworks.mono
    rintro _ _ _ ⟨rfl, page, rfl, hpage⟩
    by_cases hempty : page = []
    · simp only [if_pos hempty]
      rfl
    · simp only [if_neg hempty]
      apply Wp.bind
      apply (wp_forPage hpage).mono
      rintro _ _ _ rfl
      split
      · exact ih
      · rfl

end

/-! ## Reports -/

section

variable {i : ℕ} {ip : String} {log : List world.Event}

theorem wp_readRow : (outline networkId).Wp i (.reportIp networkId ip)
      (fun g' _ r => ∃ op : Option Operational, r = .ok op ∧
        g' = .reporting (op.bind Operational.cfARecordId) ∧
        ∀ row ∈ op, row.cfARecordId.isSome → row.fqdn.isSome)
      .arrived log (issue (.findById networkId)) := by
  apply wp_issue (.findById networkId) ⟨False.elim, False.elim, fun _ => rfl⟩
  intro s rest pick r s' h _ _ hperform
  cases hperform
  exact ⟨_, h.quiet h.one.only rfl rfl (by rfl) nofun, _, rfl, rfl, h.one.named⟩

theorem wp_update {fqdn : String} {id : RecordId} :
    (outline networkId).Wp i (.reportIp networkId ip)
      (fun g' _ r => r = .ok id ∧ g' = .updated ip) (.reporting (some id)) log
      (issue (.upsertRecord networkId .a fqdn ip (some id))) := by
  apply wp_issue (.upsertRecord networkId .a fqdn ip (some id))
    ⟨fun _ => rfl, False.elim, fun _ => rfl⟩
  intro s rest pick r s' h hrest halone hperform
  have hagrees : Agrees s networkId := by
    apply h.agrees
    rintro ip (heq | hmem)
    · cases heq
    · exact hrest rfl _ hmem trivial
  obtain ⟨_, -, rec, hrec, -⟩ := hagrees id (h.ok _ (.inl rfl))
  have hexists : s.zone.records.contains id = true := Store.contains_eq_true_iff.mpr ⟨rec, hrec⟩
  simp only [Cloud.perform, hexists, if_true] at hperform
  cases hperform
  exact ⟨_, h.update (hrest rfl) (halone trivial)
    ⟨_, by simp [Zone.update, hrec]; rfl, rfl⟩, rfl, rfl⟩

theorem wp_recordIp (hg : g = .reporting none ∨ g = .updated ip) :
    (outline networkId).Wp i (.reportIp networkId ip) (fun g' _ _ => g' = .idle) g log
      (issue (.recordIp networkId ip)) := by
  have hsees : (outline networkId).Sees i g (.reportIp networkId ip) log
      (some (.recordIp networkId ip)) := by
    refine ⟨fun _ => rfl, fun hpublishing => ?_, fun _ => rfl⟩
    rcases hg with rfl | rfl <;> exact hpublishing.elim
  have hreport : g.OfReport := by
    rcases hg with rfl | rfl <;> trivial
  apply wp_issue (.recordIp networkId ip) hsees
  intro s rest pick r s' h hrest halone hperform
  cases hperform
  exact ⟨_, h.record (hrest rfl) (halone hreport) hg, rfl⟩

theorem wp_reportIp :
    (outline networkId).Wp i (.reportIp networkId ip) (fun g' _ _ => g' = .idle) .arrived log
      (reportIp networkId ip).run := by
  apply Wp.exceptBind
  apply wp_orInternal
  apply wp_readRow.mono
  rintro _ _ _ ⟨op, rfl, rfl, hnamed⟩
  simp only [Except.mapError]
  split
  · rename_i id fqdn hstored
    have hclaimed : op.bind cfARecordId = some id := by
      obtain ⟨row, hop, hrow⟩ := bind_eq_some_iff.mp hstored
      obtain ⟨id', hid, hname⟩ := bind_eq_some_iff.mp hrow
      obtain ⟨fqdn', -, heq⟩ := map_eq_some_iff.mp hname
      cases heq
      simp [hop, hid]
    rw [hclaimed]
    apply Wp.exceptBind
    apply wp_orInternal
    apply wp_update.mono
    rintro _ _ _ ⟨rfl, rfl⟩
    exact wp_recordIp (.inr rfl)
  · rename_i hnone
    have hunclaimed : op.bind cfARecordId = none := by
      cases op with
      | none => rfl
      | some row =>
        cases hid : row.cfARecordId with
        | none => simp [hid]
        | some id =>
          obtain ⟨fqdn, hfqdn⟩ := isSome_iff_exists.mp (hnamed row rfl (by simp [hid]))
          simp [hid, hfqdn] at hnone
    rw [hunclaimed]
    exact wp_recordIp (.inl rfl)

end

/-! ## Whole runs -/

/-- Only reports and provisioner passes for the network run, and Tenants leaves it alone. -/
def ReportsAndPasses (networkId : String) (_ : world.Config) : world.Action → Prop
  | .spawn (.reportIp reported _) => reported = networkId
  | .spawn (.provisionerTick ..) | .step .. => True
  | .spawn _ | .env _ => False

instance (networkId : String) (cfg : world.Config) : DecidablePred (ReportsAndPasses networkId cfg)
  | .spawn (.reportIp reported _) => inferInstanceAs (Decidable (reported = networkId))
  | .spawn (.provisionerTick ..) | .step .. => isTrue trivial
  | .spawn (.reaperTick ..) | .spawn (.setAcmeChallenge ..) | .spawn (.clearAcmeChallenge _)
  | .env _ => isFalse id

/-- No report overlaps another report, or a publication from reading the address to the
claim: while a report is under way no other task touches the row or the record, and a
report does nothing while a publication is under way. -/
def ReportsAlone (cfg : world.Config) : world.Action → Prop
  | .step j _ => ∀ th ∈ cfg.threads[j]?, ∀ c ∈ th.pending, ∀ other ∈ cfg.threads.eraseIdx j,
      (touches c = true → reportUnderWay other.task other.pending = false) ∧
      (isReport th.task = true → publicationUnderWay other.task other.pending = false)
  | .spawn _ | .env _ => True

instance (cfg : world.Config) : DecidablePred (ReportsAlone cfg)
  | .step _ _ => inferInstanceAs (Decidable (∀ _, _))
  | .spawn _ | .env _ => isTrue trivial

/-- Reports that overlap nothing keep the record and the row in agreement. -/
theorem outline_sound (networkId : String) :
    (outline networkId).Sound (fun g _ => g = .idle) fun cfg a =>
      Succeeds cfg a ∧ ReportsAndPasses networkId cfg a ∧ ReportsAlone cfg a where
  spawn cfg task notes hguard hinv := by
    have hinsert : ∀ g : Note, g.Ok networkId cfg.state → (∀ ip, g ≠ .updated ip) →
        Tracked networkId cfg.state (insert g notes) := by
      intro g hok hne
      refine ⟨hinv.one, fun hnot => hinv.agrees fun ip hmem => hnot ip (.inr hmem), ?_⟩
      rintro g₀ (rfl | hg₀)
      · exact hok
      · exact hinv.ok g₀ hg₀
    cases task with
    | reportIp reported ip =>
      obtain rfl : reported = networkId := hguard.2.1
      refine ⟨.arrived, ?_, hinsert _ trivial nofun⟩
      apply Wp.bind
      apply wp_reportIp.mono
      rintro _ _ r rfl
      exact ⟨⟨False.elim, False.elim, False.elim⟩, rfl⟩
    | provisionerTick region parent pages =>
      refine ⟨.idle, ?_, hinsert _ trivial nofun⟩
      apply Wp.bind
      apply wp_drain.mono
      rintro _ _ _ rfl
      exact ⟨⟨False.elim, False.elim, False.elim⟩, rfl⟩
    | _ => exact hguard.2.1.elim
  env cfg m s' notes hguard := hguard.2.1.elim
  permits cfg j choice th c next g rest hguard hth hprog hsees hrest := by
    obtain ⟨hok, -, halone⟩ := hguard
    have hother : ∀ g₀ ∈ rest, ∃ other ∈ cfg.threads.eraseIdx j,
        (g₀.Reporting → reportUnderWay other.task other.pending = true) ∧
        (g₀.Publishing → publicationUnderWay other.task other.pending = true) := by
      intro g₀ hg₀
      obtain ⟨k, other, hk, ⟨hreporting, hpublishing, -⟩, hne⟩ := hrest g₀ hg₀
      exact ⟨other, List.mem_eraseIdx_iff_getElem?.mpr ⟨k, hne, hk⟩, hreporting, hpublishing⟩
    have hpending : c ∈ th.pending := by simp [World.Thread.pending, hprog]
    refine ⟨hok, fun htouches g₀ hg₀ hreporting => ?_, fun hreport g₀ hg₀ hpublishing => ?_⟩
    · obtain ⟨other, hmem, hunderWay, -⟩ := hother g₀ hg₀
      simpa [hunderWay hreporting] using (halone th hth c hpending other hmem).1 htouches
    · obtain ⟨other, hmem, -, hunderWay⟩ := hother g₀ hg₀
      simpa [hunderWay hpublishing] using
        (halone th hth c hpending other hmem).2 (hsees.2.2 hreport)

/-- In every run of reports and passes for one network in which no call fails and no report
overlaps another report or a publication: once every task has returned, the stored A record
exists and its content is the stored address. -/
theorem published_is_reported (networkId : String) (s : Cloud) (hone : OneNetwork s networkId)
    (hagrees : Agrees s networkId) (acts : List world.Action) (cfg : world.Config)
    (hrun : world.system.run (.start s) acts = some cfg)
    (hsucceeds : world.system.Along Succeeds (.start s) acts)
    (htasks : world.system.Along (ReportsAndPasses networkId) (.start s) acts)
    (halone : world.system.Along ReportsAlone (.start s) acts)
    (hdone : ∀ th ∈ cfg.threads, th.done) (id : RecordId)
    (hclaimed : cfg.state.operational.aRecordId networkId = some id) :
    ∃ rec, cfg.state.zone.records.get? id = some rec ∧
      storedIp cfg.state networkId = some rec.content := by
  have hstart : Tracked networkId s ∅ := ⟨hone, fun _ => hagrees, nofun⟩
  obtain ⟨note, hfollows, hinv⟩ := (outline_sound networkId).run (annotates_start hstart)
    (hsucceeds.and _ (htasks.and _ halone)) hrun
  have hagrees' : Agrees cfg.state networkId := by
    apply hinv.agrees
    rintro ip ⟨i, hi, hnote⟩
    have hth := List.getElem?_eq_getElem hi
    obtain ⟨value, hret⟩ := World.Thread.prog_eq_ret_of_done (hdone _ (List.getElem_mem hi))
    have hidle := (hfollows i _ hth).fin hret
    rw [hnote] at hidle
    cases hidle
  obtain ⟨ip, hip, rec, hrec, hcontent⟩ := hagrees' id hclaimed
  exact ⟨rec, hrec, by rw [hip, hcontent]⟩

/-! ## Reports in sequence, and a report that overlaps a publication -/

def sampleFirst : List world.Action :=
  .spawn (.reportIp "net-1" "192.0.2.1") :: calls 0 2 ++
    .spawn (.provisionerTick "eu" "wardnet.net" 1) :: calls 1 6

def sampleSecond : List world.Action := .spawn (.reportIp "net-1" "192.0.2.2") :: calls 2 3

theorem oneNetwork_sample : OneNetwork (.unpublished sampleDirectory) "net-1" where
  only := by
    intro m row hrow
    rcases Store.get?_of_insert hrow with ⟨heq, -⟩ | ⟨-, hrow⟩
    · exact heq
    · cases hrow
  named := nofun

/-- One report after the other: the record follows. -/
theorem published_is_reported_sample : ∃ cfg : world.Config,
      world.system.run (.start (.unpublished sampleDirectory)) (sampleFirst ++ sampleSecond) =
        some cfg ∧
      ∃ rec, cfg.state.zone.records.get? 0 = some rec ∧
        storedIp cfg.state "net-1" = some rec.content :=
  ⟨_, System.run_eq_some_runD _ (by decide),
    published_is_reported "net-1" _ oneNetwork_sample nofun _ _
      (System.run_eq_some_runD _ (by decide)) (by decide) (by decide) (by decide) (by decide) 0
      (by decide)⟩

/-- A report arrives while a pass is publishing: it finds no record to rewrite and stores
its address, and the pass then publishes and claims a record with the address before. -/
theorem report_during_publication_is_lost :
    ∃ (acts : List world.Action) (cfg : world.Config) (rec : DnsRecord),
      world.system.run (.start (.unpublished sampleDirectory)) acts = some cfg ∧
      world.system.Along Succeeds (.start (.unpublished sampleDirectory)) acts ∧
      world.system.Along (ReportsAndPasses "net-1") (.start (.unpublished sampleDirectory)) acts ∧
      (∀ th ∈ cfg.threads, th.done) ∧
      cfg.state.operational.aRecordId "net-1" = some 0 ∧
      cfg.state.zone.records.get? 0 = some rec ∧ rec.content = "192.0.2.1" ∧
      storedIp cfg.state "net-1" = some "192.0.2.2" :=
  ⟨.spawn (.reportIp "net-1" "192.0.2.1") :: calls 0 2 ++
      .spawn (.provisionerTick "eu" "wardnet.net" 1) :: calls 1 2 ++
      .spawn (.reportIp "net-1" "192.0.2.2") :: calls 2 2 ++ calls 1 4, _,
    ⟨.a, "home.wardnet.net", "192.0.2.1", "net-1"⟩, System.run_eq_some_runD _ (by decide),
    by decide, by decide, by decide, by decide, by decide, rfl, by decide⟩

end Wardnet.Ddns.Reported
