/-
# Replicas that publish one network

Any number of replicas run `provision` for one network and one name at the same time. The
A records of the name and the id stored in the operational row are an `Adoption`, and each
call of `provision` is one of its steps. So once every replica has returned there is one A
record of the name, its id is stored, and it was not deleted once stored.
-/

import Wardnet.Base.Adopt
import Wardnet.Base.Rely
import Wardnet.Ddns.World

namespace Wardnet.Ddns.Publish

open Base Adoption Rely OperationalTable Triple

/-- Replicas of a region that publish the network, each with the address it has read. -/
@[reducible]
def replicas (networkId fqdn : String) : World where
  State := Cloud
  Call := Call
  Resp := Call.Resp
  Choice := Choice
  exec := Cloud.exec
  Task := String
  Result := Except DdnsError Unit
  body ip := (provision networkId fqdn ip).run
  Env := Empty
  env e _ := e.elim

/-- The A records of the name, and the one that is stored for the network. -/
def adoption (networkId fqdn : String) (s : Cloud) : Adoption RecordId where
  records := {id | id ∈ s.zone.aRecords fqdn}
  filed := s.operational.aRecordId networkId

theorem adoption_create (networkId fqdn ip : String) (s : Cloud) :
    adoption networkId fqdn { s with zone := (s.zone.create ⟨.a, fqdn, ip, networkId⟩).2 } =
      { adoption networkId fqdn s with
        records := insert s.zone.nextId (adoption networkId fqdn s).records } := by
  simp only [adoption, Zone.mem_aRecords_create]
  rfl

theorem adoption_update {networkId fqdn ip : String} {s : Cloud} {id : RecordId}
    (hexists : s.zone.records.contains id) :
    adoption networkId fqdn { s with zone := s.zone.update id .a fqdn ip } =
      { adoption networkId fqdn s with
        records := insert id (adoption networkId fqdn s).records } := by
  simp only [adoption, Zone.mem_aRecords_update hexists]
  rfl

theorem adoption_delete (networkId fqdn : String) (s : Cloud) (id : RecordId) :
    adoption networkId fqdn { s with zone := s.zone.delete id } =
      { adoption networkId fqdn s with records := (adoption networkId fqdn s).records \ {id} } := by
  simp only [adoption, Zone.mem_aRecords_delete]
  rfl

/-- The row is there, and the records of the name are settled. -/
structure Publishing (networkId fqdn : String) (s : Cloud) (phases : Set (Phase RecordId)) :
    Prop where
  row : (s.operational.get? networkId).isSome
  settled : (adoption networkId fqdn s).Settled phases

/-- What the replicas rely on: no call fails. A replica deletes a record only after it has
read that another one is stored. -/
@[reducible]
def publish (networkId fqdn : String) : Rely (replicas networkId fqdn) where
  Ghost := Phase RecordId
  Inv := Publishing networkId fqdn
  Permits _ _ choice := choice.fails = false
  Shows g c := ∀ id, c = .deleteRecord id → g = .dropping id
  Rel _ _ := True
  exec_rel _ _ := trivial
  idle := .idle
  inv_idle h := ⟨h.row, h.settled.start⟩
  env_rel _ _ := trivial
  env_inv := by
    intro e
    exact e.elim

variable {networkId fqdn : String}

abbrev At (networkId fqdn : String) (g : Phase RecordId) : (publish networkId fqdn).Note → Prop :=
  (publish networkId fqdn).Has g fun _ => True

theorem triple_call (c : Call) (g : Phase RecordId) (g' : c.Resp → Phase RecordId)
    (hshows : ∀ id, c = .deleteRecord id → g = .dropping id)
    (hcall : ∀ s rest pick r s', Publishing networkId fqdn s (insert g rest) →
      Cloud.perform pick c s = some (r, s') → Publishing networkId fqdn s' (insert (g' r) rest)) :
    (publish networkId fqdn).Triple (At networkId fqdn g) (issue c)
      fun r => At networkId fqdn (g' r) := by
  apply call (y := g') (F := fun _ _ => True) hshows (fun _ _ _ _ h => h)
  intro s rest choice r s' hinv _ hpermits hexec
  refine ⟨hcall s rest choice.pick r s' hinv ?_, trivial, fun g hg => hg.mono fun _ _ => trivial⟩
  simpa [Cloud.exec, show choice.fails = false from hpermits] using hexec

theorem triple_findARecord :
    (publish networkId fqdn).Triple (At networkId fqdn .idle) (issue (.findARecord fqdn))
      (Rely.orElse (fun existing => At networkId fqdn (.found existing))
        (At networkId fqdn .finished)) := by
  refine (triple_call (.findARecord fqdn) .idle
    (fun | .ok existing => .found existing | .error _ => .finished) (by simp) ?_).conseq
    (fun _ h => h) fun r g hg => by cases r <;> exact hg
  intro s rest pick r s' h hperform
  obtain ⟨rfl, ⟨hnone, rfl⟩ | ⟨hpick, rfl⟩⟩ := Cloud.perform_findARecord hperform
  · refine ⟨h.row, h.settled.find_none ?_⟩
    simp [adoption, hnone]
  · exact ⟨h.row, h.settled.find_some hpick⟩

theorem triple_upsertRecord (ip : String) (existing : Option RecordId) :
    (publish networkId fqdn).Triple (At networkId fqdn (.found existing))
      (issue (.upsertRecord networkId .a fqdn ip existing))
      (Rely.orElse (fun id => At networkId fqdn (.held id)) (At networkId fqdn .finished)) := by
  refine (triple_call (.upsertRecord networkId .a fqdn ip existing) (.found existing)
    (fun | .ok id => .held id | .error _ => .finished) (by simp) ?_).conseq
    (fun _ h => h) fun r g hg => by cases r <;> exact hg
  intro s rest pick r s' h hperform
  cases existing with
  | none =>
    cases hperform
    exact ⟨h.row, by rw [adoption_create]; exact h.settled.create s.zone.nextId⟩
  | some id =>
    obtain ⟨hexists, rfl, rfl⟩ | ⟨hmissing, rfl, rfl⟩ := Cloud.perform_update hperform
    · exact ⟨h.row, by rw [adoption_update hexists]; exact h.settled.adopt⟩
    · refine ⟨h.row, h.settled.missing fun hid => hmissing ?_⟩
      obtain ⟨rec, hrec, -⟩ := Zone.mem_aRecords_iff.mp hid
      exact Store.contains_eq_true_iff.mpr ⟨rec, hrec⟩

theorem triple_claimARecord (id : RecordId) :
    (publish networkId fqdn).Triple (At networkId fqdn (.held id))
      (issue (.claimARecord networkId fqdn id))
      (Rely.orElse (fun won => At networkId fqdn (if won then .finished else .lost id))
        (At networkId fqdn .finished)) := by
  refine (triple_call (.claimARecord networkId fqdn id) (.held id)
    (fun | .ok won => if won then .finished else .lost id | .error _ => .finished) (by simp)
    ?_).conseq (fun _ h => h) fun r g hg => by cases r <;> exact hg
  intro s rest pick r s' h hperform
  cases hperform
  obtain ⟨op, hop⟩ := Option.isSome_iff_exists.mp h.row
  cases hid : op.cfARecordId with
  | none =>
    have hrow : (s.operational.claimARecord networkId fqdn id).2.get? networkId =
        some { op with fqdn := some fqdn, cfARecordId := some id } :=
      get?_claimARecord_of_unclaimed hop hid
    rw [claimARecord_won_iff.mpr ⟨op, hop, hid⟩]
    have hfiled : adoption networkId fqdn
        { s with operational := (s.operational.claimARecord networkId fqdn id).2 } =
        { adoption networkId fqdn s with filed := some id } := by
      simp [adoption, aRecordId, hrow]
    refine ⟨by simp [hrow], ?_⟩
    rw [hfiled]
    exact h.settled.claim_won (by simp [adoption, aRecordId, hop, hid])
  | some winner =>
    have hclaimed : s.operational.aRecordId networkId = some winner := by
      simp [aRecordId, hop, hid]
    rw [claimARecord_of_claimed hclaimed]
    exact ⟨h.row, h.settled.claim_lost (by simp [adoption, hclaimed])⟩

theorem triple_findWinner (id : RecordId) :
    (publish networkId fqdn).Triple (At networkId fqdn (.lost id)) (issue (.findById networkId))
      (Rely.orElse (fun op => At networkId fqdn
        (if op.bind Operational.cfARecordId = some id then .finished else .dropping id))
        (At networkId fqdn .finished)) := by
  refine (triple_call (.findById networkId) (.lost id) (fun
      | .ok op => if op.bind Operational.cfARecordId = some id then .finished else .dropping id
      | .error _ => .finished) (by simp) ?_).conseq
    (fun _ h => h) fun r g hg => by cases r <;> exact hg
  intro s rest pick r s' h hperform
  cases hperform
  refine ⟨h.row, ?_⟩
  by_cases hwinner : (s.operational.get? networkId).bind Operational.cfARecordId = some id
  · simp only [if_pos hwinner]
    exact h.settled.keep hwinner
  · simp only [if_neg hwinner]
    exact h.settled.discard hwinner

theorem triple_deleteRecord (id : RecordId) :
    (publish networkId fqdn).Triple (At networkId fqdn (.dropping id)) (issue (.deleteRecord id))
      fun _ => At networkId fqdn .finished := by
  apply triple_call (.deleteRecord id) (.dropping id) (fun _ => .finished) (by simp)
  intro s rest pick r s' h hperform
  cases hperform
  exact ⟨h.row, by rw [adoption_delete]; exact h.settled.drop⟩

/-- Whatever it answers, a replica returns with nothing left to do. -/
theorem triple_provision (ip : String) :
    (publish networkId fqdn).Triple (At networkId fqdn .idle) (provision networkId fqdn ip).run
      (Rely.orElse (fun _ => At networkId fqdn .finished) (At networkId fqdn .finished)) := by
  unfold provision
  apply exceptBind (triple_findARecord.mapError _)
  intro existing
  apply exceptBind ((triple_upsertRecord ip existing).mapError _)
  intro id
  apply exceptBind ((triple_claimARecord id).mapError _)
  intro won
  cases won with
  | true => exact ret fun g hg => hg
  | false =>
    apply exceptBind ((triple_findWinner id).mapError _)
    intro op
    by_cases hwinner : op.bind Operational.cfARecordId = some id
    · simp only [if_pos hwinner]
      exact ret fun g hg => hg
    · simp only [if_neg hwinner]
      apply exceptBind (lift (triple_deleteRecord id))
      intro _
      exact ret fun g hg => hg

theorem triple_body : (publish networkId fqdn).Bodies fun g _ => g.ghost = .finished :=
  fun ip _ => (triple_provision ip).conseq (fun _ h => h) fun r g hg => by cases r <;> exact hg.1

/-! ## Whole runs -/

/-- No call fails, apart from the update of a record that is not there. -/
def Succeeds {networkId fqdn : String} (_ : (replicas networkId fqdn).Config) :
    (replicas networkId fqdn).Action → Prop
  | .step _ choice => choice.fails = false
  | .spawn _ | .env _ => True

instance (cfg : (replicas networkId fqdn).Config) : DecidablePred (Succeeds cfg)
  | .step _ choice => inferInstanceAs (Decidable (choice.fails = false))
  | .spawn _ | .env _ => isTrue trivial

theorem guard_of_succeeds (cfg : (replicas networkId fqdn).Config)
    (a : (replicas networkId fqdn).Action) (h : Succeeds cfg a) :
    (publish networkId fqdn).guard cfg a := by
  cases a with
  | step i choice => exact fun _ _ _ _ => h
  | spawn | env => trivial

theorem publishing_start {s : Cloud} {op : Operational}
    (hrow : s.operational.get? networkId = some op) (hunclaimed : op.cfARecordId = none)
    (hrecords : (s.zone.aRecords fqdn).length ≤ 1) : Publishing networkId fqdn s ∅ where
  row := by simp [hrow]
  settled := by
    apply settled_of_subsingleton
    · simp [adoption, aRecordId, hrow, hunclaimed]
    · intro id hid other hother
      obtain ⟨i, hi, rfl⟩ := List.mem_iff_getElem.mp hid
      obtain ⟨j, hj, rfl⟩ := List.mem_iff_getElem.mp hother
      congr
      omega

/-- However many replicas publish a network that is not published yet, and however their
calls interleave: when all of them have returned, the name has one A record, and its id is
the stored one; no replica ever deletes the record that is stored. -/
theorem replicas_publish_once (networkId fqdn : String) (s : Cloud) (op : Operational)
    (hrow : s.operational.get? networkId = some op) (hunclaimed : op.cfARecordId = none)
    (hrecords : (s.zone.aRecords fqdn).length ≤ 1)
    (acts : List (replicas networkId fqdn).Action) (cfg : (replicas networkId fqdn).Config)
    (hrun : (replicas networkId fqdn).system.run (.start s) acts = some cfg)
    (hsucceeds : (replicas networkId fqdn).system.Along Succeeds (.start s) acts)
    (hstarted : cfg.threads ≠ []) (hdone : ∀ th ∈ cfg.threads, th.done) :
    (∃ id, cfg.state.zone.aRecords fqdn = [id] ∧
      cfg.state.operational.aRecordId networkId = some id) ∧
    ∀ before after cfg₁ cfg₂ i th id r, acts = before ++ after →
      (replicas networkId fqdn).system.run (.start s) before = some cfg₁ →
      cfg₁.Performs i th ⟨.deleteRecord id, r⟩ cfg₂ →
      cfg₁.state.operational.aRecordId networkId ≠ some id := by
  have hstart := publishing_start hrow hunclaimed hrecords
  have halong := hsucceeds.mono _ guard_of_succeeds
  constructor
  · obtain ⟨phases, hinv, hfinished, hnonempty⟩ := inv_of_all_done triple_body hstart
      halong hrun hdone
    have hall : ∀ g ∈ phases, g = .finished := by
      intro g hg
      obtain ⟨note, _, rfl, hnote⟩ := hfinished g hg
      exact hnote
    obtain ⟨id, hfiled, hone⟩ := hinv.settled.records_eq (hnonempty hstarted) hall
    refine ⟨id, ?_, hfiled⟩
    have hmem : ∀ k, k ∈ cfg.state.zone.aRecords fqdn ↔ k = id := fun k =>
      Set.ext_iff.mp hone k
    exact List.perm_singleton.mp ((List.perm_ext_iff_of_nodup (Zone.nodup_aRecords _ _)
      (List.nodup_singleton id)).mpr (by simpa using hmem))
  · rintro before after cfg₁ cfg₂ i th id r rfl hbefore hdelete
    obtain ⟨phases, hinv, hshows⟩ := inv_of_run triple_body hstart
      ((replicas networkId fqdn).system.along_append_left halong) hbefore
    obtain ⟨choice, next, hth, hprog, -, -⟩ := hdelete
    obtain ⟨g, hg, hdropping⟩ := hshows th (List.mem_of_getElem? hth) (.deleteRecord id)
      (by simp [World.Thread.pending, hprog])
    rw [hdropping id rfl] at hg
    exact (hinv.settled.ok _ hg).2

def sampleReported : Cloud where
  directory := .empty
  operational := (∅ : OperationalTable).insert "net-1" ⟨some "192.0.2.1", none, none, []⟩
  zone := .empty

/-- Two replicas look for a record before either has created one. The second one claims
its record first. -/
def sampleRace : List (replicas "net-1" "home.wardnet.net").Action :=
  .spawn "192.0.2.1" :: .spawn "192.0.2.1" ::
    [0, 1, 0, 1, 1, 0, 0, 0].map fun i => .step i ⟨false, 0⟩

/-- The first replica has deleted its duplicate. -/
theorem replicas_publish_once_sample : ∃ cfg : (replicas "net-1" "home.wardnet.net").Config,
      (replicas "net-1" "home.wardnet.net").system.run (.start sampleReported) sampleRace =
        some cfg ∧
      ∃ id, cfg.state.zone.aRecords "home.wardnet.net" = [id] ∧
        cfg.state.operational.aRecordId "net-1" = some id :=
  ⟨_, System.run_eq_some_runD _ (by decide),
    (replicas_publish_once "net-1" "home.wardnet.net" sampleReported
      ⟨some "192.0.2.1", none, none, []⟩ (by decide) rfl (by decide) sampleRace _
      (System.run_eq_some_runD _ (by decide)) (by decide) (by decide) (by decide)).1⟩

end Wardnet.Ddns.Publish
