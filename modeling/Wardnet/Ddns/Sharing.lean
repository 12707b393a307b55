/-
# No record in two rows

The reconciler passes, reports and challenge updates under the ownership of `Ownership`. A
provisioner finds or creates a record under the name of its network and holds it until the
claim, a report holds the record that it has read from the row, and teardown lets Tenants
delete a network only when it has no row.
-/

import Wardnet.Ddns.Ownership

namespace Wardnet.Ddns.Ownership

open Base Tenants Rely Prog Option All

variable {parent : String} {P : Cloud → Prop} {x : Option Hold} {networkId fqdn : String}

/-! ## Calls -/

theorem triple_call (c : Call) (y : c.Resp → Option Hold) (F : c.Resp → Cloud → Prop)
    (hshows : Shows x c) (hstable : ∀ r s s', Drifts s s' → F r s → F r s')
    {Q : c.Resp → (ownership parent).Note → Prop}
    (hcall : ∀ naming s others pick r s', Owned parent naming s (insert x others) → P s →
      Timed s c → Cloud.perform pick c s = some (r, s') →
      (∃ naming', Owned parent naming' s' (insert (y r) others)) ∧ F r s' ∧
        ∀ g, (ownership parent).Has (y r) (fun s => P s ∧ F r s) g → Q r g) :
    (ownership parent).Triple ((ownership parent).Has x P) (issue c) Q := by
  apply Triple.call (y := y) (F := F) hshows hstable
  rintro s others choice r s' ⟨naming, hinv⟩ hP hpermits hexec
  exact hcall naming s others choice.pick r s' hinv hP hpermits.2
    (Cloud.perform_of_exec hpermits.1 hexec)

theorem shows_of_harmless {c : Call} (hharmless : harmless c = true) (x : Option Hold) :
    Shows x c := by
  unfold Shows
  split
  · cases hharmless
  · trivial

/-- A harmless call keeps what the task holds and knows, and teaches it any stable fact that
the answer shows. -/
theorem triple_learn (c : Call) (hharmless : harmless c = true) (F : c.Resp → Cloud → Prop)
    (hstable : ∀ r s s', Drifts s s' → F r s → F r s')
    (hlearn : ∀ pick s r s', P s → Cloud.perform pick c s = some (r, s') → F r s') :
    (ownership parent).Triple ((ownership parent).Has x P) (issue c) fun r =>
      (ownership parent).Has x fun s => P s ∧ F r s := by
  apply triple_call c (fun _ => x) F (shows_of_harmless hharmless x) hstable
  intro naming s others pick r s' hinv hP htimed hperform
  exact ⟨hinv.harmless hharmless htimed hperform, hlearn pick s r s' hP hperform, fun g hg => hg⟩

/-- A procedure of harmless calls keeps what the task holds and knows. -/
theorem triple_harmless {α : Type} {p : Proc α} (hall : p.All fun c => harmless c = true) :
    (ownership parent).Keeps x P p := by
  apply Triple.of_all (fun c hc => ⟨shows_of_harmless hc x, ?_⟩) hall
  rintro s others choice r s' ⟨naming, hinv⟩ hpermits hexec
  exact hinv.harmless hc hpermits.2 (Cloud.perform_of_exec hpermits.1 hexec)

/-- A record found under the name of the network is held for it. -/
theorem triple_findARecord {slug : String} (hfqdn : fqdn = fqdnOf slug parent)
    (hslug : ∀ s, P s → s.directory.Slugged networkId slug) :
    (ownership parent).Triple ((ownership parent).Has none P) (issue (.findARecord fqdn))
      (Rely.orElse (fun existing => (ownership parent).Has
        (existing.map fun id => ⟨networkId, fqdn, id⟩) P) ((ownership parent).Has none P)) := by
  apply triple_call (.findARecord fqdn)
    (fun r => r.toOption.join.map fun id => ⟨networkId, fqdn, id⟩) (fun _ _ => True) trivial
    (fun _ _ _ _ h => h)
  intro naming s others pick r s' hinv hP _ hperform
  have hothers := hinv.mono (Set.subset_insert _ _)
  obtain ⟨rfl, ⟨-, rfl⟩ | ⟨hpick, rfl⟩⟩ := Cloud.perform_findARecord hperform
  · exact ⟨⟨naming, hothers.release⟩, trivial, fun g hg => hg.mono fun _ h => h.1⟩
  · obtain ⟨rec, hrec, -, hname⟩ := Zone.mem_aRecords_iff.mp hpick
    refine ⟨⟨naming, hothers.hold ?_⟩, trivial, fun g hg => hg.mono fun _ h => h.1⟩
    rintro _ ⟨⟩
    exact ⟨s'.zone.id_lt _ _ hrec, (hothers.records _ _ hrec).symm.trans hname, slug, hfqdn,
      hslug s' hP⟩

/-- A record that is rewritten stays held; one that is missing is given up. -/
theorem triple_updateRecord (ip : String) (id : RecordId) :
    (ownership parent).Triple ((ownership parent).Has (some ⟨networkId, fqdn, id⟩) P)
      (issue (.upsertRecord networkId .a fqdn ip (some id)))
      (Rely.orElse (fun id => (ownership parent).Has (some ⟨networkId, fqdn, id⟩) P)
        ((ownership parent).Has none P)) := by
  apply triple_call (.upsertRecord networkId .a fqdn ip (some id))
    (fun r => r.toOption.map fun id => ⟨networkId, fqdn, id⟩) (fun _ _ => True) rfl
    (fun _ _ _ _ h => h)
  intro naming s others pick r s' hinv _ _ hperform
  have hname := (hinv.held _ (Set.mem_insert _ _)).2.1
  obtain ⟨-, rfl, rfl⟩ | ⟨-, rfl, rfl⟩ := Cloud.perform_update hperform
  · exact ⟨⟨naming, hinv.update hname⟩, trivial, fun g hg => hg.mono fun _ h => h.1⟩
  · exact ⟨⟨naming, (hinv.mono (Set.subset_insert _ _)).release⟩, trivial,
      fun g hg => hg.mono fun _ h => h.1⟩

theorem triple_upsertRecord {slug : String} (hfqdn : fqdn = fqdnOf slug parent)
    (hslug : ∀ s, P s → s.directory.Slugged networkId slug) (ip : String)
    (existing : Option RecordId) :
    (ownership parent).Triple
      ((ownership parent).Has (existing.map fun id => ⟨networkId, fqdn, id⟩) P)
      (issue (.upsertRecord networkId .a fqdn ip existing))
      (Rely.orElse (fun id => (ownership parent).Has (some ⟨networkId, fqdn, id⟩) P)
        ((ownership parent).Has none P)) := by
  cases existing with
  | some id => exact triple_updateRecord ip id
  | none =>
    apply triple_call (.upsertRecord networkId .a fqdn ip none)
      (fun r => r.toOption.map fun id => ⟨networkId, fqdn, id⟩) (fun _ _ => True) trivial
      (fun _ _ _ _ h => h)
    intro naming s others pick r s' hinv hP _ hperform
    cases hperform
    have hothers := (hinv.mono (Set.subset_insert _ _)).create ⟨.a, fqdn, ip, networkId⟩
    refine ⟨⟨_, hothers.hold ?_⟩, trivial, fun g hg => hg.mono fun _ h => h.1⟩
    rintro _ ⟨⟩
    exact ⟨Nat.lt_succ_self _, Function.update_self .., slug, hfqdn, hslug s hP⟩

theorem triple_claimARecord (id : RecordId) :
    (ownership parent).Triple ((ownership parent).Has (some ⟨networkId, fqdn, id⟩) P)
      (issue (.claimARecord networkId fqdn id)) fun _ => (ownership parent).Has none P := by
  apply triple_call (.claimARecord networkId fqdn id) (fun _ => none) (fun _ _ => True) trivial
    (fun _ _ _ _ h => h)
  intro naming s others pick r s' hinv _ _ hperform
  cases hperform
  exact ⟨⟨naming, ((hinv.mono (Set.subset_insert _ _)).claim
    (hinv.held _ (Set.mem_insert _ _))).release⟩, trivial, fun g hg => hg.mono fun _ h => h.1⟩

/-- A report holds the record that it finds in the row. -/
theorem triple_findForReport :
    (ownership parent).Triple ((ownership parent).Has none P) (issue (.findById networkId))
      (Rely.orElse (fun op => (ownership parent).Has
          ((reportRecord op).map fun found => ⟨networkId, found.2, found.1⟩) P)
        ((ownership parent).Has none P)) := by
  apply triple_call (.findById networkId)
    (fun r => (reportRecord r.toOption.join).map fun found => ⟨networkId, found.2, found.1⟩)
    (fun _ _ => True) trivial (fun _ _ _ _ h => h)
  intro naming s others pick r s' hinv _ _ hperform
  cases hperform
  have hothers := hinv.mono (Set.subset_insert _ _)
  refine ⟨⟨naming, hothers.hold ?_⟩, trivial, fun g hg => hg.mono fun _ h => h.1⟩
  intro hold hhold
  simp only [mem_def, map_eq_some_iff, bind_eq_some_iff] at hhold
  obtain ⟨_, ⟨op, hop, id, hid, fqdn, hfqdn, rfl⟩, rfl⟩ := hhold
  obtain ⟨row, hrow, hfits⟩ := hothers.rows networkId op hop
  obtain ⟨hlt, hname, hslug⟩ := hfits id hid
  obtain rfl := some.inj (hfqdn.symm.trans hname)
  exact ⟨hlt, rfl, row.slug, hslug, .inr ⟨row, hrow, rfl⟩⟩

/-- The network is being torn down and has no row. -/
def Cleared (networkId : String) (s : Cloud) : Prop :=
  s.directory.TornDown networkId ∧ s.operational.get? networkId = none

theorem Cleared.drifts {s s' : Cloud} (h : Cleared networkId s) (hdrifts : Drifts s s') :
    Cleared networkId s' :=
  ⟨h.1.moves hdrifts.moves, hdrifts.cleared networkId h.1 h.2⟩

theorem triple_finishDeprovision (hcleared : ∀ s, P s → Cleared networkId s) :
    (ownership parent).Keeps x P (issue (.finishDeprovision networkId)) := by
  apply triple_call (.finishDeprovision networkId) (fun _ => x) (fun _ _ => True) trivial
    (fun _ _ _ _ h => h)
  intro naming s others pick r s' hinv hP _ hperform
  cases hperform
  refine ⟨⟨naming, hinv.directory
    (Directory.apply_moves (m := .finishDeprovision networkId) rfl) ?_⟩, trivial,
    fun g hg => hg.mono fun _ h => h.1⟩
  intro n op hop hretired
  rcases Directory.mem_retired_finishDeprovision hretired with rfl | hold
  · rw [(hcleared s hP).2] at hop
    cases hop
  · exact hinv.not_retired n op hop hold

/-! ## The service -/

theorem triple_provision {slug : String} (hfqdn : fqdn = fqdnOf slug parent)
    (hslug : ∀ s, P s → s.directory.Slugged networkId slug) (ip : String) :
    (ownership parent).Keeps none P (provision networkId fqdn ip).run := by
  apply Triple.orElse_const.mp
  apply Triple.exceptBind (triple_orInternal (triple_findARecord hfqdn hslug))
  intro existing
  apply Triple.exceptBind (triple_orInternal (triple_upsertRecord hfqdn hslug ip existing))
  intro id
  apply Triple.exceptBind (triple_orInternal (Triple.orElse_const.mpr (triple_claimARecord id)))
  intro won
  rw [Triple.orElse_const]
  apply triple_harmless
  cases won with
  | true => trivial
  | false =>
    apply exceptBind
    · exact all_orInternal (all_issue rfl)
    · intro op
      simp only
      split
      · trivial
      · exact ⟨rfl, fun _ => trivial⟩

theorem triple_reportIp (ip : String) :
    (ownership parent).Triple ((ownership parent).Has none P) (reportIp networkId ip).run
      fun _ _ => True := by
  have hstore : ∀ x P, (ownership parent).Triple ((ownership parent).Has x P)
      (orInternal (issue (.recordIp networkId ip))).run fun _ _ => True := fun x P =>
    (triple_harmless (all_orInternal (all_issue (c := .recordIp networkId ip) rfl))).conseq
      (fun _ h => h) fun _ _ _ => trivial
  rw [← Triple.orElse_const]
  apply Triple.exceptBind ((triple_orInternal triple_findForReport).conseq (fun _ h => h)
    (orElse_mono (fun _ _ h => h) fun _ _ => trivial))
  intro op
  split
  · rename_i id fqdn hfound
    simp only [reportRecord, hfound, map_some]
    apply Triple.exceptBind ((triple_orInternal (triple_updateRecord ip id)).conseq
      (fun _ h => h) (orElse_mono (fun _ _ h => h) fun _ _ => trivial))
    intro id'
    exact Triple.orElse_const.mpr (hstore _ P)
  · exact Triple.orElse_const.mpr (hstore _ P)

theorem all_deleteRecordsOrErr (ids : List RecordId) :
    (deleteRecordsOrErr ids).run.All fun c => harmless c = true := by
  induction ids with
  | nil => trivial
  | cons id ids ih =>
    exact exceptBind (all_orInternal (all_issue rfl)) fun _ => ih

/-- After teardown the network has no row, and gets none as long as reports are well timed. -/
theorem triple_deleteRecords (htorn : ∀ s, P s → s.directory.TornDown networkId) :
    (ownership parent).Triple ((ownership parent).Has x P) (deleteRecords networkId).run
      (Rely.orElse (fun _ => (ownership parent).Has x fun s => P s ∧ Cleared networkId s)
        ((ownership parent).Has x P)) := by
  apply Triple.exceptBind (Q := fun op => (ownership parent).Has x fun s =>
    P s ∧ (op = none → Cleared networkId s))
  · apply triple_orInternal
    refine (triple_learn (.findById networkId) rfl (fun r s => r = .ok none → Cleared networkId s)
      (fun r s s' hdrifts h hr => (h hr).drifts hdrifts) ?_).conseq (fun _ h => h) ?_
    · intro pick s r s' hP hperform hr
      cases hperform
      exact ⟨htorn s hP, Except.ok.inj hr⟩
    · intro r g hg
      cases r with
      | ok op => exact hg.mono fun s h => ⟨h.1, fun hnone => h.2 (by rw [hnone])⟩
      | error => exact hg.mono fun s h => h.1
  intro op
  cases op with
  | none => exact Triple.ret fun g hg => hg.mono fun s h => ⟨h.1, h.2 rfl⟩
  | some op =>
    refine Triple.conseq ?_ (fun g (hg : (ownership parent).Has x _ g) =>
      hg.mono fun s h => h.1) fun _ _ h => h
    apply Triple.exceptBind
      (Triple.orElse_const.mpr (triple_harmless (all_deleteRecordsOrErr op.recordIds)))
    intro _
    refine (triple_learn (.deleteOperational networkId) rfl (fun _ => Cleared networkId)
      (fun r s s' hdrifts h => h.drifts hdrifts) ?_).conseq (fun _ h => h) ?_
    · intro pick s r s' hP hperform
      cases hperform
      exact ⟨htorn s hP, by simp⟩
    · intro r g hg
      cases r with
      | ok => exact hg
      | error => exact hg.mono fun s h => h.1

/-! ## Challenge updates -/

theorem all_orApiError {α : Type} {p : Service α} (hp : p.run.All fun c => harmless c = true) :
    (orApiError p).run.All fun c => harmless c = true :=
  bind hp fun _ => trivial

theorem all_networkFqdn (networkId : String) :
    (networkFqdn networkId).run.All fun c => harmless c = true :=
  exceptBind (all_orInternal (all_issue rfl)) fun _ => trivial

theorem all_currentAcmeIds (networkId : String) :
    (currentAcmeIds networkId).run.All fun c => harmless c = true :=
  exceptBind (all_orInternal (all_issue rfl)) fun _ => trivial

theorem all_casOrConflict (networkId : String) (prior newIds : List RecordId) :
    (casOrConflict networkId prior newIds).run.All fun c => harmless c = true := by
  apply exceptBind
  · exact all_orInternal (all_issue rfl)
  · intro stored
    cases stored with
    | true | false => trivial

theorem all_cleanupCreated (ids : List RecordId) :
    (cleanupCreated ids).All fun c => harmless c = true := by
  induction ids with
  | nil => trivial
  | cons id ids ih => exact ⟨rfl, fun _ => ih⟩

theorem all_createTxtRecords (networkId fqdn : String) (prior : List RecordId)
    (values : List String) (newIds : List RecordId) :
    (createTxtRecords networkId fqdn prior values newIds).run.All fun c => harmless c = true := by
  induction values generalizing newIds with
  | nil => trivial
  | cons value values ih =>
    refine ⟨rfl, fun r => ?_⟩
    cases r with
    | ok id => exact ih _
    | error =>
      apply exceptBind
      · exact bind (all_cleanupCreated newIds) fun _ => trivial
      · exact fun _ => ⟨rfl, fun _ => trivial⟩

theorem all_putAcmeChallenge (networkId : String) (values : List String) :
    (putAcmeChallenge networkId values).run.All fun c => harmless c = true := by
  apply exceptBind (all_orApiError (all_networkFqdn networkId))
  intro fqdn
  cases fqdn with
  | none => trivial
  | some fqdn =>
    apply all_orApiError
    apply exceptBind (all_currentAcmeIds networkId)
    intro prior
    apply exceptBind (all_deleteRecordsOrErr prior)
    intro _
    apply exceptBind (all_createTxtRecords networkId _ prior values [])
    intro newIds
    exact all_casOrConflict networkId prior newIds

theorem all_clearAcmeChallenge (networkId : String) :
    (orApiError (clearAcmeChallenge networkId)).run.All fun c => harmless c = true := by
  apply all_orApiError
  apply exceptBind (all_currentAcmeIds networkId)
  intro prior
  split
  · trivial
  · exact exceptBind (all_deleteRecordsOrErr prior)
      fun _ => all_casOrConflict networkId prior []

/-! ## The passes -/

theorem triple_listNetworks {state : ProvisioningState} {region : String}
    {K : NetworkView → Cloud → Prop} (hstable : ∀ net s s', Drifts s s' → K net s → K net s')
    (hlist : ∀ (s : Cloud) net row, s.directory.networks.get? net.id = some row →
      row.provisioningState = state → row.slug = net.slug → K net s) (afterId : Option String) :
    (ownership parent).Triple ((ownership parent).Has x P)
      (issue (.listNetworks state region afterId pageLimit)) fun r =>
        (ownership parent).Has x fun s => P s ∧ ∀ page, r = .ok page → ∀ net ∈ page, K net s := by
  apply triple_learn (.listNetworks state region afterId pageLimit) rfl
  · exact fun r s s' h hr page heq net hnet => hstable net s s' h (hr page heq net hnet)
  · intro pick s r s' _ hperform page heq net hnet
    cases hperform
    cases heq
    obtain ⟨row, hrow, hstate, hslug⟩ := NetworkTable.row_of_mem_listForReconcile hnet
    exact hlist s net row hrow hstate hslug

theorem triple_reapNetwork (net : NetworkView) (htorn : ∀ s, P s → s.directory.TornDown net.id) :
    (ownership parent).Keeps x P (reapNetwork net) := by
  apply Triple.bind (triple_deleteRecords htorn)
  intro r
  cases r with
  | error => exact Triple.ret fun g hg => hg
  | ok =>
    apply Triple.bind (triple_transition_deprovisioned
      (triple_finishDeprovision fun s h => h.2) (triple_harmless ⟨rfl, fun _ => trivial⟩))
    intro _
    exact Triple.ret fun g hg => hg.mono fun s h => h.1

theorem triple_body : (ownership parent).Bodies fun _ _ => True := by
  intro task hspawns
  cases task with
  | provisionerTick region subdomainParent pages =>
    cases hspawns
    apply Triple.bind (triple_drain (K := fun net s => s.directory.Slugged net.id net.slug)
      ?_ (triple_listNetworks (fun _ _ _ hdrifts h => h.moves hdrifts.moves) ?_) pages none)
    · exact fun _ => Triple.ret fun _ _ => trivial
    · intro net P hslug
      exact triple_provisionNetwork
        (Triple.orElse_const.mpr (triple_harmless ⟨rfl, fun _ => trivial⟩)) (fun _ _ h => h)
        (fun _ ip _ => Triple.orElse_const.mpr (triple_provision rfl hslug ip))
        (triple_transition_active (triple_harmless ⟨rfl, fun _ => trivial⟩)
          (triple_harmless ⟨rfl, fun _ => trivial⟩))
    · exact fun s net row hrow _ hslug => .inr ⟨row, hrow, hslug⟩
  | reaperTick region pages =>
    apply Triple.bind (triple_drain (K := fun net s => s.directory.TornDown net.id)
      (fun net P hP => triple_reapNetwork net hP)
      (triple_listNetworks (fun _ _ _ hdrifts h => h.moves hdrifts.moves) ?_) pages none)
    · exact fun _ => Triple.ret fun _ _ => trivial
    · exact fun s net row hrow hstate _ => .inr ⟨row, hrow, hstate⟩
  | reportIp networkId ip =>
    exact Triple.bind (triple_reportIp ip) fun _ => Triple.ret fun _ _ => trivial
  | setAcmeChallenge networkId values =>
    exact (triple_harmless (all_putAcmeChallenge networkId values)).conseq (fun _ h => h)
      fun _ _ _ => trivial
  | clearAcmeChallenge networkId =>
    exact (triple_harmless (all_clearAcmeChallenge networkId)).conseq (fun _ h => h)
      fun _ _ _ => trivial

/-! ## Whole runs -/

def OneParent (parent : String) (_ : world.Config) : world.Action → Prop
  | .spawn (.provisionerTick _ subdomainParent _) => subdomainParent = parent
  | _ => True

instance (parent : String) (cfg : world.Config) : DecidablePred (OneParent parent cfg)
  | .spawn (.provisionerTick _ subdomainParent _) =>
    inferInstanceAs (Decidable (subdomainParent = parent))
  | .spawn (.reaperTick ..) | .spawn (.reportIp ..) | .spawn (.setAcmeChallenge ..)
  | .spawn (.clearAcmeChallenge _) | .step .. | .env _ => isTrue trivial

def isReport : Task → Bool
  | .reportIp .. => true
  | _ => false

/-- What a report writes, to the zone and to the row, it writes for a live network; so does
a challenge update that stores its ids. -/
def LiveWrite (s : Cloud) (task : Task) : Call → Prop
  | .recordIp networkId _ | .casAcmeRecords networkId _ _ => s.directory.Live networkId
  | .upsertRecord networkId _ _ _ _ => isReport task = true → s.directory.Live networkId
  | _ => True

instance (s : Cloud) (task : Task) : DecidablePred (LiveWrite s task)
  | .recordIp .. | .casAcmeRecords .. => inferInstanceAs (Decidable (_ = true))
  | .upsertRecord .. => inferInstanceAs (Decidable (_ → _ = true))
  | .findById _ | .claimARecord .. | .deleteOperational _ | .findARecord _ | .deleteRecord _
  | .listNetworks .. | .markNetworkActive _ | .finishDeprovision _ | .networkState _ =>
    isTrue trivial

theorem LiveWrite.timed {s : Cloud} {task : Task} {c : Call} (h : LiveWrite s task c) :
    Timed s c := by
  cases c with
  | recordIp | casAcmeRecords => exact h
  | _ => trivial

/-- The call that the step performs writes for a live network, where it is one that has to. -/
def WritesLive (cfg : world.Config) : world.Action → Prop
  | .step i _ => ∀ th ∈ cfg.threads[i]?, ∀ c ∈ th.pending, LiveWrite cfg.state th.task c
  | _ => True

instance (cfg : world.Config) : DecidablePred (WritesLive cfg)
  | .step _ _ => inferInstanceAs (Decidable (∀ _, _))
  | .spawn _ => isTrue trivial
  | .env _ => isTrue trivial

theorem guard_of_writesLive (parent : String) {cfg : world.Config} {a : world.Action}
    (h : (Succeeds cfg a ∧ OneParent parent cfg a) ∧ WritesLive cfg a) :
    (ownership parent).guard cfg a := by
  cases a with
  | spawn task => cases task <;> exact h.1.2
  | env m => trivial
  | step i choice => exact fun th hth c hc => ⟨h.1.1, (h.2 th hth c hc).timed⟩

/-- A report rewrites records for its own network only. -/
def ReportsOwn : Task → Call → Prop
  | .reportIp networkId _, .upsertRecord n _ _ _ _ => n = networkId
  | _, _ => True

theorem all_reportsOwn (task : Task) : task.body.All (ReportsOwn task) := by
  cases task with
  | reportIp networkId ip =>
    apply All.bind
    · apply All.exceptBind (p := orInternal (issue (.findById networkId)))
      · exact ⟨trivial, fun _ => trivial⟩
      · intro op
        split
        · refine ⟨rfl, fun r => ?_⟩
          cases r with
          | ok => exact ⟨trivial, fun _ => trivial⟩
          | error => trivial
        · exact ⟨trivial, fun _ => trivial⟩
    · exact fun _ => trivial
  | _ => exact (all_true _).mono fun _ _ => trivial

/-- In every run without failures in which reports write for live networks only: no A record
is stored for two networks, and the record that a report rewrites is stored for no other
network than its own. -/
theorem records_stay_apart (parent : String) (directory : Directory)
    (hslugs : directory.SlugsUnique) (acts : List world.Action) (cfg : world.Config)
    (hrun : world.system.run (.start (.unpublished directory)) acts = some cfg)
    (hsucceeds : world.system.Along Succeeds (.start (.unpublished directory)) acts)
    (hparent : world.system.Along (OneParent parent) (.start (.unpublished directory)) acts)
    (hlive : world.system.Along WritesLive (.start (.unpublished directory)) acts) :
    (∀ m n id, cfg.state.operational.aRecordId m = some id →
      cfg.state.operational.aRecordId n = some id → m = n) ∧
    ∀ before i choice after cfg₁ cfg₂ th networkId reported owner type fqdn ip id r,
      acts = before ++ .step i choice :: after →
      world.system.run (.start (.unpublished directory)) before = some cfg₁ →
      th.task = .reportIp networkId reported →
      cfg₁.Performs i th ⟨.upsertRecord owner type fqdn ip (some id), r⟩ cfg₂ →
      ∀ n, cfg₁.state.operational.aRecordId n = some id → n = networkId := by
  have halong := ((hsucceeds.and _ hparent).and _ hlive).mono _
    fun _ _ => guard_of_writesLive parent
  have hstart : (ownership parent).Inv (.unpublished directory) ∅ :=
    ⟨fun _ => "", Owned.unpublished hslugs⟩
  constructor
  · obtain ⟨holds, ⟨naming, hinv⟩, -⟩ := inv_of_run triple_body hstart halong hrun
    exact fun m n id hm hn => hinv.unique hm hn
  · rintro before i choice after cfg₁ cfg₂ th networkId reported owner type fqdn ip id r rfl hbefore
      htask ⟨_, next, hth, hprog, -, -⟩ n hn
    have hmem := List.mem_of_getElem? hth
    have hpending : th.pending = some (.upsertRecord owner type fqdn ip (some id)) := by
      simp [World.Thread.pending, hprog]
    obtain ⟨holds, ⟨naming, hinv⟩, hshows⟩ := inv_of_run triple_body hstart
      (world.system.along_append_left halong) hbefore
    obtain ⟨x, hx, hheld⟩ := hshows th hmem _ hpending
    -- The call is the report's own, and the run lets it happen only for a live network.
    have hown := World.Config.issues_of_run all_reportsOwn hbefore th hmem
    rw [hprog, htask] at hown
    have hwrite := (world.system.along_append_right hlive hbefore).1 th hth _ hpending
    obtain ⟨row, hrow, -⟩ := (any_eq_true _ _).mp (hwrite (by rw [htask]; rfl))
    obtain rfl : owner = networkId := hown.1
    cases hheld
    exact hinv.eq_of_held hx hrow hn

/-- The slug of the deleted network is registered again, and the new network is published. -/
def republish (report tick : ℕ) : List world.Action :=
  .env (.registerNetwork "net-2" ⟨"tenant-2", "home", "home", "eu", .provisioning⟩) ::
    .spawn (.reportIp "net-2" "192.0.2.2") :: calls report 2 ++
    .spawn (.provisionerTick "eu" "wardnet.net" 1) :: calls tick 6

/-- A provisioner pass has listed the network and read its row, and a report has read it too,
when the network is deleted and torn down. Then the report brings the row back, and the pass
claims a record in it. -/
def reportAfterTeardown : List world.Action :=
  .spawn (.reportIp "net-1" "192.0.2.1") :: calls 0 2 ++
    .spawn (.provisionerTick "eu" "wardnet.net" 1) :: calls 1 2 ++
    .spawn (.reportIp "net-1" "192.0.2.1") :: calls 2 1 ++
    .env (.setDeprovisioning "net-1") :: .spawn (.reaperTick "eu" 1) :: calls 3 4 ++
    calls 2 1 ++ calls 1 5

theorem slugsUnique_sampleDirectory : sampleDirectory.SlugsUnique := by
  have hone : ∀ n row, sampleDirectory.networks.get? n = some row → n = "net-1" := by
    intro n row hrow
    by_contra hne
    rw [sampleDirectory, Store.get?_insert_of_ne _ hne] at hrow
    cases hrow
  intro m n row row' hm hn _
  rw [hone m row hm, hone n row' hn]

/-- The successor under the same slug adopts the record of the deleted network, and the next
report of the deleted network repoints it. -/
theorem late_report_shares_record : ∃ cfg : world.Config,
      world.system.run (.start (.unpublished sampleDirectory)) (reportAfterTeardown ++
        republish 4 5 ++ .spawn (.reportIp "net-1" "203.0.113.9") :: calls 6 2) = some cfg ∧
      world.system.Along Succeeds (.start (.unpublished sampleDirectory)) (reportAfterTeardown ++
        republish 4 5 ++ .spawn (.reportIp "net-1" "203.0.113.9") :: calls 6 2) ∧
      world.system.Along (OneParent "wardnet.net") (.start (.unpublished sampleDirectory))
        (reportAfterTeardown ++ republish 4 5 ++
          .spawn (.reportIp "net-1" "203.0.113.9") :: calls 6 2) ∧
      sampleDirectory.SlugsUnique ∧
      cfg.state.operational.aRecordId "net-1" = some 0 ∧
      cfg.state.operational.get? "net-2" =
        some ⟨some "192.0.2.2", some "home.wardnet.net", some 0, []⟩ ∧
      cfg.state.zone.records.get? 0 = some ⟨.a, "home.wardnet.net", "203.0.113.9", "net-1"⟩ :=
  ⟨_, System.run_eq_some_runD _ (by decide), by decide, by decide, slugsUnique_sampleDirectory,
    by decide, by decide, by decide⟩

/-- A network is published, deleted and torn down in time, and its slug is registered again. -/
def reuseOfSlug : List world.Action :=
  createARecord ++ calls 1 2 ++ readForTeardown ++ calls 2 3 ++ republish 3 4 ++
    .spawn (.reportIp "net-2" "192.0.2.3") :: calls 5 1

/-- The new network has a record of its own, which its next report rewrites. -/
theorem records_stay_apart_sample :
    ∃ (cfg₁ cfg₂ : world.Config) (th : world.Thread) (r : Except Failure RecordId),
      world.system.run (.start (.unpublished sampleDirectory)) reuseOfSlug = some cfg₁ ∧
      cfg₁.Performs 5 th
        ⟨.upsertRecord "net-2" .a "home.wardnet.net" "192.0.2.3" (some 1), r⟩ cfg₂ ∧
      cfg₁.state.operational.aRecordId "net-2" = some 1 ∧
      (∀ n, cfg₁.state.operational.aRecordId n = some 1 → n = "net-2") ∧
      ∀ m n id, cfg₂.state.operational.aRecordId m = some id →
        cfg₂.state.operational.aRecordId n = some id → m = n := by
  obtain ⟨th, r, hperforms, htask⟩ := World.performs_runD (W := world)
    (.unpublished sampleDirectory) reuseOfSlug 5 ⟨false, 0⟩ (.reportIp "net-2" "192.0.2.3")
    (.upsertRecord "net-2" .a "home.wardnet.net" "192.0.2.3" (some 1)) (by decide) rfl (by decide)
  have hbefore := world.system.run_eq_some_runD
    (show (world.system.run (.start (.unpublished sampleDirectory)) reuseOfSlug).isSome by decide)
  obtain ⟨hapart, hown⟩ := records_stay_apart "wardnet.net" sampleDirectory
    slugsUnique_sampleDirectory (reuseOfSlug ++ calls 5 1) _
    (System.run_eq_some_runD _ (by decide)) (by decide) (by decide) (by decide)
  exact ⟨_, _, th, r, hbefore, hperforms, by decide,
    hown reuseOfSlug 5 ⟨false, 0⟩ [] _ _ th "net-2" "192.0.2.3" "net-2" .a "home.wardnet.net"
      "192.0.2.3" 1 r rfl hbefore htask hperforms, hapart⟩

end Wardnet.Ddns.Ownership
