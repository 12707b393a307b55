/-
# The bookkeeping of ACME challenges

Any number of updates of one network's challenge run at once. The TXT records of the
challenge name and the ids stored in the operational row are a `Filing`, and each call of
`set_acme_challenge` and `clear_acme_challenge` is one of its steps.

An update whose compare-and-set misses returns a conflict, and the records it has created
stay. So after all updates have returned, the records of the name are the stored ones
exactly when no update that had created records has missed.
-/

import Wardnet.Base.Refile
import Wardnet.Ddns.World

namespace Wardnet.Ddns

open Base OperationalTable

namespace Zone

def txtRecords (zone : Zone) (fqdn : String) : List RecordId :=
  (zone.records.select fun _ rec => rec.type = .txt ∧ rec.name = fqdn).map Prod.fst

variable {zone : Zone} {fqdn content networkId : String} {id k : RecordId}

theorem mem_txtRecords_iff : id ∈ zone.txtRecords fqdn ↔
      ∃ rec, zone.records.get? id = some rec ∧ rec.type = .txt ∧ rec.name = fqdn := by
  simp [txtRecords, Store.mem_select_iff]

theorem lt_of_mem_txtRecords (hid : id ∈ zone.txtRecords fqdn) : id < zone.nextId := by
  obtain ⟨rec, hrec, -⟩ := mem_txtRecords_iff.mp hid
  exact zone.id_lt id rec hrec

theorem mem_txtRecords_create :
    id ∈ (zone.create ⟨.txt, fqdn, content, networkId⟩).2.txtRecords fqdn ↔
      id = zone.nextId ∨ id ∈ zone.txtRecords fqdn := by
  simp only [mem_txtRecords_iff, create, Store.get?_insert]
  by_cases heq : id = zone.nextId
  · simp [heq]
  · simp [heq]

theorem mem_txtRecords_delete :
    k ∈ (zone.delete id).txtRecords fqdn ↔ k ∈ zone.txtRecords fqdn ∧ k ≠ id := by
  simp only [mem_txtRecords_iff, delete, Store.get?_erase]
  by_cases heq : k = id
  · simp [heq]
  · simp [heq]

end Zone

namespace Challenge

open Filing

inductive Update
  | set (values : List String)
  | clear

/-- Updates of the challenge of one network under one name. No call fails. -/
@[reducible]
def updates (networkId fqdn : String) : World where
  State := Cloud
  Call := Call
  Resp := Call.Resp
  Choice := RecordId
  exec := Cloud.perform
  Task := Update
  Result := Except DdnsError Unit
  body
    | .set values => (setAcmeChallenge networkId fqdn values).run
    | .clear => (clearAcmeChallenge networkId).run
  Env := Empty
  env e _ := e.elim

/-- The TXT records of the name, and the ids stored for the network. -/
def filing (networkId fqdn : String) (s : Cloud) : Filing RecordId where
  existing := {id | id ∈ s.zone.txtRecords fqdn}
  filed := s.operational.acmeIds networkId
  issued := {id | id < s.zone.nextId}

variable {networkId fqdn : String}

theorem filing_delete (s : Cloud) (id : RecordId) :
    filing networkId fqdn { s with zone := s.zone.delete id } =
      { filing networkId fqdn s with existing := (filing networkId fqdn s).existing \ {id} } := by
  simp only [filing, Zone.mem_txtRecords_delete]
  rfl

theorem filing_create (s : Cloud) (value : String) :
    filing networkId fqdn { s with zone := (s.zone.create ⟨.txt, fqdn, value, networkId⟩).2 } =
      { filing networkId fqdn s with
        existing := insert s.zone.nextId (filing networkId fqdn s).existing
        issued := insert s.zone.nextId (filing networkId fqdn s).issued } := by
  simp only [filing, Zone.mem_txtRecords_create, Filing.mk.injEq, true_and]
  refine ⟨rfl, ?_⟩
  ext id
  exact Nat.lt_succ_iff_lt_or_eq.trans or_comm

theorem filing_casAcmeRecords (s : Cloud) (newIds : List RecordId) :
    filing networkId fqdn { s with operational :=
        (s.operational.casAcmeRecords networkId (s.operational.acmeIds networkId) newIds).2 } =
      { filing networkId fqdn s with filed := newIds } := by
  have hids : (s.operational.casAcmeRecords networkId (s.operational.acmeIds networkId)
      newIds).2.acmeIds networkId = newIds := by
    rw [acmeIds, get?_casAcmeRecords_of_hit rfl]
    simp
  rw [filing, hids]
  rfl

/-! ## The updates as clients -/

variable (networkId fqdn) in
/-- The records that a call leaves behind: those of a compare-and-set that misses. -/
def lostBy : (updates networkId fqdn).Event → List RecordId
  | ⟨.casAcmeRecords _ _ newIds, .ok false⟩ => newIds
  | _ => []

def lost (log : List (updates networkId fqdn).Event) : List RecordId :=
  log.flatMap (lostBy networkId fqdn)

/-- Each update is a client, and has left behind what its calls show. -/
def bookkeeping (networkId fqdn : String) :
    Outline (updates networkId fqdn) (ℕ × Stage RecordId) where
  Inv s clients := (filing networkId fqdn s).Accounted clients
  Sees i client _ log _ := client.1 = i ∧ client.2.left = lost log
  Permits _ client others _ _ := client ∉ others

variable (networkId fqdn) in
/-- From the stage `g` the procedure returns in a stage that satisfies `Q`. -/
def Steps {α : Type} (g : Stage RecordId) (p : Proc α) (Q : α → Stage RecordId → Prop) : Prop :=
  ∀ i task log, g.left = lost log → (bookkeeping networkId fqdn).Wp i task
    (fun client log' value => client.1 = i ∧ client.2.left = lost log' ∧ Q value client.2)
    (i, g) log p

def Settled (g : Stage RecordId) : Prop := g.prior = [] ∧ g.holds = g.left

/-- The procedure succeeds, and its value tells the stage. -/
def returns {α ε : Type} (stage : α → Stage RecordId) : Except ε α → Stage RecordId → Prop
  | .ok value, g => g = stage value
  | .error _, _ => False

section

variable {α β ε : Type} {g : Stage RecordId} {Q : α → Stage RecordId → Prop}

theorem Steps.ret {value : α} (h : Q value g) : Steps networkId fqdn g (.ret value) Q :=
  fun _ _ _ hleft => ⟨rfl, hleft, h⟩

variable {p : Proc α} {f : α → ExceptT ε Proc β} {Q' : Except ε β → Stage RecordId → Prop}
  {stage : α → Stage RecordId}

theorem Steps.bind {f : α → Proc β} {Q' : β → Stage RecordId → Prop}
    (hp : Steps networkId fqdn g p Q)
    (hf : ∀ value g', Q value g' → Steps networkId fqdn g' (f value) Q') :
    Steps networkId fqdn g (p.bind f) Q' := by
  intro i task log hleft
  apply Outline.Wp.bind
  apply (hp i task log hleft).mono
  rintro ⟨_, g'⟩ log' value ⟨rfl, hleft', hQ⟩
  exact hf value g' hQ _ task log' hleft'

theorem Steps.exceptBind {p : ExceptT ε Proc α} (hp : Steps networkId fqdn g p.run (returns stage))
    (hf : ∀ value, Steps networkId fqdn (stage value) (f value).run Q') :
    Steps networkId fqdn g (p >>= f).run Q' := by
  apply Steps.bind hp
  intro r g' hr
  cases r with
  | ok value =>
    rw [show g' = stage value from hr]
    exact hf value
  | error e => exact hr.elim

/-- A call whose failure the procedure looks at. -/
theorem Steps.exceptBind_lift (hp : Steps networkId fqdn g p Q)
    (hf : ∀ value g', Q value g' → Steps networkId fqdn g' (f value).run Q') :
    Steps networkId fqdn g (ExceptT.lift p >>= f).run Q' := by
  have hlift : (ExceptT.lift p >>= f).run = p.bind fun value => (f value).run :=
    Prog.bind_assoc p (fun value => .ret (Except.ok value : Except ε α)) (ExceptT.bindCont f)
  rw [hlift]
  exact Steps.bind hp hf

theorem Steps.orInternal {p : Proc (Except Failure α)}
    (hp : Steps networkId fqdn g p (returns stage)) :
    Steps networkId fqdn g (Ddns.orInternal p).run (returns stage) := by
  apply Steps.bind hp
  intro r g' hr
  cases r with
  | ok value => exact Steps.ret hr
  | error e => exact hr.elim

theorem steps_call {c : Call} {Q : c.Resp → Stage RecordId → Prop}
    (hcall : ∀ s i others pick r s', (filing networkId fqdn s).Accounted (insert (i, g) others) →
      (i, g) ∉ others → Cloud.perform pick c s = some (r, s') →
      ∃ g', (filing networkId fqdn s').Accounted (insert (i, g') others) ∧ Q r g' ∧
        g'.left = g.left ++ lostBy networkId fqdn ⟨c, r⟩) :
    Steps networkId fqdn g (issue c) Q := by
  intro i task log hleft
  refine ⟨⟨rfl, hleft⟩, fun s others pick r s' hinv halone hperform => ?_⟩
  obtain ⟨g', hinv', hQ, hleft'⟩ := hcall s i others pick r s' hinv halone hperform
  refine ⟨(i, g'), hinv', rfl, ?_, hQ⟩
  simp [lost, hleft', hleft]

end

section

variable {prior rest created : List RecordId}

theorem steps_currentAcmeIds : Steps networkId fqdn .idle (currentAcmeIds networkId).run
      (returns fun ids => .replacing ids ids []) := by
  apply Steps.exceptBind (Steps.orInternal _) fun op => Steps.ret rfl
  apply steps_call
  intro s i others pick r s' hinv halone hperform
  cases hperform
  exact ⟨_, hinv.read halone, rfl, rfl⟩

theorem steps_deleteRecordsOrErr (rest : List RecordId) :
    Steps networkId fqdn (.replacing prior rest []) (deleteRecordsOrErr rest).run
      (returns fun _ => .replacing prior [] []) := by
  induction rest with
  | nil => exact Steps.ret rfl
  | cons id rest ih =>
    have hdelete : Steps networkId fqdn (.replacing prior (id :: rest) [])
        (issue (.deleteRecord id)) (returns fun _ => .replacing prior rest []) := by
      apply steps_call
      intro s i others pick r s' hinv halone hperform
      cases hperform
      refine ⟨_, ?_, rfl, rfl⟩
      rw [filing_delete]
      exact hinv.delete halone
    exact Steps.exceptBind (Steps.orInternal hdelete) fun _ => ih

theorem steps_createTxtRecords (values : List String) (created : List RecordId) :
    Steps networkId fqdn (.replacing prior [] created)
      (createTxtRecords networkId fqdn prior values created).run
      (returns fun newIds => .replacing prior [] newIds) := by
  induction values generalizing created with
  | nil => exact Steps.ret rfl
  | cons value values ih =>
    have hcreate : Steps networkId fqdn (.replacing prior [] created)
        (issue (.upsertRecord networkId .txt fqdn value none))
        (returns fun id => .replacing prior [] (created ++ [id])) := by
      apply steps_call
      intro s i others pick r s' hinv halone hperform
      cases hperform
      refine ⟨_, ?_, rfl, rfl⟩
      rw [filing_create]
      exact hinv.create halone (Nat.lt_irrefl _)
    apply Steps.exceptBind_lift hcreate
    intro r g' hr
    cases r with
    | ok id =>
      rw [show g' = _ from hr]
      exact ih (created ++ [id])
    | error e => exact hr.elim

/-- The compare-and-set is the last call of an update: what it does not file stays behind. -/
theorem steps_casOrConflict : Steps networkId fqdn (.replacing prior [] created)
      (casOrConflict networkId prior created).run fun _ => Settled := by
  have hcas : Steps networkId fqdn (.replacing prior [] created)
      (issue (.casAcmeRecords networkId prior created))
      (returns fun stored => .finished (if stored then [] else created)) := by
    apply steps_call
    intro s i others pick r s' hinv halone hperform
    cases hperform
    by_cases hhit : s.operational.acmeIds networkId = prior
    · subst hhit
      rw [casAcmeRecords_hit_iff.mpr rfl]
      refine ⟨.finished [], ?_, rfl, rfl⟩
      rw [filing_casAcmeRecords]
      exact hinv.hit halone
    · have hmiss : (s.operational.casAcmeRecords networkId prior created).1 = false :=
        Bool.eq_false_iff.mpr (mt casAcmeRecords_hit_iff.mp hhit)
      have hsame : filing networkId fqdn { s with operational :=
          (s.operational.casAcmeRecords networkId prior created).2 } = filing networkId fqdn s := by
        rw [filing, acmeIds, get?_casAcmeRecords_of_miss hhit]
        rfl
      refine ⟨.finished created, ?_, by rw [hmiss]; rfl, by rw [hmiss]; rfl⟩
      rw [hsame]
      exact hinv.miss halone hhit
  apply Steps.exceptBind (Steps.orInternal hcas)
  intro stored
  cases stored with
  | true | false => exact Steps.ret ⟨rfl, rfl⟩

theorem steps_body (task : Update) :
    Steps networkId fqdn .idle ((updates networkId fqdn).body task) fun _ => Settled := by
  cases task with
  | set values =>
    apply Steps.exceptBind steps_currentAcmeIds
    intro prior
    apply Steps.exceptBind (steps_deleteRecordsOrErr prior)
    intro _
    exact Steps.exceptBind (steps_createTxtRecords values []) fun _ => steps_casOrConflict
  | clear =>
    apply Steps.exceptBind steps_currentAcmeIds
    intro prior
    by_cases hnone : prior = []
    · rw [if_pos hnone, hnone]
      exact Steps.ret ⟨rfl, rfl⟩
    · rw [if_neg hnone]
      exact Steps.exceptBind (steps_deleteRecordsOrErr prior) fun _ => steps_casOrConflict

end

/-! ## Whole runs -/

theorem bookkeeping_sound :
    (bookkeeping networkId fqdn).Sound (fun client _ => Settled client.2) fun _ _ => True where
  spawn := by
    intro cfg task clients _ hinv
    refine ⟨(cfg.threads.length, .idle), ?_, Accounted.start hinv⟩
    apply (steps_body task _ task [] rfl).mono
    rintro client log value ⟨hi, hleft, hsettled⟩
    exact ⟨⟨hi, hleft⟩, hsettled⟩
  env := by
    intro cfg e
    exact e.elim
  permits := by
    rintro cfg i choice th c next client others - - - ⟨rfl, -⟩ hothers hmem
    obtain ⟨j, th', -, ⟨hj, -⟩, hne⟩ := hothers client hmem
    exact hne hj.symm

/-- A compare-and-set that stores new ids finds those that its update has read. -/
def StoresOverRead (s : Cloud) : Call → Prop
  | .casAcmeRecords networkId expected newIds =>
    newIds = [] ∨ s.operational.acmeIds networkId = expected
  | _ => True

instance (s : Cloud) : DecidablePred (StoresOverRead s)
  | .casAcmeRecords networkId expected newIds =>
    inferInstanceAs (Decidable (newIds = [] ∨ s.operational.acmeIds networkId = expected))
  | .findById _ | .recordIp .. | .claimARecord .. | .deleteOperational _ | .findARecord _
  | .upsertRecord .. | .deleteRecord _ | .listNetworks .. | .markNetworkActive _
  | .finishDeprovision _ | .networkState _ => isTrue trivial

/-- A call leaves records behind exactly when it stores new ids over others than were read. -/
theorem lostBy_eq_nil_iff {pick : RecordId} {c : Call} {s s' : Cloud} {r : c.Resp}
    (hperform : Cloud.perform pick c s = some (r, s')) :
    lostBy networkId fqdn ⟨c, r⟩ = [] ↔ StoresOverRead s c := by
  cases c with
  | casAcmeRecords n expected newIds =>
    cases hperform
    have hhit := @OperationalTable.casAcmeRecords_hit_iff s.operational n expected newIds
    cases hcas : (s.operational.casAcmeRecords n expected newIds).1 with
    | true => simp [lostBy, StoresOverRead, hhit.mp hcas]
    | false =>
      have hmiss : s.operational.acmeIds n ≠ expected := fun heq => by simp [hhit.mpr heq] at hcas
      simp [lostBy, StoresOverRead, hmiss]
  | _ => simp [lostBy, StoresOverRead]

/-- However many updates of a challenge interleave: once all have returned, the TXT records
of the challenge name are those that the network's row names, exactly when every
compare-and-set that was to store new ids found those that its update had read. -/
theorem challenge_records_stored_iff (networkId fqdn : String) (s : Cloud)
    (hstart : ∀ id, id ∈ s.zone.txtRecords fqdn ↔ id ∈ s.operational.acmeIds networkId)
    (acts : List (updates networkId fqdn).Action) (cfg : (updates networkId fqdn).Config)
    (hrun : (updates networkId fqdn).system.run (.start s) acts = some cfg)
    (hdone : ∀ th ∈ cfg.threads, th.done) :
    (∀ id, id ∈ cfg.state.zone.txtRecords fqdn ↔ id ∈ cfg.state.operational.acmeIds networkId) ↔
      (updates networkId fqdn).system.Along (World.Config.Pending StoresOverRead)
        (.start s) acts := by
  have : Inhabited (ℕ × Stage RecordId) := ⟨(0, .idle)⟩
  have hinit : (bookkeeping networkId fqdn).Inv s ∅ :=
    Accounted.of_eq (fun id hid => Zone.lt_of_mem_txtRecords hid) hstart
  have halways : (updates networkId fqdn).system.Along (fun _ _ => True) (.start s) acts :=
    System.along_of_forall_mem _ fun _ _ _ => trivial
  obtain ⟨note, hfollows, hinv⟩ :=
    bookkeeping_sound.run (Outline.annotates_start hinit) halways hrun
  have hfollow : ∀ i (hi : i < cfg.threads.length), Settled (note i).2 ∧
      (note i).2.left = lost cfg.threads[i].log := by
    intro i hi
    have hth := hfollows i _ (List.getElem?_eq_getElem hi)
    obtain ⟨value, hret⟩ := World.Thread.prog_eq_ret_of_done (hdone _ (List.getElem_mem hi))
    exact ⟨hth.fin hret, hth.sees.2⟩
  have hleft : (∀ id, id ∈ cfg.state.zone.txtRecords fqdn ↔
      id ∈ cfg.state.operational.acmeIds networkId) ↔
      ∀ c ∈ {g | ∃ i < cfg.threads.length, note i = g}, c.2.holds = [] := by
    apply hinv.existing_iff
    rintro _ ⟨i, hi, rfl⟩
    exact (hfollow i hi).1.1
  have hlogs : cfg.Logged (fun e => lostBy networkId fqdn e = []) ↔ _ :=
    World.Config.logged_iff_along lostBy_eq_nil_iff hrun
  rw [hleft]
  trans cfg.Logged fun e => lostBy networkId fqdn e = []
  · constructor
    · intro hnone th hth
      obtain ⟨i, hi, rfl⟩ := List.mem_iff_getElem.mp hth
      rw [← List.flatMap_eq_nil_iff]
      have hlost := (hfollow i hi).2
      rw [← (hfollow i hi).1.2, hnone _ ⟨i, hi, rfl⟩] at hlost
      exact hlost.symm
    · rintro hlogged _ ⟨i, hi, rfl⟩
      rw [(hfollow i hi).1.2, (hfollow i hi).2]
      exact List.flatMap_eq_nil_iff.mpr (hlogged _ (List.getElem_mem hi))
  · rw [hlogs]
    simp [World.Config.Logged, World.Config.start]

def sampleNetwork : Cloud where
  directory := .empty
  operational := (∅ : OperationalTable).insert "net-1"
    ⟨some "192.0.2.1", some "home.wardnet.net", none, []⟩
  zone := .empty

def calls (order : List ℕ) : List (updates "net-1" "_acme-challenge.home.wardnet.net").Action :=
  order.map fun i => .step i 0

/-- A challenge is set; then one update sets another while a clear deletes the old one. The
clear misses, and has nothing to leave behind. -/
def sampleReplaced : List (updates "net-1" "_acme-challenge.home.wardnet.net").Action :=
  .spawn (.set ["first"]) :: calls [0, 0, 0] ++
    .spawn (.set ["second"]) :: .spawn .clear :: calls [1, 2, 1, 2, 1, 1, 2]

theorem challenge_records_stored_sample :
    ∃ cfg : (updates "net-1" "_acme-challenge.home.wardnet.net").Config,
      (updates "net-1" "_acme-challenge.home.wardnet.net").system.run (.start sampleNetwork)
        sampleReplaced = some cfg ∧ (∀ th ∈ cfg.threads, th.done) ∧
      ∀ id, id ∈ cfg.state.zone.txtRecords "_acme-challenge.home.wardnet.net" ↔
        id ∈ cfg.state.operational.acmeIds "net-1" :=
  ⟨_, System.run_eq_some_runD _ (by decide), by decide,
    (challenge_records_stored_iff "net-1" "_acme-challenge.home.wardnet.net" sampleNetwork
      (fun _ => Iff.rfl) sampleReplaced _ (System.run_eq_some_runD _ (by decide)) (by decide)).mpr
        (by decide)⟩

/-- Two updates read that there is no challenge, and each creates its record. -/
def sampleCollision : List (updates "net-1" "_acme-challenge.home.wardnet.net").Action :=
  .spawn (.set ["first"]) :: .spawn (.set ["second"]) :: calls [0, 1, 0, 1, 0, 1]

/-- The loser's record stays, and no row names it. -/
theorem challenge_conflict_orphans_record :
    ∃ cfg : (updates "net-1" "_acme-challenge.home.wardnet.net").Config,
      (updates "net-1" "_acme-challenge.home.wardnet.net").system.run (.start sampleNetwork)
        sampleCollision = some cfg ∧ (∀ th ∈ cfg.threads, th.done) ∧
      cfg.state.zone.txtRecords "_acme-challenge.home.wardnet.net" = [0, 1] ∧
      cfg.state.operational.acmeIds "net-1" = [0] :=
  ⟨_, System.run_eq_some_runD _ (by decide), by decide, by decide, by decide⟩

end Challenge

end Wardnet.Ddns
