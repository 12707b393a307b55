/-
# DNS records do not leak from well-timed runs

Each service operation, step by step, under the accounting of `Account`: what a
task creates it holds until the row stores it or the provider has deleted it,
and teardown drops a row and reports only after everything the row held is gone.
Once Tenants has deleted a network and every task has returned, no record of the
network is left.

Without the timing condition records do leak: the writers do not ask Tenants
whether the network is still live, and a challenge update that loses its
compare-and-set leaves its new records behind.
-/

import Wardnet.Ddns.Account
import Wardnet.Ddns.Passes

namespace Wardnet.Ddns

open Base Tenants Rely OperationalTable Operational List Option Triple Cloud

variable {P : Cloud → Prop} {held : List RecordId}

/-! ## Calls -/

theorem triple_call (c : Call) (held' : c.Resp → List RecordId) (F : c.Resp → Cloud → Prop)
    (hstable : ∀ r s s', Evolves s s' → F r s → F r s') {Q : c.Resp → leak.Note → Prop}
    (hcall : ∀ s others pick r s', Accounted s (insert held others) → P s → GoodCall s c →
      Cloud.perform pick c s = some (r, s') → Evolves s s' →
      Accounted s' (insert (held' r) others) ∧ F r s' ∧
        ∀ g, leak.Has (held' r) (fun s => P s ∧ F r s) g → Q r g) :
    leak.Triple (leak.Has held P) (issue c) Q := by
  apply call (y := held') (F := F) trivial hstable
  intro s others choice r s' hinv hP hpermits hexec
  have hevolves := leak.exec_rel hpermits hexec
  exact hcall s others choice.pick r s' hinv hP hpermits.2
    (perform_of_exec hpermits.1 hexec) hevolves

/-- The calls that add no record, store no id and retire no network. -/
def Call.quiet : Call → Bool
  | .findById _ | .recordIp .. | .findARecord _ | .upsertRecord _ _ _ _ (some _)
  | .listNetworks .. | .markNetworkActive _ | .networkState _ => true
  | _ => false

/-- A quiet call leaves nothing to account for. -/
theorem quiet_perform {c : Call} (hquiet : c.quiet = true) {pick : RecordId} {s s' : Cloud}
    {r : c.Resp} (hperform : Cloud.perform pick c s = some (r, s')) :
    (∀ id rec', s'.zone.records.get? id = some rec' → ∃ rec, s.zone.records.get? id = some rec) ∧
      (∀ n, s'.operational.stored n = s.operational.stored n) ∧
      s'.directory.retired = s.directory.retired := by
  have hsame : (∀ id rec', s.zone.records.get? id = some rec' →
      ∃ rec, s.zone.records.get? id = some rec) := fun _ rec h => ⟨rec, h⟩
  cases c with
  | findById | listNetworks | networkState | markNetworkActive =>
    cases hperform
    exact ⟨hsame, fun _ => rfl, rfl⟩
  | recordIp networkId ip =>
    cases hperform
    exact ⟨hsame, fun n => stored_recordIp _ _ _ n, rfl⟩
  | findARecord fqdn =>
    obtain ⟨rfl, -⟩ := perform_findARecord hperform
    exact ⟨hsame, fun _ => rfl, rfl⟩
  | upsertRecord networkId type fqdn content existing =>
    cases existing with
    | none => cases hquiet
    | some id =>
      obtain ⟨-, -, rfl⟩ | ⟨-, -, rfl⟩ := perform_update hperform
      · refine ⟨fun k rec' hrec => ?_, fun _ => rfl, rfl⟩
        simp only [Zone.update, Store.get?_updateWhere, map_eq_some_iff] at hrec
        obtain ⟨rec, hold, -⟩ := hrec
        exact ⟨rec, hold⟩
      · exact ⟨hsame, fun _ => rfl, rfl⟩
  | claimARecord | casAcmeRecords | deleteOperational | deleteRecord | finishDeprovision =>
    cases hquiet

/-- A quiet call keeps what the task holds and knows, and teaches it any stable
fact that the answer shows. -/
theorem triple_quiet_learn (c : Call) (hquiet : c.quiet = true)
    (F : c.Resp → Cloud → Prop) (hstable : ∀ r s s', Evolves s s' → F r s → F r s')
    (hlearn : ∀ pick s holdings r s', Accounted s holdings → P s →
      Cloud.perform pick c s = some (r, s') → F r s') :
    leak.Triple (leak.Has held P) (issue c) fun r => leak.Has held fun s => P s ∧ F r s := by
  apply triple_call c (fun _ => held) F hstable
  intro s others pick r s' hinv hP _ hperform hevolves
  obtain ⟨hrecords, hstored, hretired⟩ := quiet_perform hquiet hperform
  refine ⟨?_, hlearn _ s _ r s' hinv hP hperform, fun g hg => hg⟩
  exact hinv.next_of_same hevolves hrecords hstored hretired fun _ hid _ _ => .inr hid

theorem triple_quiet {c : Call} (hquiet : c.quiet = true) :
    leak.Triple (leak.Has held P) (issue c) fun _ => leak.Has held P :=
  (triple_quiet_learn c hquiet (fun _ _ => True) (fun _ _ _ _ h => h)
    fun _ _ _ _ _ _ _ _ => trivial).conseq (fun _ h => h) fun _ _ h => h.mono fun _ h => h.1

theorem triple_deleteRecord (id : RecordId) (hid : ∀ s, P s → Allocated [id] s) :
    leak.Triple (leak.Has held P) (issue (.deleteRecord id)) fun _ =>
      leak.Has (held.filter (· ≠ id)) fun s => P s ∧ Deleted [id] s := by
  apply triple_call (.deleteRecord id) (fun _ => held.filter (· ≠ id)) (fun _ => Deleted [id])
    (fun _ _ _ h => h.deleted)
  intro s others pick r s' hinv hP _ hperform hevolves
  cases hperform
  refine ⟨?_, ?_, fun g hg => hg⟩
  · apply hinv.next_of_same hevolves
    · intro k rec hrec
      simp only [Zone.delete, Store.get?_erase] at hrec
      split at hrec
      · cases hrec
      · exact ⟨rec, hrec⟩
    · intro n
      rfl
    · rfl
    · intro k hk rec hrec
      have hne : k ≠ id := by
        rintro rfl
        simp [Zone.delete] at hrec
      exact .inr (mem_filter.mpr ⟨hk, by simpa using hne⟩)
  · intro k hk
    obtain rfl := mem_singleton.mp hk
    exact ⟨hid s hP k hk, by simp [Zone.delete]⟩

theorem triple_create (networkId : String) (type : RecordType) (fqdn content : String) :
    leak.Triple (leak.Has held P) (issue (.upsertRecord networkId type fqdn content none))
      (Rely.orElse (fun id => leak.Has (held ++ [id]) fun s => P s ∧ MadeFor networkId [id] s)
        fun _ => False) := by
  apply triple_call (.upsertRecord networkId type fqdn content none)
    (fun r => held ++ r.toOption.toList) (fun r => MadeFor networkId r.toOption.toList)
    (fun _ _ _ h => h.madeFor)
  intro s others pick r s' hinv _ _ hperform hevolves
  cases hperform
  refine ⟨?_, ?_, fun g hg => hg⟩
  · apply hinv.next hevolves
    · intro k rec hrec hfresh
      rcases Store.get?_of_insert hrec with ⟨rfl, -⟩ | ⟨-, hrec⟩
      · simp [Zone.create, Except.toOption]
      · exact absurd (s.zone.id_lt k rec hrec) hfresh
    · intro k rec _ hk
      exact hk
    · intro k hk rec _
      exact .inr (mem_append_left _ hk)
    · intro n k hk
      exact .inl hk
    · intro n hn
      exact .inl hn
  · intro k hk
    obtain rfl := mem_singleton.mp hk
    refine ⟨Nat.lt_succ_self _, fun rec hrec => ?_⟩
    simp only [Zone.create, Store.get?_insert_self, some.injEq] at hrec
    rw [← hrec]

/-- A won claim stores the record; a lost one changes nothing. -/
theorem triple_claimARecord (networkId fqdn : String) (id : RecordId)
    (hid : ∀ s, P s → Allocated [id] s) (hmade : ∀ s, P s → MadeFor networkId held s)
    (honly : ∀ k ∈ held, k = id) :
    leak.Triple (leak.Has held P) (issue (.claimARecord networkId fqdn id))
      (Rely.orElse (fun won => leak.Has (if won then [] else held) P) fun _ => False) := by
  apply triple_call (.claimARecord networkId fqdn id)
    (fun r => if r.toOption.getD false then [] else held) (fun _ _ => True) (fun _ _ _ _ h => h)
  intro s others pick r s' hinv hP _ hperform hevolves
  cases hperform
  refine ⟨?_, trivial, fun g hg => ?_⟩
  · apply hinv.next hevolves
    · intro k rec hrec hfresh
      exact absurd (s.zone.id_lt k rec hrec) hfresh
    · intro k rec _ hk
      exact mem_stored_claimARecord.mpr (.inl hk)
    · intro k hk rec hrec
      cases hwon : (s.operational.claimARecord networkId fqdn id).1 with
      | false => exact .inr hk
      | true =>
        obtain rfl := honly k hk
        rw [(hmade s hP k hk).2 rec hrec]
        exact .inl (mem_stored_claimARecord.mpr (.inr ⟨rfl, rfl, hwon⟩))
    · intro n k hk
      rcases mem_stored_claimARecord.mp hk with hold | ⟨-, rfl, -⟩
      · exact .inl hold
      · exact .inr (hid s hP k (mem_singleton.mpr rfl))
    · intro n hn
      exact .inl hn
  · cases hwon : (s.operational.claimARecord networkId fqdn id).1 with
    | false | true =>
      rw [hwon] at hg
      exact hg.mono fun _ h => h.1

/-- Whoever finds its record stored no longer has to hold it. -/
theorem triple_findWinner (networkId : String) (id : RecordId)
    (hmade : ∀ s, P s → MadeFor networkId held s) (honly : ∀ k ∈ held, k = id) :
    leak.Triple (leak.Has held P) (issue (.findById networkId)) (Rely.orElse (fun op => leak.Has
        (if op.bind Operational.cfARecordId = some id then [] else held) P) fun _ => False) := by
  apply triple_call (.findById networkId) (fun r => match r with
      | .ok op => if op.bind cfARecordId = some id then [] else held
      | .error _ => held)
    (fun _ _ => True) (fun _ _ _ _ h => h)
  intro s others pick r s' hinv hP _ hperform hevolves
  cases hperform
  refine ⟨?_, trivial, fun g hg => hg.mono fun _ h => h.1⟩
  apply hinv.next_of_same hevolves (fun _ rec h => ⟨rec, h⟩) (fun _ => rfl) rfl
  intro k hk rec hrec
  by_cases hwinner : (s.operational.get? networkId).bind cfARecordId = some id
  · obtain ⟨op, hop, harecord⟩ := bind_eq_some_iff.mp hwinner
    obtain rfl := honly k hk
    rw [(hmade s hP k hk).2 rec hrec]
    simp [stored, hop, recordIds, harecord]
  · simp only [if_neg hwinner]
    exact .inr hk

/-- A compare-and-set stores the new records in place of deleted ones; one that
brings none may miss. -/
theorem triple_casAcmeRecords (networkId : String) (prior newIds : List RecordId)
    (hprior : ∀ s, P s → Deleted prior s) (hmade : ∀ s, P s → MadeFor networkId newIds s) :
    leak.Triple (leak.Has newIds P) (issue (.casAcmeRecords networkId prior newIds)) fun _ =>
      leak.Has [] P := by
  apply triple_call (.casAcmeRecords networkId prior newIds) (fun _ => []) (fun _ _ => True)
    (fun _ _ _ _ h => h)
  intro s others pick r s' hinv hP hgood hperform hevolves
  cases hperform
  refine ⟨?_, trivial, fun g hg => hg.mono fun _ h => h.1⟩
  by_cases hhit : s.operational.acmeIds networkId = prior
  · have hcas := fun n k => stored_casAcmeRecords newIds hhit n k
    apply hinv.next hevolves
    · intro k rec hrec hfresh
      exact absurd (s.zone.id_lt k rec hrec) hfresh
    · intro k rec hrec hk
      rcases (hcas _ k).1 hk with hkept | hexpected
      · exact hkept
      · rw [(hprior s hP k hexpected).2] at hrec
        cases hrec
    · intro k hk rec hrec
      rw [(hmade s hP k hk).2 rec hrec]
      exact .inl ((hcas networkId k).2.2 hk)
    · intro n k hk
      rcases (hcas n k).2.1 hk with hold | ⟨-, hnew⟩
      · exact .inl hold
      · exact .inr (hmade s hP k hnew).1
    · intro n hn
      exact .inl hn
  · obtain rfl : newIds = [] := by
      by_contra hne
      exact hhit (hgood hne).2
    apply hinv.next_of_same hevolves (fun _ rec h => ⟨rec, h⟩) _ rfl nofun
    intro n
    simp only [stored, get?_casAcmeRecords_of_miss hhit]

/-- The row of a torn-down network goes when everything in it is deleted. -/
theorem triple_deleteOperational (networkId : String) {ids : List RecordId}
    (hcovers : ∀ s, P s → Covers networkId ids s) (hdeleted : ∀ s, P s → Deleted ids s) :
    leak.Triple (leak.Has held P) (issue (.deleteOperational networkId)) fun _ =>
      leak.Has held P := by
  apply triple_call (.deleteOperational networkId) (fun _ => held) (fun _ _ => True)
    (fun _ _ _ _ h => h)
  intro s others pick r s' hinv hP _ hperform hevolves
  cases hperform
  refine ⟨?_, trivial, fun g hg => hg.mono fun _ h => h.1⟩
  apply hinv.next hevolves
  · intro k rec hrec hfresh
    exact absurd (s.zone.id_lt k rec hrec) hfresh
  · intro k rec hrec hk
    refine mem_stored_erase.mpr ⟨?_, hk⟩
    intro heq
    rw [heq] at hk
    rw [(hdeleted s hP k ((hcovers s hP).2 k hk)).2] at hrec
    cases hrec
  · intro k hk rec _
    exact .inr hk
  · intro n k hk
    exact .inl (mem_stored_erase.mp hk).2
  · intro n hn
    exact .inl hn

/-- A network whose row holds only deleted records may be retired. -/
theorem triple_finishDeprovision (networkId : String) {ids : List RecordId}
    (hcovers : ∀ s, P s → Covers networkId ids s) (hdeleted : ∀ s, P s → Deleted ids s) :
    leak.Triple (leak.Has held P) (issue (.finishDeprovision networkId)) fun _ =>
      leak.Has held P := by
  apply triple_call (.finishDeprovision networkId) (fun _ => held) (fun _ _ => True)
    (fun _ _ _ _ h => h)
  intro s others pick r s' hinv hP _ hperform hevolves
  cases hperform
  refine ⟨?_, trivial, fun g hg => hg.mono fun _ h => h.1⟩
  apply hinv.next hevolves
  · intro k rec hrec hfresh
    exact absurd (s.zone.id_lt k rec hrec) hfresh
  · intro k rec _ hk
    exact hk
  · intro k hk rec _
    exact .inr hk
  · intro n k hk
    exact .inl hk
  · intro n hn
    rcases Directory.mem_retired_finishDeprovision hn with rfl | hold
    · exact .inr fun k hk => (hdeleted s hP k ((hcovers s hP).2 k hk)).2
    · exact .inl hold

/-! ## The service -/

/-- Whatever the outcome, the task holds nothing and still knows `P`. -/
abbrev Clean {ε α : Type} (P : Cloud → Prop) : Except ε α → leak.Note → Prop :=
  Rely.orElse (fun _ => leak.Has [] P) (leak.Has [] P)

theorem triple_orInternal_clean {α : Type} {p : Proc (Except Failure α)}
    (hp : leak.Triple (leak.Has [] P) p fun _ => leak.Has [] P) :
    leak.Triple (leak.Has [] P) (orInternal p).run (Clean P) :=
  triple_orInternal (orElse_const.mpr hp)

theorem triple_reportIp (networkId ip : String) :
    leak.Triple (leak.Has [] P) (reportIp networkId ip).run (Clean P) := by
  apply exceptBind (triple_orInternal_clean (triple_quiet rfl))
  intro op
  split
  · apply exceptBind (triple_orInternal_clean (triple_quiet rfl))
    intro _
    exact triple_orInternal_clean (triple_quiet rfl)
  · exact triple_orInternal_clean (triple_quiet rfl)

theorem triple_upsert (networkId fqdn ip : String) (existing : Option RecordId) :
    leak.Triple (leak.Has [] P) (issue (.upsertRecord networkId .a fqdn ip existing)) (Rely.orElse
        (fun id g => ∃ held : List RecordId, (∀ k ∈ held, k = id) ∧
          leak.Has held (fun s => P s ∧ Allocated [id] s ∧ MadeFor networkId held s) g)
        (leak.Has [] P)) := by
  cases existing with
  | none =>
    refine (triple_create networkId .a fqdn ip).conseq (fun _ h => h) (orElse_mono ?_ ?_)
    · intro id g hg
      refine ⟨[id], fun k hk => mem_singleton.mp hk, hg.mono fun s h => ⟨h.1, ?_, h.2⟩⟩
      exact fun k hk => (h.2 k hk).1
    · intro _ h
      exact h.elim
  | some id =>
    refine (triple_quiet_learn (.upsertRecord networkId .a fqdn ip (some id)) rfl
      (fun r => Allocated r.toOption.toList) (fun _ _ _ h => h.allocated) ?_).conseq
        (fun _ h => h) ?_
    · intro pick s holdings r s' _ _ hperform
      obtain ⟨hfound, rfl, rfl⟩ | ⟨-, rfl, rfl⟩ := perform_update hperform
      · obtain ⟨rec, hrec⟩ := Store.contains_eq_true_iff.mp hfound
        intro k hk
        obtain rfl := mem_singleton.mp hk
        exact s.zone.id_lt _ rec hrec
      · intro k hk
        cases hk
    · intro r g hg
      cases r with
      | ok id' =>
        exact ⟨[], by simp, hg.mono fun s h => ⟨h.1, h.2, by simp [MadeFor]⟩⟩
      | error e => exact hg.mono fun s h => h.1

theorem triple_provision (networkId fqdn ip : String) :
    leak.Triple (leak.Has [] P) (provision networkId fqdn ip).run (Clean P) := by
  apply exceptBind (triple_orInternal_clean (triple_quiet rfl))
  intro existing
  apply exceptBind (triple_orInternal (triple_upsert networkId fqdn ip existing))
  intro id
  apply of_exists
  intro held honly
  apply exceptBind
  · refine triple_orInternal ((triple_claimARecord networkId fqdn id (fun s h => h.2.1)
      (fun s h => h.2.2) honly).conseq (fun _ h => h) (orElse_mono (fun _ _ h => h) ?_))
    exact fun _ h => h.elim
  intro won
  cases won with
  | true => exact ret fun g hg => hg.mono fun s h => h.1
  | false =>
    apply exceptBind
    · refine triple_orInternal ((triple_findWinner networkId id (fun s h => h.2.2)
        honly).conseq (fun _ h => h) (orElse_mono (fun _ _ h => h) ?_))
      exact fun _ h => h.elim
    intro op
    by_cases hwinner : op.bind cfARecordId = some id
    · simp only [if_pos hwinner]
      exact ret fun g hg => hg.mono fun s h => h.1
    · simp only [if_neg hwinner]
      apply exceptBind
      · exact lift (triple_deleteRecord id fun s h => h.2.1)
      intro _
      have hnone : held.filter (· ≠ id) = [] := by
        simpa [filter_eq_nil_iff] using honly
      rw [hnone]
      exact ret fun g hg => hg.mono fun s h => h.1.1

theorem triple_deleteRecordsOrErr (ids : List RecordId) (hids : ∀ s, P s → Allocated ids s) :
    leak.Triple (leak.Has [] P) (deleteRecordsOrErr ids).run
      (Rely.orElse (fun _ => leak.Has [] fun s => P s ∧ Deleted ids s) (leak.Has [] P)) := by
  induction ids generalizing P with
  | nil => exact ret fun g hg => hg.mono fun s h => ⟨h, by simp [Deleted]⟩
  | cons id ids ih =>
    apply exceptBind (Q := fun _ => leak.Has [] fun s => P s ∧ Deleted [id] s)
    · refine triple_orInternal ((triple_deleteRecord id fun s h k hk => ?_).conseq
        (fun _ h => h) fun r g hg => ?_)
      · exact hids s h k (mem_singleton.mp hk ▸ mem_cons_self)
      · cases r with
        | ok => exact hg
        | error => exact hg.mono fun s h => h.1
    intro _
    refine (ih fun s h k hk => hids s h.1 k (mem_cons_of_mem _ hk)).conseq
      (fun _ h => h) (orElse_mono (fun _ g hg => hg.mono ?_) fun g hg => hg.mono ?_)
    · rintro s ⟨⟨hP, hid⟩, hrest⟩
      refine ⟨hP, fun k hk => ?_⟩
      rcases mem_cons.mp hk with rfl | hk
      · exact hid k (mem_singleton.mpr rfl)
      · exact hrest k hk
    · exact fun s h => h.1

theorem triple_currentAcmeIds (networkId : String) :
    leak.Triple (leak.Has [] P) (currentAcmeIds networkId).run
      (Rely.orElse (fun ids => leak.Has [] fun s => P s ∧ Allocated ids s) (leak.Has [] P)) := by
  apply exceptBind (Q := fun op => leak.Has [] fun s =>
    P s ∧ Allocated ((op.map cfAcmeRecordIds).getD []) s)
  · refine triple_orInternal ((triple_quiet_learn (.findById networkId) rfl
      (fun r s => ∀ op, r = .ok op → Allocated ((op.map cfAcmeRecordIds).getD []) s)
      (fun _ _ _ h hr op heq => h.allocated (hr op heq)) ?_).conseq (fun _ h => h) ?_)
    · intro pick s holdings r s' hinv _ hperform op heq k hk
      cases hperform
      cases heq
      apply hinv.alloc networkId k
      cases hop : s.operational.get? networkId with
      | none => simp [hop] at hk
      | some op =>
        simp only [hop, map_some, getD_some] at hk
        simp [stored, hop, recordIds, hk]
    · intro r g hg
      cases r with
      | ok op => exact hg.mono fun s h => ⟨h.1, h.2 op rfl⟩
      | error => exact hg.mono fun s h => h.1
  intro op
  exact ret fun g hg => hg

theorem triple_casOrConflict (networkId : String) (prior newIds : List RecordId)
    (hprior : ∀ s, P s → Deleted prior s) (hmade : ∀ s, P s → MadeFor networkId newIds s) :
    leak.Triple (leak.Has newIds P) (casOrConflict networkId prior newIds).run (Clean P) := by
  apply exceptBind (Q := fun _ => leak.Has [] P)
  · exact triple_orInternal (orElse_const.mpr
      (triple_casAcmeRecords networkId prior newIds hprior hmade))
  intro stored
  cases stored with
  | true | false => exact ret fun g hg => hg

/-- Creating the challenge records never fails here, so it returns with all of
them held. -/
theorem triple_createTxtRecords (networkId fqdn : String) (prior : List RecordId)
    (values : List String) (newIds : List RecordId)
    (hmade : ∀ s, P s → MadeFor networkId newIds s) :
    leak.Triple (leak.Has newIds P) (createTxtRecords networkId fqdn prior values newIds).run
      (Rely.orElse (fun ids => leak.Has ids fun s => P s ∧ MadeFor networkId ids s)
        fun _ => False) := by
  induction values generalizing newIds P with
  | nil => exact ret fun g hg => hg.mono fun s h => ⟨h, hmade s h⟩
  | cons value values ih =>
    apply exceptBind (lift (triple_create networkId .txt fqdn value))
    intro r
    cases r with
    | error => exact fun g hg => hg.elim
    | ok id =>
      refine (ih (newIds ++ [id]) fun s h k hk => ?_).conseq (fun _ h => h)
        (orElse_mono (fun ids g hg => hg.mono fun s h => ⟨h.1.1, h.2⟩) fun _ h => h)
      rcases mem_append.mp hk with hold | hnew
      · exact hmade s h.1 k hold
      · exact h.2 k hnew

theorem triple_setAcmeChallenge (networkId fqdn : String) (values : List String) :
    leak.Triple (leak.Has [] P) (setAcmeChallenge networkId fqdn values).run (Clean P) := by
  apply exceptBind (triple_currentAcmeIds networkId)
  intro prior
  apply exceptBind
  · exact (triple_deleteRecordsOrErr prior fun s h => h.2).conseq (fun _ h => h)
      (orElse_mono (fun _ _ h => h) fun g hg => hg.mono fun s h => h.1)
  intro _
  apply exceptBind
  · exact (triple_createTxtRecords networkId fqdn prior values [] fun s h => by
      simp [MadeFor]).conseq (fun _ h => h) (orElse_mono (fun _ _ h => h) fun g h => h.elim)
  intro newIds
  exact (triple_casOrConflict networkId prior newIds (fun s h => h.1.2) fun s h => h.2).conseq
    (fun _ h => h) (orElse_mono (fun _ g hg => hg.mono fun s h => h.1.1.1)
      fun g hg => hg.mono fun s h => h.1.1.1)

theorem triple_clearAcmeChallenge (networkId : String) :
    leak.Triple (leak.Has [] P) (clearAcmeChallenge networkId).run (Clean P) := by
  apply exceptBind (triple_currentAcmeIds networkId)
  intro prior
  by_cases hempty : prior = []
  · simp only [if_pos hempty]
    exact ret fun g hg => hg.mono fun s h => h.1
  · simp only [if_neg hempty]
    apply exceptBind
    · exact (triple_deleteRecordsOrErr prior fun s h => h.2).conseq (fun _ h => h)
        (orElse_mono (fun _ _ h => h) fun g hg => hg.mono fun s h => h.1)
    intro _
    exact (triple_casOrConflict networkId prior [] (fun s h => h.2) fun s h => by
      simp [MadeFor]).conseq (fun _ h => h) (orElse_mono
        (fun _ g hg => hg.mono fun s h => h.1.1) fun g hg => hg.mono fun s h => h.1.1)

/-- Teardown of a torn-down network: afterwards its row holds only deleted
records, and will not hold others again. -/
theorem triple_deleteRecords (networkId : String)
    (htorn : ∀ s, P s → s.directory.TornDown networkId) :
    leak.Triple (leak.Has [] P) (deleteRecords networkId).run (Rely.orElse
        (fun _ g => ∃ ids : List RecordId, True ∧
          leak.Has [] (fun s => P s ∧ Covers networkId ids s ∧ Deleted ids s) g)
        (leak.Has [] P)) := by
  apply exceptBind (Q := fun op => leak.Has [] fun s =>
    P s ∧ Covers networkId ((op.map recordIds).getD []) s ∧
      Allocated ((op.map recordIds).getD []) s)
  · refine triple_orInternal ((triple_quiet_learn (.findById networkId) rfl
      (fun r s => ∀ op, r = .ok op → Covers networkId ((op.map recordIds).getD []) s ∧
        Allocated ((op.map recordIds).getD []) s)
      (fun _ _ _ h hr op heq => ⟨h.covers (hr op heq).1, h.allocated (hr op heq).2⟩) ?_).conseq
        (fun _ h => h) ?_)
    · intro pick s holdings r s' hinv hP hperform op heq
      cases hperform
      cases heq
      exact ⟨⟨htorn s hP, fun k hk => hk⟩, hinv.alloc networkId⟩
    · intro r g hg
      cases r with
      | ok op => exact hg.mono fun s h => ⟨h.1, h.2 op rfl⟩
      | error => exact hg.mono fun s h => h.1
  intro op
  cases op with
  | none =>
    exact ret fun g hg => ⟨[], trivial, hg.mono fun s h =>
      ⟨h.1, h.2.1, by simp [Deleted]⟩⟩
  | some op =>
    apply exceptBind
    · exact (triple_deleteRecordsOrErr op.recordIds fun s h => h.2.2).conseq (fun _ h => h)
        (orElse_mono (fun _ _ h => h) fun g hg => hg.mono fun s h => h.1)
    intro _
    refine triple_orInternal ((triple_deleteOperational networkId (fun s h => h.1.2.1)
      fun s h => h.2).conseq (fun _ h => h) fun r g hg => ?_)
    cases r with
    | ok => exact ⟨op.recordIds, trivial, hg.mono fun s h => ⟨h.1.1, h.1.2.1, h.2⟩⟩
    | error => exact hg.mono fun s h => h.1.1

theorem triple_putAcmeChallenge (networkId : String) (values : List String) :
    leak.Triple (leak.Has [] P) (putAcmeChallenge networkId values).run (Clean P) := by
  have hfqdn : leak.Triple (leak.Has [] P) (networkFqdn networkId).run (Clean P) := by
    apply exceptBind (triple_orInternal_clean (triple_quiet rfl))
    intro op
    exact ret fun g hg => hg
  apply exceptBind (hfqdn.mapError _)
  intro fqdn
  cases fqdn with
  | none => exact ret fun g hg => hg
  | some fqdn => exact (triple_setAcmeChallenge networkId _ values).mapError _

/-! ## The passes -/

theorem triple_reapNetwork (net : NetworkView) (htorn : ∀ s, P s → s.directory.TornDown net.id) :
    leak.Triple (leak.Has [] P) (reapNetwork net) fun _ => leak.Has [] P := by
  apply bind (triple_deleteRecords net.id htorn)
  intro r
  cases r with
  | error => exact ret fun g hg => hg
  | ok =>
    apply of_exists
    intro ids _
    apply bind (triple_transition_deprovisioned
      (triple_finishDeprovision net.id (fun s h => h.2.1) fun s h => h.2.2) (triple_quiet rfl))
    intro _
    exact ret fun g hg => hg.mono fun s h => h.1

/-- A listing teaches the task what holds of the networks in the requested state. -/
theorem triple_listNetworks {state : ProvisioningState} {region : String}
    {K : NetworkView → Cloud → Prop} (hstable : ∀ net s s', Evolves s s' → K net s → K net s')
    (hlist : ∀ (s : Cloud) afterId limit,
      ∀ net ∈ s.directory.networks.listForReconcile state region afterId limit, K net s)
    (afterId : Option String) :
    leak.Triple (leak.Has held P) (issue (.listNetworks state region afterId pageLimit)) fun r =>
      leak.Has held fun s => P s ∧ ∀ page, r = .ok page → ∀ net ∈ page, K net s := by
  apply triple_quiet_learn (.listNetworks state region afterId pageLimit) rfl
  · exact fun r s s' h hr page heq net hnet => hstable net s s' h (hr page heq net hnet)
  · intro pick s holdings r s' _ _ hperform page heq
    cases hperform
    cases heq
    exact hlist s afterId pageLimit

/-- A task that has returned holds no record. -/
theorem triple_body : leak.Bodies fun g _ => g.ghost = [] := by
  intro task _
  cases task with
  | provisionerTick region subdomainParent pages =>
    apply bind (triple_drain (K := fun _ _ => True) ?_
      (triple_listNetworks (fun _ _ _ _ h => h) fun _ _ _ _ _ => trivial) pages none)
    · intro _
      exact ret fun g hg => hg.1
    · intro net P _
      exact triple_provisionNetwork (orElse_const.mpr (triple_quiet rfl))
        (fun _ _ h => h) (fun _ ip _ => triple_provision net.id _ ip)
        (triple_transition_active (triple_quiet rfl) (triple_quiet rfl))
  | reaperTick region pages =>
    apply bind (triple_drain (K := fun net s => s.directory.TornDown net.id)
      (fun net P hP => triple_reapNetwork net hP)
      (triple_listNetworks (fun net s s' h => h.tornDown net.id) ?_) pages none)
    · intro _
      exact ret fun g hg => hg.1
    · intro s afterId limit net hnet
      exact .inr (NetworkTable.state_of_mem_listForReconcile hnet)
  | reportIp networkId ip =>
    exact (orElse_const.mp ((triple_reportIp networkId ip).mapError _)).conseq (fun _ h => h)
      fun _ _ h => h.1
  | setAcmeChallenge networkId values =>
    exact (orElse_const.mp (triple_putAcmeChallenge networkId values)).conseq (fun _ h => h)
      fun _ _ h => h.1
  | clearAcmeChallenge networkId =>
    exact (orElse_const.mp ((triple_clearAcmeChallenge networkId).mapError _)).conseq (fun _ h => h)
      fun _ _ h => h.1

/-! ## Whole runs -/

def Succeeds (_ : world.Config) : world.Action → Prop
  | .step _ choice => choice.fails = false
  | _ => True

instance (cfg : world.Config) : DecidablePred (Succeeds cfg)
  | .step _ choice => inferInstanceAs (Decidable (choice.fails = false))
  | .spawn _ => isTrue trivial
  | .env _ => isTrue trivial

def Timely (cfg : world.Config) : world.Action → Prop
  | .step i _ => ∀ c ∈ cfg.threads[i]?.bind World.Thread.pending, GoodCall cfg.state c
  | _ => True

instance (s : Cloud) : DecidablePred (GoodCall s)
  | .claimARecord .. => inferInstanceAs (Decidable (_ → _))
  | .casAcmeRecords .. => inferInstanceAs (Decidable (_ → _ ∧ _))
  | .findById _ | .recordIp .. | .deleteOperational _ | .findARecord _ | .upsertRecord ..
  | .deleteRecord _ | .listNetworks .. | .markNetworkActive _ | .finishDeprovision _
  | .networkState _ => isTrue trivial

instance (cfg : world.Config) : DecidablePred (Timely cfg)
  | .step _ _ => inferInstanceAs (Decidable (∀ _, _))
  | .spawn _ => isTrue trivial
  | .env _ => isTrue trivial

def Cloud.unpublished (directory : Directory) : Cloud := ⟨directory, ∅, .empty⟩

theorem accounted_unpublished (directory : Directory) : Accounted (.unpublished directory) ∅ where
  leak := by simp [unpublished, Zone.empty]
  alloc := by simp [unpublished, stored]
  gone := by simp [unpublished, stored]

theorem guard_of_timely {cfg : world.Config} {a : world.Action}
    (h : Succeeds cfg a ∧ Timely cfg a) : leak.guard cfg a := by
  cases a with
  | spawn | env => trivial
  | step i choice =>
    intro th hth c hc
    exact ⟨h.1, h.2 c (bind_eq_some_iff.mpr ⟨th, hth, hc⟩)⟩

/-- In every run without failures in which records enter rows of live networks
only and no challenge update loses its compare-and-set: once every task has
returned, no record of a deleted network exists. -/
theorem no_record_of_retired (directory : Directory) (acts : List world.Action) (cfg : world.Config)
    (hrun : world.system.run (.start (.unpublished directory)) acts = some cfg)
    (hsucceeds : world.system.Along Succeeds (.start (.unpublished directory)) acts)
    (htimely : world.system.Along Timely (.start (.unpublished directory)) acts)
    (hdone : ∀ th ∈ cfg.threads, th.done)
    (networkId : String) (hretired : networkId ∈ cfg.state.directory.retired) :
    ∀ id rec, cfg.state.zone.records.get? id = some rec → rec.createdFor ≠ networkId := by
  have halong := (hsucceeds.and _ htimely).mono _ fun _ _ => guard_of_timely
  obtain ⟨holdings, hinv, hfin, -⟩ := inv_of_all_done triple_body
    (accounted_unpublished directory) halong hrun hdone
  rintro id rec hrec rfl
  rcases hinv.leak id rec hrec with hstored | ⟨held, hheld, hid⟩
  · rw [hinv.gone _ hretired id hstored] at hrec
    cases hrec
  · obtain ⟨g, -, hg, hempty⟩ := hfin held hheld
    rw [← hg, hempty] at hid
    cases hid

def sampleDirectory : Directory where
  networks := (∅ : NetworkTable).insert "net-1" ⟨"tenant-1", "home", "home", "eu", .provisioning⟩
  tenants := ∅
  retired := []
  retired_gone := by simp

def calls (i n : ℕ) : List world.Action := List.replicate n (.step i ⟨false, 0⟩)

/-- The daemon reports its address, and a provisioner pass has created the A record. -/
def createARecord : List world.Action :=
  .spawn (.reportIp "net-1" "192.0.2.1") :: calls 0 2 ++
    .spawn (.provisionerTick "eu" "wardnet.net" 1) :: calls 1 4

/-- The network is deleted, and a reaper pass has read its row. -/
def readForTeardown : List world.Action :=
  .env (.setDeprovisioning "net-1") :: .spawn (.reaperTick "eu" 1) :: calls 2 2

/-- The provisioner claims its record in the row that the reaper has read but not
dropped yet: the claim succeeds, the row goes, and nobody knows the record. -/
theorem claim_during_teardown_leaks : ∃ (acts : List world.Action) (cfg : world.Config),
      world.system.run (.start (.unpublished sampleDirectory)) acts = some cfg ∧
      world.system.Along Succeeds (.start (.unpublished sampleDirectory)) acts ∧
      (∀ th ∈ cfg.threads, th.done) ∧
      "net-1" ∈ cfg.state.directory.retired ∧
      cfg.state.zone.records.get? 0 = some ⟨.a, "home.wardnet.net", "192.0.2.1", "net-1"⟩ :=
  ⟨createARecord ++ readForTeardown ++ calls 1 1 ++ calls 2 2 ++ calls 1 2, _,
    System.run_eq_some_runD _ (by decide), by decide, by decide, by decide, by decide⟩

/-- Claimed in time, the record is torn down with its network. -/
theorem no_record_of_retired_sample : ∃ cfg : world.Config,
      world.system.run (.start (.unpublished sampleDirectory))
        (createARecord ++ calls 1 2 ++ readForTeardown ++ calls 2 3) = some cfg ∧
      "net-1" ∈ cfg.state.directory.retired ∧
      ∀ id rec, cfg.state.zone.records.get? id = some rec → rec.createdFor ≠ "net-1" :=
  ⟨_, System.run_eq_some_runD _ (by decide), by decide,
    no_record_of_retired sampleDirectory _ _ (System.run_eq_some_runD _ (by decide)) (by decide)
      (by decide) (by decide) "net-1" (by decide)⟩

end Wardnet.Ddns
