/-
# Active means published

The passes and reports, one call after the other, under the rely condition of `Published`. A
provisioner that has read the row of a network knows that the row stays until teardown; after
its claim, won or lost, a record is stored; and the stored record outlives everything but the
teardown. Only then does it report the network as active.
-/

import Wardnet.Ddns.Published

namespace Wardnet.Ddns.Active

open Base Tenants Ownership Rely OperationalTable Cloud Option

variable {parent : String} {ownerOf : String → String} {P : Cloud → Prop} {x : Ghost}
  {n name : String} {id : RecordId}

/-! ## Calls -/

/-- The calls that keep the invariant as soon as they are safe. -/
def quiet : Call → Bool
  | .claimARecord .. | .casAcmeRecords .. | .markNetworkActive _ => false
  | _ => true

theorem Published.quiet {s s' : Cloud} {choice : Choice} {c : Call} {r : c.Resp}
    (h : Published parent ownerOf s) (hquiet : quiet c = true) (hsafe : Safe parent ownerOf s c)
    (hexec : Cloud.exec choice c s = some (r, s')) : Published parent ownerOf s' := by
  unfold exec at hexec
  split at hexec
  · cases hexec
    exact h
  have hdrifts := drifts_of_perform hsafe hexec
  cases c with
  | findById | listNetworks | networkState =>
    cases hexec
    exact h
  | recordIp networkId ip =>
    cases hexec
    exact h.recordIp networkId ip
  | deleteOperational networkId =>
    cases hexec
    exact h.deleteOperational hsafe
  | findARecord fqdn =>
    obtain ⟨rfl, -⟩ := perform_findARecord hexec
    exact h
  | upsertRecord networkId type fqdn content existing =>
    cases existing with
    | none =>
      cases hexec
      exact h.zone hdrifts
    | some id =>
      obtain ⟨-, -, rfl⟩ | ⟨-, -, rfl⟩ := perform_update hexec
      · exact h.zone hdrifts
      · exact h
  | deleteRecord id =>
    cases hexec
    exact h.zone hdrifts
  | finishDeprovision networkId =>
    cases hexec
    have hold : ∀ n row, (s.directory.finishDeprovision networkId).2.networks.get? n = some row →
        s.directory.networks.get? n = some row := by
      intro n row hrow
      unfold Directory.finishDeprovision at hrow
      split at hrow
      · simp only [NetworkTable.deleteIfDeprovisioning, Store.get?_deleteWhere] at hrow
        exact (filter_eq_some_iff.mp hrow).1
      · exact hrow
    exact h.drifts hdrifts rfl (fun n row hrow => h.reserved n row (hold n row hrow))
      fun n row hrow => h.active n row (hold n row hrow)
  | claimARecord | casAcmeRecords | markNetworkActive => cases hquiet

theorem triple_call (c : Call) (y : c.Resp → Ghost) (F : c.Resp → Cloud → Prop)
    (hshows : Shows x c) (hstable : ∀ r s s', Drifts parent ownerOf s s' → F r s → F r s')
    (hcall : ∀ s choice r s', Published parent ownerOf s → x.Fits parent ownerOf s → P s →
      Cloud.exec choice c s = some (r, s') → Drifts parent ownerOf s s' →
      Published parent ownerOf s' ∧ (y r).Fits parent ownerOf s' ∧ F r s') :
    (publication parent ownerOf).Triple ((publication parent ownerOf).Has x P) (issue c) fun r =>
      (publication parent ownerOf).Has (y r) fun s => P s ∧ F r s := by
  apply Triple.call (y := y) (F := F) hshows hstable
  intro s others choice r s' hinv hP hsafe hexec
  have hdrifts := drifts_of_exec hsafe hexec
  obtain ⟨hpublished, hy, hF⟩ :=
    hcall s choice r s' hinv.1 (hinv.2 x (Set.mem_insert _ _)) hP hexec hdrifts
  refine ⟨⟨hpublished, ?_⟩, hF, fun g hg => hg⟩
  rintro g (rfl | hg)
  · exact hy
  · exact (hinv.2 g (Set.mem_insert_of_mem _ hg)).drifts hdrifts

theorem triple_quiet (c : Call) (hquiet : quiet c = true) (y : c.Resp → Ghost)
    (F : c.Resp → Cloud → Prop) (hshows : Shows x c)
    (hstable : ∀ r s s', Drifts parent ownerOf s s' → F r s → F r s')
    (hlearn : ∀ s choice r s', Published parent ownerOf s → x.Fits parent ownerOf s → P s →
      Cloud.exec choice c s = some (r, s') → Drifts parent ownerOf s s' →
      (y r).Fits parent ownerOf s' ∧ F r s') :
    (publication parent ownerOf).Triple ((publication parent ownerOf).Has x P) (issue c) fun r =>
      (publication parent ownerOf).Has (y r) fun s => P s ∧ F r s := by
  apply triple_call c y F hshows hstable
  intro s choice r s' hpublished hx hP hexec hdrifts
  exact ⟨hpublished.quiet hquiet (safe_of_shows hx hshows) hexec,
    hlearn s choice r s' hpublished hx hP hexec hdrifts⟩

theorem triple_settle (c : Call) (hquiet : quiet c = true) (hshows : Shows x c) :
    (publication parent ownerOf).Triple ((publication parent ownerOf).Has x P) (issue c) fun _ =>
      (publication parent ownerOf).Has .idle P :=
  (triple_quiet c hquiet (fun _ => .idle) (fun _ _ => True) hshows (fun _ _ _ _ h => h)
    fun _ _ _ _ _ _ _ _ _ => ⟨trivial, trivial⟩).conseq (fun _ h => h)
    fun _ _ hg => hg.mono fun _ h => h.1

/-! ## Publishing -/

/-- A record found under the name of the network may be claimed for it. -/
theorem triple_findARecord (hnames : ∀ s, P s → Names parent ownerOf n name s) :
    (publication parent ownerOf).Triple ((publication parent ownerOf).Has .idle P)
      (issue (.findARecord name))
      (Rely.orElse (fun existing => (publication parent ownerOf).Has
          (existing.elim .idle (.holds name)) fun s =>
            P s ∧ ∀ id ∈ existing, Held parent ownerOf n name id s)
        ((publication parent ownerOf).Has .idle P)) := by
  refine (triple_quiet (.findARecord name) rfl (fun r => r.toOption.join.elim .idle (.holds name))
    (fun r s => ∀ id ∈ r.toOption.join, Held parent ownerOf n name id s) trivial
    (fun r s s' hdrifts h id hid => (h id hid).drifts hdrifts) ?_).conseq (fun _ h => h) ?_
  · intro s choice r s' _ _ hP hexec _
    unfold exec at hexec
    split at hexec
    · cases hexec
      exact ⟨trivial, by simp [refuse, Except.toOption]⟩
    obtain ⟨rfl, ⟨-, rfl⟩ | ⟨hpick, rfl⟩⟩ := perform_findARecord hexec
    · exact ⟨trivial, by simp [Except.toOption]⟩
    · obtain ⟨rec, hrec, htype, hname⟩ := Zone.mem_aRecords_iff.mp hpick
      have hfits : Fits choice.pick name s' := by
        refine ⟨s'.zone.id_lt _ _ hrec, fun rec' hrec' => ?_⟩
        rw [hrec] at hrec'
        cases hrec'
        exact ⟨htype, hname⟩
      refine ⟨hfits, ?_⟩
      rintro _ ⟨⟩
      exact ⟨hfits, hnames s' hP, .inr (Store.contains_eq_true_iff.mpr ⟨rec, hrec⟩)⟩
  · intro r g hg
    cases r with
    | ok existing => exact hg
    | error => exact hg.mono fun _ h => h.1

/-- A record that is rewritten or created may be claimed. -/
theorem triple_upsertRecord (hnames : ∀ s, P s → Names parent ownerOf n name s) (ip : String)
    (existing : Option RecordId) :
    (publication parent ownerOf).Triple
      ((publication parent ownerOf).Has (existing.elim .idle (.holds name)) fun s =>
        P s ∧ ∀ id ∈ existing, Held parent ownerOf n name id s)
      (issue (.upsertRecord n .a name ip existing))
      (Rely.orElse (fun id => (publication parent ownerOf).Has .idle fun s =>
          P s ∧ Held parent ownerOf n name id s)
        ((publication parent ownerOf).Has .idle P)) := by
  have hshows : Shows (existing.elim .idle (.holds name))
    (.upsertRecord n .a name ip existing) := by
    cases existing with
    | none => trivial
    | some id => exact ⟨rfl, rfl⟩
  refine (triple_quiet (.upsertRecord n .a name ip existing) rfl (fun _ => .idle)
    (fun r s => ∀ id ∈ r.toOption, Held parent ownerOf n name id s) hshows
    (fun r s s' hdrifts h id hid => (h id hid).drifts hdrifts) ?_).conseq (fun _ h => h) ?_
  · intro s choice r s' _ _ hP hexec hdrifts
    refine ⟨trivial, ?_⟩
    unfold exec at hexec
    split at hexec
    · cases hexec
      simp [refuse, Except.toOption]
    cases existing with
    | some id =>
      obtain ⟨-, rfl, -⟩ | ⟨-, rfl, -⟩ := perform_update hexec
      · rintro _ ⟨⟩
        exact (hP.2 id rfl).drifts hdrifts
      · simp [Except.toOption]
    | none =>
      cases hexec
      rintro _ ⟨⟩
      have hcreated : (s.zone.create ⟨.a, name, ip, n⟩).2.records.get? s.zone.nextId =
          some ⟨.a, name, ip, n⟩ := Store.get?_insert_self ..
      refine ⟨⟨Nat.lt_succ_self _, fun rec hrec => ?_⟩, (hnames s hP.1).drifts hdrifts,
        .inr (Store.contains_eq_true_iff.mpr ⟨_, hcreated⟩)⟩
      obtain rfl := some.inj (hcreated.symm.trans hrec)
      exact ⟨rfl, rfl⟩
  · intro r g hg
    cases r with
    | ok id => exact hg.mono fun _ h => ⟨h.1.1, h.2 id rfl⟩
    | error => exact hg.mono fun _ h => h.1.1

/-- Won or lost, after the claim a record is stored. -/
theorem triple_claimARecord (hrowed : ∀ s, P s → Rowed n s)
    (hheld : ∀ s, P s → Held parent ownerOf n name id s) :
    (publication parent ownerOf).Triple ((publication parent ownerOf).Has .idle P)
      (issue (.claimARecord n name id))
      (Rely.orElse (fun _ => (publication parent ownerOf).Has .idle fun s => P s ∧ Claimed n s)
        ((publication parent ownerOf).Has .idle P)) := by
  refine (triple_call (.claimARecord n name id) (fun _ => .idle)
    (fun r s => r.toOption ≠ none → Claimed n s) trivial
    (fun r s s' hdrifts h hr => (h hr).drifts hdrifts) ?_).conseq (fun _ h => h) ?_
  · intro s choice r s' hpublished _ hP hexec _
    unfold exec at hexec
    split at hexec
    · cases hexec
      exact ⟨hpublished, trivial, by simp [refuse, Except.toOption]⟩
    cases hexec
    refine ⟨hpublished.claim (hheld s hP), trivial, fun _ => ?_⟩
    refine (hrowed s hP).imp_right fun hrow => ?_
    obtain ⟨op, hop⟩ := hrow
    cases hid : op.cfARecordId with
    | none =>
      exact ⟨id, by
        simp [aRecordId, get?_claimARecord_of_unclaimed hop hid]⟩
    | some winner =>
      have hwinner : s.operational.aRecordId n = some winner := by
        simp [aRecordId, hop, hid]
      exact ⟨winner, by
        simp only [claimARecord_of_claimed hwinner]
        exact hwinner⟩
  · intro r g hg
    cases r with
    | ok won => exact hg.mono fun _ h => ⟨h.1, h.2 (by simp [Except.toOption])⟩
    | error => exact hg.mono fun _ h => h.1

/-- The loser reads which record won; its own is spare unless it is that one. -/
theorem triple_findWinner (hclaimed : ∀ s, P s → Claimed n s)
    (hheld : ∀ s, P s → Held parent ownerOf n name id s) :
    (publication parent ownerOf).Triple ((publication parent ownerOf).Has .idle P)
      (issue (.findById n))
      (Rely.orElse (fun op => (publication parent ownerOf).Has
          (if op.bind Operational.cfARecordId = some id then .idle else .spare n id) P)
        ((publication parent ownerOf).Has .idle P)) := by
  refine (triple_quiet (.findById n) rfl (fun r => r.toOption.elim .idle fun op =>
      if op.bind Operational.cfARecordId = some id then .idle else .spare n id)
    (fun _ _ => True) trivial (fun _ _ _ _ h => h) ?_).conseq (fun _ h => h) ?_
  · intro s choice r s' _ _ hP hexec _
    refine ⟨?_, trivial⟩
    unfold exec at hexec
    split at hexec
    · cases hexec
      trivial
    cases hexec
    simp only [Except.toOption, elim_some]
    split
    · trivial
    · rename_i hlost
      obtain ⟨hfits, hnames, -⟩ := hheld s hP
      refine ⟨name, hfits, hnames, (hclaimed s hP).imp_right fun hstored => ?_⟩
      obtain ⟨winner, hwinner⟩ := hstored
      exact ⟨winner, fun heq => hlost (heq ▸ hwinner), hwinner⟩
  · intro r g hg
    cases r with
    | ok | error => exact hg.mono fun _ h => h.1

theorem triple_provision (hnames : ∀ s, P s → Names parent ownerOf n name s)
    (hrowed : ∀ s, P s → Rowed n s) (ip : String) :
    (publication parent ownerOf).Triple ((publication parent ownerOf).Has .idle P)
      (provision n name ip).run
      (Rely.orElse (fun _ => (publication parent ownerOf).Has .idle fun s => P s ∧ Claimed n s)
        ((publication parent ownerOf).Has .idle P)) := by
  apply Triple.exceptBind (triple_orInternal (triple_findARecord hnames))
  intro existing
  apply Triple.exceptBind (triple_orInternal (triple_upsertRecord hnames ip existing))
  intro id
  apply Triple.exceptBind (triple_orInternal ((triple_claimARecord
    (fun s h => hrowed s h.1) fun s h => h.2).conseq (fun _ h => h)
      (orElse_mono (fun _ _ h => h) fun _ hg => hg.mono fun _ h => h.1)))
  intro won
  cases won with
  | true => exact Triple.ret fun g hg => hg.mono fun _ h => ⟨h.1.1, h.2⟩
  | false =>
    apply Triple.exceptBind (triple_orInternal ((triple_findWinner
      (fun s h => h.2) fun s h => h.1.2).conseq (fun _ h => h)
        (orElse_mono (fun _ _ h => h) fun _ hg => hg.mono fun _ h => h.1.1)))
    intro op
    by_cases hwon : op.bind Operational.cfARecordId = some id
    · simp only [hwon, if_true]
      exact Triple.ret fun g hg => hg.mono fun _ h => ⟨h.1.1, h.2⟩
    · simp only [hwon, if_false]
      apply Triple.exceptBind (triple_settle (.deleteRecord id) rfl (.inl ⟨n, rfl⟩)).lift
      intro _
      exact Triple.ret fun g hg => hg.mono fun _ h => ⟨h.1.1, h.2⟩

/-- A network with a stored record may become active. -/
theorem triple_markNetworkActive (hclaimed : ∀ s, P s → Claimed n s) :
    (publication parent ownerOf).Keeps .idle P (issue (.markNetworkActive n)) := by
  refine (triple_call (.markNetworkActive n) (fun _ => .idle) (fun _ _ => True) trivial
    (fun _ _ _ _ h => h) ?_).conseq (fun _ h => h) fun _ _ hg => hg.mono fun _ h => h.1
  intro s choice r s' hpublished _ hP hexec hdrifts
  refine ⟨?_, trivial, trivial⟩
  unfold exec at hexec
  split at hexec
  · cases hexec
    exact hpublished
  cases hexec
  have hold : ∀ m row, (s.directory.markActive n).2.networks.get? m = some row →
      ∃ row', s.directory.networks.get? m = some row' ∧ row.slug = row'.slug ∧
        (row.provisioningState = .active → row'.provisioningState = .active ∨
          m = n ∧ row'.provisioningState = .provisioning) := by
    intro m row hrow
    obtain ⟨row', hrow', rfl⟩ := map_eq_some_iff.mp
      ((Store.get?_updateWhere ..).symm.trans hrow)
    refine ⟨row', hrow', ?_⟩
    split
    · rename_i hmarked
      exact ⟨rfl, fun _ => .inr (of_decide_eq_true hmarked)⟩
    · exact ⟨rfl, .inl⟩
  apply hpublished.drifts hdrifts rfl
  · intro m row hrow
    obtain ⟨row', hrow', hslug, -⟩ := hold m row hrow
    rw [hslug]
    exact hpublished.reserved m row' hrow'
  · intro m row hrow hstate
    obtain ⟨row', hrow', -, hactive⟩ := hold m row hrow
    rcases hactive hstate with hactive | ⟨rfl, hprovisioning⟩
    · exact hpublished.active m row' hrow' hactive
    · have hlive : s.directory.Live m := by simp [Directory.Live, hrow', hprovisioning]
      exact (hclaimed s hP).resolve_left hlive.not_tornDown

theorem triple_provisionNetwork (net : NetworkView)
    (hnames : ∀ s, P s → Names parent ownerOf net.id (fqdnOf net.slug parent) s) :
    (publication parent ownerOf).Keeps .idle P (provisionNetwork parent net) := by
  apply Ddns.triple_provisionNetwork (A := fun op => (publication parent ownerOf).Has .idle fun s =>
      P s ∧ (op ≠ none → Rowed net.id s))
    (B := (publication parent ownerOf).Has .idle fun s => P s ∧ Claimed net.id s)
  · refine (triple_quiet (.findById net.id) rfl (fun _ => .idle)
      (fun r s => r.toOption.join ≠ none → Rowed net.id s) trivial
      (fun r s s' hdrifts h hr => (h hr).drifts hdrifts) ?_).conseq (fun _ h => h) ?_
    · intro s choice r s' _ _ _ hexec _
      refine ⟨trivial, fun hsome => ?_⟩
      unfold exec at hexec
      split at hexec
      · cases hexec
        exact absurd rfl hsome
      cases hexec
      exact .inr (ne_none_iff_exists'.mp hsome)
    · intro r g hg
      cases r with
      | ok op => exact hg
      | error => exact hg.mono fun _ h => h.1
  · exact fun op g hg => hg.mono fun _ h => h.1
  · intro op ip hip
    have hop : op ≠ none := by
      rintro rfl
      cases hip
    exact (triple_provision (fun s h => hnames s h.1) (fun s h => h.2 hop) ip).conseq
      (fun _ h => h) (orElse_mono (fun _ _ hg => hg.mono fun _ h => ⟨h.1.1, h.2⟩)
        fun _ hg => hg.mono fun _ h => h.1)
  · exact (triple_transition_active (triple_markNetworkActive fun s h => h.2)
      (triple_settle (.networkState net.id) rfl trivial)).conseq (fun _ h => h)
      fun _ _ hg => hg.mono fun _ h => h.1

/-! ## Teardown and reports -/

theorem triple_deleteRecordsOrErr {ids all : List RecordId} (hall : ∀ id ∈ ids, id ∈ all) :
    (publication parent ownerOf).Triple ((publication parent ownerOf).Has (.reaps n all) P)
      (deleteRecordsOrErr ids).run
      (Rely.orElse (fun _ => (publication parent ownerOf).Has (.reaps n all) P)
        ((publication parent ownerOf).Has .idle P)) := by
  induction ids with
  | nil => exact Triple.ret fun g hg => hg
  | cons id ids ih =>
    apply Triple.exceptBind
    · apply triple_orInternal
      refine (triple_quiet (.deleteRecord id) rfl
        (fun r => r.toOption.elim .idle fun _ => .reaps n all) (fun _ _ => True)
        (.inr ⟨n, all, rfl, hall id List.mem_cons_self⟩) (fun _ _ _ _ h => h) ?_).conseq
        (fun _ h => h) ?_
      · intro s choice r s' _ hx _ _ hdrifts
        refine ⟨?_, trivial⟩
        cases r with
        | ok => exact hx.drifts hdrifts
        | error => trivial
      · intro r g hg
        cases r with
        | ok | error => exact hg.mono fun _ h => h.1
    · intro _
      exact ih fun k hk => hall k (List.mem_cons_of_mem _ hk)

/-- The reaper may delete what the row of a torn-down network names, and the row. -/
theorem triple_deleteRecords (htorn : ∀ s, P s → s.directory.TornDown n) :
    (publication parent ownerOf).Keeps .idle P (deleteRecords n).run := by
  apply Triple.orElse_const.mp
  apply Triple.exceptBind (Q := fun op => (publication parent ownerOf).Has
    (op.elim .idle fun op => .reaps n op.recordIds) P)
  · apply triple_orInternal
    refine (triple_quiet (.findById n) rfl
      (fun r => r.toOption.join.elim .idle fun op => .reaps n op.recordIds) (fun _ _ => True)
      trivial (fun _ _ _ _ h => h) ?_).conseq (fun _ h => h) ?_
    · intro s choice r s' hpublished _ hP hexec _
      refine ⟨?_, trivial⟩
      unfold exec at hexec
      split at hexec
      · cases hexec
        trivial
      cases hexec
      cases hop : s.operational.get? n with
      | none => trivial
      | some op =>
        refine ⟨htorn s hP, fun id hid => ?_⟩
        obtain ⟨hacme, hstored⟩ := hpublished.rows n op hop
        rw [Operational.recordIds, hacme, List.append_nil, mem_toList] at hid
        obtain ⟨name, -, hfits, hnames⟩ := hstored id hid
        exact ⟨name, hfits, hnames, .inl (htorn s hP)⟩
    · intro r g hg
      cases r with
      | ok | error => exact hg.mono fun _ h => h.1
  intro op
  cases op with
  | none => exact Triple.ret fun g hg => hg
  | some op =>
    apply Triple.exceptBind (triple_deleteRecordsOrErr fun id hid => hid)
    intro _
    exact triple_orInternal (Triple.orElse_const.mpr
      (triple_settle (.deleteOperational n) rfl ⟨op.recordIds, rfl⟩))

theorem triple_reapNetwork (net : NetworkView) (htorn : ∀ s, P s → s.directory.TornDown net.id) :
    (publication parent ownerOf).Keeps .idle P (reapNetwork net) := by
  apply Triple.bind (triple_deleteRecords htorn)
  intro r
  cases r with
  | error => exact Triple.ret fun g hg => hg
  | ok =>
    apply Triple.bind (triple_transition_deprovisioned
      (triple_settle (.finishDeprovision net.id) rfl trivial)
      (triple_settle (.networkState net.id) rfl trivial))
    intro _
    exact Triple.ret fun g hg => hg

/-- A report rewrites the record that it found in the row, under the name it found there. -/
theorem triple_reportIp (ip : String) :
    (publication parent ownerOf).Keeps .idle P (reportIp n ip).run := by
  apply Triple.orElse_const.mp
  apply Triple.exceptBind (Q := fun op => (publication parent ownerOf).Has
    ((reportRecord op).elim .idle fun found => .holds found.2 found.1) P)
  · apply triple_orInternal
    refine (triple_quiet (.findById n) rfl
      (fun r => (reportRecord r.toOption.join).elim .idle fun found => .holds found.2 found.1)
      (fun _ _ => True) trivial (fun _ _ _ _ h => h) ?_).conseq (fun _ h => h) ?_
    · intro s choice r s' hpublished _ _ hexec _
      refine ⟨?_, trivial⟩
      unfold exec at hexec
      split at hexec
      · cases hexec
        trivial
      cases hexec
      simp only [Except.toOption, join_some]
      cases hfound : reportRecord (s.operational.get? n) with
      | none => trivial
      | some found =>
        simp only [reportRecord, bind_eq_some_iff, map_eq_some_iff] at hfound
        obtain ⟨op, hop, id, hid, fqdn, hfqdn, rfl⟩ := hfound
        obtain ⟨name, hname, hfits, -⟩ := (hpublished.rows n op hop).2 id hid
        obtain rfl := some.inj (hfqdn.symm.trans hname)
        exact hfits
    · intro r g hg
      cases r with
      | ok | error => exact hg.mono fun _ h => h.1
  intro op
  have hstore : (publication parent ownerOf).Triple ((publication parent ownerOf).Has .idle P)
      (orInternal (issue (.recordIp n ip))).run
      (orElse (fun _ => (publication parent ownerOf).Has .idle P)
        ((publication parent ownerOf).Has .idle P)) :=
    triple_orInternal (Triple.orElse_const.mpr (triple_settle (.recordIp n ip) rfl trivial))
  cases hfound : reportRecord op with
  | none =>
    simp only [hfound]
    exact hstore
  | some found =>
    simp only [hfound]
    apply Triple.exceptBind (triple_orInternal (Triple.orElse_const.mpr
      (triple_settle (.upsertRecord n .a found.2 ip (some found.1)) rfl ⟨rfl, rfl⟩)))
    intro _
    exact hstore

/-! ## The passes -/

/-- A listing teaches the task what holds of the networks in the requested state. -/
theorem triple_listNetworks {state : ProvisioningState} {region : String}
    {K : NetworkView → Cloud → Prop}
    (hstable : ∀ net s s', Drifts parent ownerOf s s' → K net s → K net s')
    (hlist : ∀ s net row, Published parent ownerOf s →
      s.directory.networks.get? net.id = some row → row.provisioningState = state →
      row.slug = net.slug → K net s) (afterId : Option String) :
    (publication parent ownerOf).Triple ((publication parent ownerOf).Has .idle P)
      (issue (.listNetworks state region afterId pageLimit)) fun r =>
        (publication parent ownerOf).Has .idle fun s =>
          P s ∧ ∀ page, r = .ok page → ∀ net ∈ page, K net s := by
  apply triple_quiet (.listNetworks state region afterId pageLimit) rfl (fun _ => .idle) _ trivial
  · exact fun r s s' hdrifts hr page heq net hnet => hstable net s s' hdrifts (hr page heq net hnet)
  · intro s choice r s' hpublished _ _ hexec _
    refine ⟨trivial, fun page heq net hnet => ?_⟩
    subst heq
    unfold exec at hexec
    split at hexec
    · cases hexec
    cases hexec
    obtain ⟨row, hrow, hstate, hslug⟩ := NetworkTable.row_of_mem_listForReconcile hnet
    exact hlist s net row hpublished hrow hstate hslug

theorem triple_body : (publication parent ownerOf).Bodies fun _ _ => True := by
  intro task hspawns
  cases task with
  | provisionerTick region subdomainParent pages =>
    cases hspawns
    apply Triple.bind (triple_drain
      (K := fun net s => Names parent ownerOf net.id (fqdnOf net.slug parent) s)
      (fun net P hnames => triple_provisionNetwork net hnames)
      (triple_listNetworks (fun _ _ _ hdrifts h => h.drifts hdrifts) ?_) pages none)
    · exact fun _ => Triple.ret fun _ _ => trivial
    · intro s net row hpublished hrow _ hslug
      exact ⟨net.slug, rfl, hslug ▸ hpublished.reserved _ row hrow, .inr ⟨row, hrow, hslug⟩⟩
  | reaperTick region pages =>
    apply Triple.bind (triple_drain (K := fun net s => s.directory.TornDown net.id)
      (fun net P htorn => triple_reapNetwork net htorn)
      (triple_listNetworks (fun _ _ _ hdrifts h => hdrifts.tornDown h) ?_) pages none)
    · exact fun _ => Triple.ret fun _ _ => trivial
    · exact fun s net row _ hrow hstate _ => .inr ⟨row, hrow, hstate⟩
  | reportIp networkId ip =>
    exact Triple.bind (triple_reportIp ip) fun _ => Triple.ret fun _ _ => trivial
  | setAcmeChallenge | clearAcmeChallenge => exact hspawns.elim

/-! ## Whole runs -/

def Publishes (parent : String) : world.Action → Prop
  | .spawn (.provisionerTick _ subdomainParent _) => subdomainParent = parent
  | .spawn (.setAcmeChallenge ..) | .spawn (.clearAcmeChallenge _) => False
  | _ => True

instance (parent : String) : DecidablePred (Publishes parent)
  | .spawn (.provisionerTick _ subdomainParent _) =>
    inferInstanceAs (Decidable (subdomainParent = parent))
  | .spawn (.setAcmeChallenge ..) | .spawn (.clearAcmeChallenge _) => isFalse fun h => h
  | .spawn (.reaperTick ..) | .spawn (.reportIp ..) | .step .. | .env _ => isTrue trivial

/-- Networks are registered under slugs of their own: the slug determines the network. -/
def Reserved (ownerOf : String → String) : world.Action → Prop
  | .env (.registerNetwork n row) => ownerOf row.slug = n
  | _ => True

instance (ownerOf : String → String) : DecidablePred (Reserved ownerOf)
  | .env (.registerNetwork n row) => inferInstanceAs (Decidable (ownerOf row.slug = n))
  | .env (.markActive _) | .env (.setDeprovisioning _) | .env (.setDeprovisioningForTenant _)
  | .env (.finishDeprovision _) | .env (.loseSubscription _) | .spawn _ | .step .. => isTrue trivial

theorem admits_of_publishes {cfg : world.Config} {a : world.Action}
    (hpublishes : Publishes parent a)
    (hreserved : Reserved ownerOf a) : (publication parent ownerOf).admits cfg a := by
  cases a with
  | spawn task => cases task <;> exact hpublishes
  | step => trivial
  | env m => cases m <;> exact hreserved

/-- In every state that any run of passes and reports reaches, with any failures and any moves
of Tenants that use no slug for two networks: each network that Tenants holds as active has a
row, and the A record stored there exists under the name of the network. -/
theorem active_is_published (parent : String) (ownerOf : String → String) (s : Cloud)
    (hrows : s.operational = ∅)
    (hstart : ∀ n row, s.directory.networks.get? n = some row →
      row.provisioningState ≠ .active ∧ ownerOf row.slug = n)
    (acts : List world.Action) (cfg : world.Config)
    (hrun : world.system.run (.start s) acts = some cfg)
    (hpublishes : ∀ a ∈ acts, Publishes parent a) (hreserved : ∀ a ∈ acts, Reserved ownerOf a)
    (n : String) (row : NetworkRow) (hrow : cfg.state.directory.networks.get? n = some row)
    (hactive : row.provisioningState = .active) :
    ∃ op id rec, cfg.state.operational.get? n = some op ∧ op.cfARecordId = some id ∧
      cfg.state.zone.records.get? id = some rec ∧ rec.type = .a ∧
      rec.name = row.slug ++ "." ++ parent := by
  have hinit : (publication parent ownerOf).Inv s ∅ := by
    refine ⟨⟨fun n row hrow => (hstart n row hrow).2, ?_, ?_, ?_⟩, by simp⟩
    · simp [hrows]
    · simp [aRecordId, hrows]
    · exact fun n row hrow hstate => absurd hstate (hstart n row hrow).1
  have hadmits : world.system.Along (publication parent ownerOf).admits (.start s) acts :=
    world.system.along_of_forall_mem fun a ha _ =>
      admits_of_publishes (hpublishes a ha) (hreserved a ha)
  have halong := along_guard_of_shows triple_body hinit
    (fun hinv hx hshows => safe_of_shows (hinv.2 _ hx) hshows) hadmits hrun
  obtain ⟨-, ⟨hpublished, -⟩, -⟩ := inv_of_run triple_body hinit halong hrun
  obtain ⟨id, hid⟩ := hpublished.active n row hrow hactive
  have hlive : cfg.state.directory.Live n := by simp [Directory.Live, hrow, hactive]
  have hcontains := (hpublished.stored n id hid).resolve_left hlive.not_tornDown
  obtain ⟨rec, hrec⟩ := Store.contains_eq_true_iff.mp hcontains
  obtain ⟨op, hop, hid⟩ := bind_eq_some_iff.mp hid
  obtain ⟨name, -, hfits, slug, rfl, -, hslugged⟩ := (hpublished.rows n op hop).2 id hid
  obtain ⟨htype, hname⟩ := hfits.2 rec hrec
  exact ⟨op, id, rec, hop, hid, hrec, htype, by rw [hname, hslugged.slug_eq hrow]⟩

/-- One pass creates the record and fails to claim it; the next one adopts it. -/
def adoptAfterFailure : List world.Action :=
  createARecord ++ .step 1 ⟨true, 0⟩ :: .spawn (.provisionerTick "eu" "wardnet.net" 1) :: calls 2 6

theorem active_is_published_sample :
    ∃ (cfg : world.Config) (op : Operational) (id : RecordId) (rec : DnsRecord),
      world.system.run (.start (.unpublished sampleDirectory)) adoptAfterFailure = some cfg ∧
      cfg.state.operational.get? "net-1" = some op ∧ op.cfARecordId = some id ∧
      cfg.state.zone.records.get? id = some rec ∧ rec.type = .a ∧
      rec.name = "home" ++ "." ++ "wardnet.net" := by
  have hone : ∀ n row, sampleDirectory.networks.get? n = some row →
      row.provisioningState ≠ .active ∧ "net-1" = n := by
    intro n row hrow
    rcases Store.get?_of_insert hrow with ⟨rfl, rfl⟩ | ⟨-, hrow⟩
    · exact ⟨by decide, rfl⟩
    · cases hrow
  have hrun := world.system.run_eq_some_runD
    (show (world.system.run (.start (.unpublished sampleDirectory)) adoptAfterFailure).isSome by
      decide)
  exact ⟨_, (active_is_published "wardnet.net" (fun _ => "net-1") (.unpublished sampleDirectory) rfl
    hone adoptAfterFailure _ hrun (by decide) (by decide) "net-1"
    ⟨"tenant-1", "home", "home", "eu", .active⟩ (by decide) rfl).imp fun op hop =>
      hop.imp fun id hid => hid.imp fun rec hrec => ⟨hrun, hrec⟩⟩

end Wardnet.Ddns.Active
