/-
# Events that are delivered again

A handler that is stopped leaves its event unrecorded, and Stripe delivers the event again.
The second attempt may take another branch than the first: it may find the subscription
recorded, or the license converted. It still asks for the same tables, because what an event
asks for does not change by any part of it being done. So however often the handler is
stopped, the attempt that goes through ends where one alone would have ended.
-/

import Wardnet.Authority.Webhook

namespace Wardnet.Authority

open Base Billing Subscriptions Tenants Option

def terms (sub : Subscription) : SubscriptionStatus × Entitlement × Option Int :=
  (sub.status, sub.entitlement, sub.currentPeriodEnd)

namespace Tables

/-- The same refs, and licenses on the same terms. -/
structure Agree (v w : Tables) : Prop where
  billing : v.billing = w.billing
  license : ∀ n, (v.license n).map terms = (w.license n).map terms

variable {u v w : Tables} {data : SubscriptionData} {n stripeSubscriptionId : String}

theorem Agree.refl (v : Tables) : v.Agree v := ⟨rfl, fun _ => rfl⟩

theorem Agree.symm (h : v.Agree w) : w.Agree v := ⟨h.billing.symm, fun n => (h.license n).symm⟩

theorem Agree.trans (h : u.Agree v) (h' : v.Agree w) : u.Agree w :=
  ⟨h.billing.trans h'.billing, fun n => (h.license n).trans (h'.license n)⟩

theorem known_congr (h : v.billing = w.billing) :
    v.known stripeSubscriptionId = w.known stripeSubscriptionId := by
  obtain ⟨billing, license⟩ := v
  obtain ⟨billing', license'⟩ := w
  cases h
  rfl

theorem RecordedOnce.congr (honce : v.RecordedOnce) (h : v.billing = w.billing) :
    w.RecordedOnce := by
  obtain ⟨billing, license⟩ := v
  obtain ⟨billing', license'⟩ := w
  cases h
  exact honce

/-- A license that was granted is granted again on the same terms, or left alone. -/
theorem terms_grantedLicense {current : Option Subscription} {sub : Subscription}
    (h : grantedLicense data n current = some sub) :
    ∀ again ∈ grantedLicense data n (some sub), terms again = terms sub := by
  have hterms : ∃ before, terms sub =
      (data.status, data.entitlement.getD before, data.currentPeriodEnd) := by
    have hpaid : data.entitlement.map (grantedLicense.paid data n) = some sub →
        ∃ before, terms sub =
          (data.status, data.entitlement.getD before, data.currentPeriodEnd) := by
      intro hmap
      obtain ⟨entitlement, hentitlement, rfl⟩ := map_eq_some_iff.mp hmap
      exact ⟨entitlement, by simp [terms, grantedLicense.paid, hentitlement]⟩
    cases current with
    | none => exact hpaid h
    | some old =>
      simp only [grantedLicense] at h
      split at h
      · cases h
        exact ⟨old.entitlement, rfl⟩
      · exact hpaid h
  obtain ⟨before, hterms⟩ := hterms
  have hentitlement : sub.entitlement = data.entitlement.getD before :=
    congrArg (fun t => t.2.1) hterms
  intro again hagain
  simp only [grantedLicense] at hagain
  split at hagain
  · cases hagain
    rw [hterms]
    cases hdata : data.entitlement with
    | none => simp [terms, hentitlement, hdata]
    | some entitlement => simp [terms]
  · obtain ⟨entitlement, hdata, rfl⟩ := map_eq_some_iff.mp hagain
    rw [hterms, hdata]
    rfl

/-- Recording a subscription for the tenant that it is about. -/
theorem recordedOnce_refer (honce : v.RecordedOnce)
    (hn : (v.known data.stripeSubscriptionId).or data.tenantId = some n)
    (license : String → Option Subscription) :
    RecordedOnce ⟨Function.update v.billing n (some (refOf data)), license⟩ := by
  -- A tenant for whom the subscription was recorded before is this one.
  have hbefore : ∀ m, v.Records m data.stripeSubscriptionId → m = n := by
    intro m hm
    rw [(known_eq_some_iff honce).mpr hm] at hn
    exact some.inj hn
  have hrecords : ∀ m id, Records ⟨Function.update v.billing n (some (refOf data)), license⟩ m id →
      m = n ∧ id = data.stripeSubscriptionId ∨ m ≠ n ∧ v.Records m id := by
    rintro m id ⟨row, hrow, hid⟩
    by_cases heq : m = n
    · subst heq
      simp only [Function.update_self, some.injEq] at hrow
      subst hrow
      exact .inl ⟨rfl, (some.inj hid).symm⟩
    · simp only [Function.update_of_ne heq] at hrow
      exact .inr ⟨heq, row, hrow, hid⟩
  intro id m m' hm hm'
  rcases hrecords m id hm with ⟨rfl, rfl⟩ | ⟨hne, hold⟩
  · rcases hrecords m' _ hm' with ⟨rfl, -⟩ | ⟨-, hold'⟩
    · rfl
    · exact (hbefore m' hold').symm
  · rcases hrecords m' id hm' with ⟨rfl, rfl⟩ | ⟨-, hold'⟩
    · exact absurd (hbefore m hold) hne
    · exact honce id m m' hold hold'

theorem known_refer (honce : v.RecordedOnce)
    (hn : (v.known data.stripeSubscriptionId).or data.tenantId = some n)
    (license : String → Option Subscription) :
    known ⟨Function.update v.billing n (some (refOf data)), license⟩ data.stripeSubscriptionId =
      some n :=
  (known_eq_some_iff (recordedOnce_refer honce hn license)).mpr
    ⟨refOf data, Function.update_self .., rfl⟩

theorem ended_ended (v : Tables) (n : String) : (v.ended n).ended n = v.ended n := by
  simp [ended]

theorem overdue_overdue (v : Tables) (n : String) : (v.overdue n).overdue n = v.overdue n := by
  simp [overdue, map_map, Function.comp_def]

/-- An event that only asks for a license command asks for no more once that is done. -/
theorem target_of_command {kind : StripeEventKind} (stripeSubscriptionId : String)
    (change : Tables → String → Tables)
    (htarget : ∀ w : Tables, w.target kind = (w.known stripeSubscriptionId).elim w (change w))
    (hbilling : ∀ w n, (change w n).billing = w.billing)
    (hchange : ∀ w n, change (change w n) n = change w n) (v : Tables) :
    (v.target kind).billing = v.billing ∧ (v.target kind).target kind = v.target kind := by
  rw [htarget v]
  cases hknown : v.known stripeSubscriptionId with
  | none => exact ⟨rfl, by simp only [elim_none]; rw [htarget, hknown]; rfl⟩
  | some n =>
    refine ⟨hbilling v n, ?_⟩
    simp only [elim_some]
    rw [htarget, known_congr (hbilling v n), hknown, elim_some, hchange]

section

variable (kind : StripeEventKind)

/-- An event asks for a grant, or for something that is done once and for all without a
ref. -/
theorem target_cases (v : Tables) :
    (∃ data n, kind = .subscriptionUpsert data ∧ data.status ≠ .canceled ∧
      (v.known data.stripeSubscriptionId).or data.tenantId = some n) ∨
    (v.target kind).billing = v.billing ∧ (v.target kind).target kind = v.target kind := by
  cases kind with
  | subscriptionUpsert data =>
    by_cases hcanceled : data.status = .canceled
    · exact .inr (target_of_command data.stripeSubscriptionId ended
        (fun w => by simp [target, hcanceled]) (fun _ _ => rfl) ended_ended v)
    · cases hn : (v.known data.stripeSubscriptionId).or data.tenantId with
      | none => simp [target, hcanceled, hn]
      | some n => exact .inl ⟨data, n, rfl, hcanceled, hn⟩
  | subscriptionDeleted id =>
    exact .inr (target_of_command id ended (fun _ => rfl) (fun _ _ => rfl) ended_ended v)
  | paymentFailed id =>
    exact .inr (target_of_command id overdue (fun _ => rfl) (fun _ _ => rfl) overdue_overdue v)
  | cardSetupCompleted | catalogChanged | ignored => exact .inr ⟨rfl, rfl⟩

/-- What an event asks for once part of it is done: the same, license by license on the same
terms. -/
structure Resumes (v w : Tables) : Prop where
  recordedOnce : w.RecordedOnce
  target : (w.target kind).Agree (v.target kind)

variable {kind}

theorem resumes_granted (honce : v.RecordedOnce) (hlive : data.status ≠ .canceled)
    (hn : (v.known data.stripeSubscriptionId).or data.tenantId = some n) :
    Resumes (.subscriptionUpsert data) v
        ⟨(v.target (.subscriptionUpsert data)).billing, v.license⟩ ∧
      Resumes (.subscriptionUpsert data) v (v.target (.subscriptionUpsert data)) := by
  have htarget : v.target (.subscriptionUpsert data) = v.granted n data := by
    simp [Tables.target, hlive, hn]
  cases hgranted : grantedLicense data n (v.license n) with
  | none =>
    have hsame : v.target (.subscriptionUpsert data) = v := by
      rw [htarget, granted, hgranted]
    rw [hsame]
    exact ⟨⟨honce, hsame ▸ .refl _⟩, ⟨honce, hsame ▸ .refl _⟩⟩
  | some sub =>
    rw [granted, hgranted] at htarget
    have hagain : ∀ license, target ⟨Function.update v.billing n (some (refOf data)), license⟩
        (.subscriptionUpsert data) =
        granted ⟨Function.update v.billing n (some (refOf data)), license⟩ n data := by
      intro license
      simp [Tables.target, hlive, known_refer honce hn license]
    rw [htarget]
    refine ⟨⟨recordedOnce_refer honce hn _, ?_⟩, ⟨recordedOnce_refer honce hn _, ?_⟩⟩
    · rw [hagain, granted, hgranted, htarget]
      simp only [Function.update_idem]
      exact .refl _
    · rw [hagain, granted, htarget]
      simp only [Function.update_self, Function.update_idem]
      split
      · exact .refl _
      · rename_i again hmore
        refine ⟨rfl, fun m => ?_⟩
        by_cases heq : m = n
        · subst heq
          simp [terms_grantedLicense hgranted again hmore]
        · simp [heq]

/-- Wherever the handler of an event is stopped, the event asks for the same. -/
theorem resumes_of_reached {s t : Database} (honce : s.tables.RecordedOnce)
    (h : Webhook.Reached kind s t) : Resumes kind s.tables t.tables := by
  have hbegin : Resumes kind s.tables s.tables := ⟨honce, .refl _⟩
  rcases target_cases kind s.tables with ⟨data, n, rfl, hlive, hn⟩ | ⟨hbilling, hdone⟩
  · obtain ⟨hmid, hend⟩ := resumes_granted honce hlive hn
    rcases h.tables with heq | heq | heq
    · exact heq ▸ hbegin
    · exact heq ▸ hmid
    · exact heq ▸ hend
  · rcases h.tables with heq | heq | heq
    · exact heq ▸ hbegin
    · rw [heq, hbilling]
      exact hbegin
    · rw [heq]
      exact ⟨honce.congr hbilling.symm, by rw [hdone]; exact .refl _⟩

end

end Tables

namespace Webhook

/-! ## Deliveries -/

variable {event : StripeEvent} {s t u : Database} {goal : Tables}

/-- The event is recorded and its goal reached, or it is not recorded and asks for the
goal. -/
structure Due (event : StripeEvent) (goal : Tables) (t : Database) : Prop where
  recordedOnce : t.tables.RecordedOnce
  tables : if event.id ∈ t.processed then t.tables.Agree goal
    else (t.tables.target event.kind).Agree goal

theorem Due.of_reached (h : Due event goal t) (hopen : event.id ∉ t.processed)
    (hreached : Reached event.kind t u) : Due event goal u := by
  have hresumes := Tables.resumes_of_reached h.recordedOnce hreached
  have hgoal := h.tables
  rw [if_neg hopen] at hgoal
  refine ⟨hresumes.recordedOnce, ?_⟩
  rw [hreached.processed, if_neg hopen]
  exact hresumes.target.trans hgoal

/-- The ledger is written once the goal is reached. -/
theorem wpc_recordEvent (h : Due event goal t) (hopen : event.id ∉ t.processed)
    (harrived : Arrived event.kind t u) :
    (issue (.recordEvent event.id)).Wpc Database.Step (Due event goal)
      (fun r v => r = .ok () → v.tables.Agree goal) u := by
  have hdue := h.of_reached hopen harrived.reached
  have hgoal : u.tables.Agree goal := by
    have hasked := h.tables
    rw [if_neg hopen] at hasked
    rw [harrived.tables]
    exact hasked
  apply Prog.Wpc.of_perform hdue
  intro r v hstep
  rcases recorded_of_step hstep with ⟨⟨e, rfl⟩, rfl⟩ | ⟨rfl, rfl⟩
  · exact ⟨hdue, nofun⟩
  · refine ⟨⟨hdue.recordedOnce, ?_⟩, fun _ => hgoal⟩
    rw [if_pos List.mem_insert_self]
    exact hgoal

/-- However far a delivery gets, the event stays due, and a delivery that returns has reached
the goal. -/
theorem wpc_applyEvent (h : Due event goal t) :
    (applyEvent event).run.Wpc Database.Step (Due event goal)
      (fun r u => r = .ok () → u.tables.Agree goal) t := by
  have hprocessed : (issue (.isEventProcessed event.id)).Wpc Database.Step (Due event goal)
      (fun r u => u = t ∧ ∀ processed, r = .ok processed →
        (processed = true ↔ event.id ∈ t.processed)) t := by
    apply Prog.Wpc.of_perform h
    intro r u hstep
    obtain ⟨rfl, hanswer⟩ := processed_of_step hstep
    exact ⟨h, rfl, hanswer⟩
  apply Prog.Wpc.exceptBind hprocessed
  · rintro processed u ⟨rfl, hanswer⟩
    have hrecorded := hanswer processed rfl
    cases processed with
    | true =>
      refine ⟨h, fun _ => ?_⟩
      have hgoal := h.tables
      rwa [if_pos (hrecorded.mp rfl)] at hgoal
    | false =>
      have hopen : event.id ∉ u.processed := fun hmem => by simpa using hrecorded.mpr hmem
      have hkind := (handles_applyEventKind h.recordedOnce event.kind).mono
        (fun _ hu => h.of_reached hopen hu) fun _ _ hu => hu
      apply Prog.Wpc.exceptBind hkind
      · rintro _ v ⟨hreached, harrived⟩
        exact wpc_recordEvent h hopen (harrived rfl)
      · rintro e v ⟨hreached, -⟩
        exact ⟨h.of_reached hopen hreached, nofun⟩
  · rintro e u ⟨rfl, -⟩
    exact ⟨h, nofun⟩

theorem stops_of_processed (hrecorded : event.id ∈ s.processed)
    (hstops : (applyEvent event).run.Stops Database.Step s t) : t = s := by
  have hsame : (applyEvent event).run.Wpc Database.Step (· = s) (fun _ _ => True) s := by
    have hprocessed : (issue (.isEventProcessed event.id)).Wpc Database.Step (· = s)
        (fun r u => u = s ∧ ∀ processed, r = .ok processed → processed = true) s := by
      refine ⟨rfl, fun r u hstep => ?_⟩
      obtain ⟨rfl, hanswer⟩ := processed_of_step hstep
      exact ⟨rfl, rfl, fun processed hok => (hanswer processed hok).mpr hrecorded⟩
    apply Prog.Wpc.exceptBind hprocessed
    · rintro processed u ⟨rfl, hanswer⟩
      obtain rfl := hanswer processed rfl
      exact ⟨rfl, trivial⟩
    · rintro e u ⟨rfl, -⟩
      exact ⟨rfl, trivial⟩
  exact hsame.of_stops hstops

/-- However often the handler of an event is stopped, wherever it is, the delivery that goes
through leaves the refs and the terms of the licenses that a single delivery leaves; and a
recorded event changes nothing. -/
theorem redelivery_reaches_goal (event : StripeEvent) (s cut final once : Database)
    (honce : s.tables.RecordedOnce)
    (hattempts : Relation.ReflTransGen ((applyEvent event).run.Stops Database.Step) s cut)
    (hfinal : (applyEvent event).run.Runs Database.Step cut (.ok ()) final)
    (hsingle : (applyEvent event).run.Runs Database.Step s (.ok ()) once) :
    final.tables.Agree once.tables ∧
      ∀ t u, event.id ∈ t.processed → (applyEvent event).run.Stops Database.Step t u ∨
        (∃ r, (applyEvent event).run.Runs Database.Step t r u) → u = t := by
  constructor
  · obtain ⟨goal, hdue⟩ : ∃ goal, Due event goal s := by
      by_cases hrecorded : event.id ∈ s.processed
      · exact ⟨s.tables, honce, by rw [if_pos hrecorded]; exact .refl _⟩
      · exact ⟨s.tables.target event.kind, honce, by rw [if_neg hrecorded]; exact .refl _⟩
    have hagree := Prog.Wpc.retry (fun _ => wpc_applyEvent) hdue hattempts hfinal rfl
    have hagree' := (wpc_applyEvent hdue).of_runs hsingle rfl
    exact hagree.trans hagree'.symm
  · rintro t u hrecorded (hstops | ⟨r, hruns⟩)
    · exact stops_of_processed hrecorded hstops
    · exact stops_of_processed hrecorded hruns.stops

/-- The handler of the first payment, stopped after some calls that all succeed. -/
def sampleCut (n : ℕ) (s : Database) : Database :=
  ((applyEvent (samplePaid "evt-1" 100)).run.stopWith
    (Database.exec ⟨0, false, "tenant-1", []⟩) n s).getD s

theorem stops_sampleCut {n : ℕ} {s : Database}
    (h : ((applyEvent (samplePaid "evt-1" 100)).run.stopWith
      (Database.exec ⟨0, false, "tenant-1", []⟩) n s).isSome) :
    (applyEvent (samplePaid "evt-1" 100)).run.Stops Database.Step s (sampleCut n s) := by
  obtain ⟨t, ht⟩ := isSome_iff_exists.mp h
  rw [sampleCut, ht, getD_some]
  exact Prog.stops_of_stopWith (fun _ _ _ _ hexec => ⟨_, hexec⟩) ht

def sampleDelivered (s : Database) : Database :=
  (deliverAll [samplePaid "evt-1" 100] s).getD s

theorem runs_sampleDelivered {s : Database} (h : (deliverAll [samplePaid "evt-1" 100] s).isSome) :
    (applyEvent (samplePaid "evt-1" 100)).run.Runs Database.Step s (.ok ())
      (sampleDelivered s) := by
  obtain ⟨t, ht⟩ := isSome_iff_exists.mp h
  rw [sampleDelivered, ht, getD_some]
  obtain ⟨u, hruns, rfl⟩ := delivered_of_deliverAll ht
  exact hruns

/-- The handler is stopped after it has recorded the ref, and once more after it has
converted the license; the last delivery finds a paid license. -/
theorem redelivery_reaches_goal_sample :
    (sampleDelivered (sampleCut 5 (sampleCut 4 signedUp))).tables.Agree
      (sampleDelivered signedUp).tables := by
  have honce : signedUp.tables.RecordedOnce := by
    rintro id n m ⟨row, hrow, -⟩
    have hnone : signedUp.tables.billing n = none := Store.get?_empty n
    rw [hnone] at hrow
    cases hrow
  have hattempts : Relation.ReflTransGen
      ((applyEvent (samplePaid "evt-1" 100)).run.Stops Database.Step) signedUp
      (sampleCut 5 (sampleCut 4 signedUp)) :=
    (Relation.ReflTransGen.single (stops_sampleCut (by decide))).tail (stops_sampleCut (by decide))
  exact (redelivery_reaches_goal (samplePaid "evt-1" 100) signedUp _ _ _ honce hattempts
    (runs_sampleDelivered (by decide)) (runs_sampleDelivered (by decide))).1

end Webhook

end Wardnet.Authority
