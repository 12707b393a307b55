/-
# A deleted subscription under reordering

Stripe delivers the events of a subscription at least once and in any order. A
deletion ends the license only of a subscription that is recorded, and an upsert
that is applied later grants again: the handlers decide on the license they find
and do not compare the events. So a deletion is final when it comes after a grant
and after the first acknowledged delivery of every upsert that could grant.
Deliveries are made one at a time; attempts may fail anywhere and be repeated.
-/

import Wardnet.Authority.Calls
import Wardnet.Authority.License

namespace Wardnet.Authority

open Base Billing Subscriptions Prog List Option

def Delivers (event : StripeEvent) (s : Database) (outcome : Except Failure Unit)
    (s' : Database) : Prop :=
  (applyEvent event).run.Runs Database.Step s outcome s'

def Delivered : List (StripeEvent × Except Failure Unit) → Database → Database → Prop
  | [], s, s' => s' = s
  | attempt :: attempts, s, s' =>
    ∃ t, Delivers attempt.1 s attempt.2 t ∧ Delivered attempts t s'

/-- An event of the subscription: it names the subscription, and no other tenant. -/
def OfSubscription (tenantId stripeSubscriptionId : String) (event : StripeEvent) : Prop :=
  match event.kind with
  | .subscriptionUpsert data =>
    data.stripeSubscriptionId = stripeSubscriptionId ∧ ∀ n ∈ data.tenantId, n = tenantId
  | .subscriptionDeleted id => id = stripeSubscriptionId
  | .paymentFailed id => id = stripeSubscriptionId
  | _ => False

/-- An upsert that can give a license to a tenant without one. -/
def Reviving (event : StripeEvent) : Prop :=
  ∃ data, event.kind = .subscriptionUpsert data ∧ data.status ≠ .canceled ∧
    data.entitlement ≠ none

def Grants (event : StripeEvent) : Prop :=
  ∃ data, event.kind = .subscriptionUpsert data ∧ Granting data

section

variable {tenantId stripeSubscriptionId : String}

def Recorded (tenantId stripeSubscriptionId : String) (s : Database) : Prop :=
  tenantId ∈ s.billing.tenantsForSubscription stripeSubscriptionId

def RecordedOnly (tenantId stripeSubscriptionId : String) (s : Database) : Prop :=
  ∀ n, Recorded n stripeSubscriptionId s → n = tenantId

/-- The calls that a handler makes for the tenant, apart from the final record. -/
def Call.IsFor (tenantId stripeSubscriptionId : String) : Call → Prop
  | .upsertSubscription n _ id _ => n = tenantId ∧ id = stripeSubscriptionId
  | .recordEvent _ | .deleteTombstonedEmpty => False
  | _ => True

structure Keeps (tenantId stripeSubscriptionId : String) (s s' : Database) : Prop where
  processed : s'.processed = s.processed
  only : RecordedOnly tenantId stripeSubscriptionId s →
    RecordedOnly tenantId stripeSubscriptionId s'
  recorded : Recorded tenantId stripeSubscriptionId s → Recorded tenantId stripeSubscriptionId s'

theorem Keeps.refl (s : Database) : Keeps tenantId stripeSubscriptionId s s := ⟨rfl, id, id⟩

theorem Keeps.trans {s t u : Database} (h : Keeps tenantId stripeSubscriptionId s t)
    (h' : Keeps tenantId stripeSubscriptionId t u) : Keeps tenantId stripeSubscriptionId s u :=
  ⟨h'.processed.trans h.processed, fun hs => h'.only (h.only hs),
    fun hs => h'.recorded (h.recorded hs)⟩

variable {choice : Choice} {c : Call} {s s' : Database} {r : c.Resp}

theorem recorded_upsertSubscription {customer id n m : String} {priceId : Option String}
    (table : BillingTable) :
    m ∈ (table.upsertSubscription n customer id priceId).tenantsForSubscription id ↔
      m = n ∨ m ∈ table.tenantsForSubscription id := by
  simp only [BillingTable.mem_tenantsForSubscription_iff, BillingTable.upsertSubscription,
    Store.get?_insert]
  by_cases heq : m = n
  · simp [heq]
  · simp [heq]

theorem Keeps.of_step (hstep : Database.Step c s r s')
    (hcall : c.IsFor tenantId stripeSubscriptionId) :
    Keeps tenantId stripeSubscriptionId s s' := by
  obtain ⟨choice, hexec⟩ := hstep
  have hframe := exec_frame hexec
  have hprocessed : s'.processed = s.processed := by
    apply hframe.processed
    rintro eventId rfl
    exact hcall
  cases htouches : c.touchesBilling with
  | false =>
    have hbilling := hframe.billing htouches
    exact ⟨hprocessed, by simp [RecordedOnly, Recorded, hbilling], by simp [Recorded, hbilling]⟩
  | true =>
    cases c with
    | deleteTombstonedEmpty => cases hcall
    | upsertSubscription n customer id priceId =>
      obtain ⟨rfl, rfl⟩ := hcall
      rcases exec_eq_some hexec with ⟨-, rfl, -⟩ | ⟨-, hperform⟩
      · exact .refl _
      rcases ifTenant_eq (some.inj hperform) with ⟨-, rfl, -⟩ | ⟨rfl, -⟩
      · refine ⟨rfl, fun honly m hm => ?_, fun _ => ?_⟩
        · rcases (recorded_upsertSubscription _).mp hm with rfl | hold
          · rfl
          · exact honly m hold
        · exact (recorded_upsertSubscription _).mpr (.inl rfl)
      · exact .refl _
    | _ => cases htouches

theorem Keeps.of_runs {α : Type} {p : Proc α} {result : α} (hrun : p.Runs Database.Step s result s')
    (hall : p.All (Call.IsFor tenantId stripeSubscriptionId)) :
    Keeps tenantId stripeSubscriptionId s s' :=
  Runs.invariant Database.Step _
    (fun _ _ _ _ hcall hstep hkeeps => hkeeps.trans (.of_step hstep hcall))
    hall hrun (.refl s)

/-! ## One delivery -/

theorem known_of_step {known : Option String}
    (hstep : Database.Step (.tenantForSubscription stripeSubscriptionId) s (.ok known) s') :
    s' = s ∧ (∀ n ∈ known, Recorded n stripeSubscriptionId s) ∧
      (known = none → ∀ n, ¬ Recorded n stripeSubscriptionId s) := by
  obtain ⟨choice, hexec⟩ := hstep
  have hperform := perform_of_exec hexec nofun
  obtain ⟨found, hfound, hout⟩ := map_eq_some_iff.mp hperform
  cases hout
  unfold Database.pickOne at hfound
  split at hfound
  · rename_i hempty
    cases hfound
    refine ⟨rfl, nofun, fun _ n hn => ?_⟩
    rw [Recorded, map_eq_nil_iff.mp hempty] at hn
    cases hn
  · obtain ⟨n, hn, rfl⟩ := map_eq_some_iff.mp hfound
    refine ⟨rfl, ?_, nofun⟩
    rintro _ ⟨⟩
    obtain ⟨first, second, hsplit, -⟩ := lookup_eq_some_iff.mp hn
    have hmem : (choice.pick, n) ∈ (s.billing.tenantsForSubscription stripeSubscriptionId).map
        fun id => (id, id) := by
      rw [hsplit]
      exact mem_append_right _ mem_cons_self
    obtain ⟨m, hm, heq⟩ := mem_map.mp hmem
    cases heq
    exact hm

theorem processed_of_step {eventId : String} {answer : Except Failure Bool}
    (hstep : Database.Step (.isEventProcessed eventId) s answer s') :
    s' = s ∧ ∀ processed, answer = .ok processed → (processed = true ↔ eventId ∈ s.processed) := by
  obtain ⟨choice, hexec⟩ := hstep
  rcases exec_eq_some hexec with ⟨-, rfl, hrefuse⟩ | ⟨-, hperform⟩
  · cases hrefuse
    exact ⟨rfl, nofun⟩
  · cases hperform
    refine ⟨rfl, ?_⟩
    rintro _ ⟨⟩
    exact contains_iff_mem

variable {outcome : Except Failure Unit} {event : StripeEvent} {data : SubscriptionData}
  {attempts : List (StripeEvent × Except Failure Unit)}

theorem recorded_of_step {eventId : String}
    (hstep : Database.Step (.recordEvent eventId) s outcome s') :
    ((∃ e, outcome = .error e) ∧ s' = s) ∨
      (outcome = .ok () ∧ s' = { s with processed := s.processed.insert eventId }) := by
  obtain ⟨choice, hexec⟩ := hstep
  rcases exec_eq_some hexec with ⟨-, rfl, hrefuse⟩ | ⟨-, hperform⟩
  · cases hrefuse
    exact .inl ⟨⟨_, rfl⟩, rfl⟩
  · cases hperform
    exact .inr ⟨rfl, rfl⟩

/-- The effect of an event of the subscription is for its tenant. -/
theorem Keeps.of_kind (hevent : OfSubscription tenantId stripeSubscriptionId event)
    (honly : RecordedOnly tenantId stripeSubscriptionId s)
    (hrun : (applyEventKind event.kind).run.Runs Database.Step s outcome s') :
    Keeps tenantId stripeSubscriptionId s s' := by
  unfold OfSubscription at hevent
  cases hkind : event.kind with
  | subscriptionUpsert data =>
    rw [hkind] at hevent hrun
    obtain ⟨rfl, htenant⟩ := hevent
    rcases (runs_exceptBind _).mp hrun with ⟨e, -, hread⟩ | ⟨known, t, hread, hrest⟩
    · exact .of_step ((runs_perform _).mp hread) trivial
    obtain ⟨rfl, hknown, -⟩ := known_of_step ((runs_perform _).mp hread)
    split at hrest
    · obtain ⟨-, rfl⟩ := hrest
      exact .refl _
    · rename_i n hn
      split at hrest
      · cases known with
        | none =>
          obtain ⟨-, rfl⟩ := hrest
          exact .refl _
        | some known => exact .of_runs hrest (all_cancel trivial trivial)
      · obtain rfl : n = tenantId := by
          rcases or_eq_some_iff.mp hn with hrecorded | ⟨-, hmeta⟩
          · exact honly n (hknown n hrecorded)
          · exact htenant n hmeta
        exact .of_runs hrest (all_grant trivial ⟨rfl, rfl⟩ (fun _ => trivial) fun _ _ => trivial)
  | subscriptionDeleted id =>
    rw [hkind] at hrun
    exact .of_runs hrun (all_forRecorded trivial fun _ => all_cancel trivial trivial)
  | paymentFailed id =>
    rw [hkind] at hrun
    exact .of_runs hrun (all_forRecorded trivial fun _ => all_markPastDue trivial)
  | _ =>
    rw [hkind] at hevent
    cases hevent

/-- What one delivery does: a processed event is skipped, a failed attempt leaves
the ledger alone, and otherwise the event takes effect and is recorded. -/
theorem delivers_cases (hevent : OfSubscription tenantId stripeSubscriptionId event)
    (honly : RecordedOnly tenantId stripeSubscriptionId s)
    (hdelivers : Delivers event s outcome s') :
    (s' = s ∧ (event.id ∈ s.processed ∨ ∃ e, outcome = .error e)) ∨
      (event.id ∉ s.processed ∧ (∃ e, outcome = .error e) ∧
        Keeps tenantId stripeSubscriptionId s s') ∨
      (event.id ∉ s.processed ∧ outcome = .ok () ∧ ∃ t,
        (applyEventKind event.kind).run.Runs Database.Step s (.ok ()) t ∧
        Keeps tenantId stripeSubscriptionId s t ∧
        s' = { t with processed := t.processed.insert event.id }) := by
  rcases (runs_exceptBind _).mp hdelivers with ⟨e, rfl, hread⟩ | ⟨processed, t, hread, hrest⟩
  · exact .inl ⟨(processed_of_step ((runs_perform _).mp hread)).1, .inr ⟨e, rfl⟩⟩
  obtain ⟨rfl, hprocessed⟩ := processed_of_step ((runs_perform _).mp hread)
  replace hprocessed := hprocessed processed rfl
  cases processed with
  | true =>
    obtain ⟨-, rfl⟩ := hrest
    exact .inl ⟨rfl, .inl (hprocessed.mp rfl)⟩
  | false =>
    have hnew : event.id ∉ t.processed := fun h => Bool.false_ne_true (hprocessed.mpr h)
    rcases (runs_exceptBind _).mp hrest with ⟨e, rfl, hkind⟩ | ⟨_, u, hkind, hrecord⟩
    · exact .inr (.inl ⟨hnew, ⟨e, rfl⟩, .of_kind hevent honly hkind⟩)
    · have hkeeps := Keeps.of_kind hevent honly hkind
      rcases recorded_of_step ((runs_perform _).mp hrecord) with ⟨herror, rfl⟩ | ⟨hok, rfl⟩
      · exact .inr (.inl ⟨hnew, herror, hkeeps⟩)
      · exact .inr (.inr ⟨hnew, hok, u, hkind, hkeeps, rfl⟩)

theorem recorded_of_recordRef
    (hrun : (recordRef tenantId data).run.Runs Database.Step s (.ok ()) s') :
    Recorded tenantId data.stripeSubscriptionId s' := by
  obtain ⟨choice, hexec⟩ := (runs_perform _).mp hrun
  have hperform := perform_of_exec hexec nofun
  rcases ifTenant_eq (some.inj hperform) with ⟨-, rfl, -⟩ | ⟨-, hfailed⟩
  · exact (recorded_upsertSubscription _).mpr (.inl rfl)
  · cases hfailed

theorem recorded_of_convert (hentitlement : data.entitlement ≠ none)
    (hrun : (grant.convert tenantId data).run.Runs Database.Step s (.ok ()) s') :
    Recorded tenantId data.stripeSubscriptionId s' := by
  unfold grant.convert at hrun
  split at hrun
  · rename_i hnone
    exact absurd hnone hentitlement
  · rcases (runs_exceptBind _).mp hrun with ⟨e, herror, -⟩ | ⟨_, t, href, hconvert⟩
    · cases herror
    · exact (Keeps.of_step ((runs_perform _).mp hconvert) trivial).recorded
        (recorded_of_recordRef href)

theorem recorded_of_grant (hentitlement : data.entitlement ≠ none)
    (hrun : (grant tenantId data).run.Runs Database.Step s (.ok ()) s') :
    Recorded tenantId data.stripeSubscriptionId s' := by
  rcases (runs_exceptBind _).mp hrun with ⟨e, herror, -⟩ | ⟨current, t, -, hrest⟩
  · cases herror
  cases current with
  | none => exact recorded_of_convert hentitlement hrest
  | some sub =>
    dsimp only at hrest
    split at hrest
    · rcases (runs_exceptBind _).mp hrest with ⟨e, herror, -⟩ | ⟨_, u, href, hpatch⟩
      · cases herror
      · have hall : (do
            let _ ← updatePaid tenantId data.status (data.entitlement.getD sub.entitlement)
              data.currentPeriodEnd : Service Unit).run.All
              (Call.IsFor tenantId data.stripeSubscriptionId) :=
          All.exceptBind ⟨trivial, fun _ => trivial⟩ fun _ => trivial
        exact (Keeps.of_runs hpatch hall).recorded (recorded_of_recordRef href)
    · exact recorded_of_convert hentitlement hrest

theorem recorded_of_grants (hevent : OfSubscription tenantId stripeSubscriptionId event)
    (hgrants : Grants event) (honly : RecordedOnly tenantId stripeSubscriptionId s)
    (hrun : (applyEventKind event.kind).run.Runs Database.Step s (.ok ()) s') :
    Recorded tenantId stripeSubscriptionId s' := by
  obtain ⟨data, hkind, hlive, hmeta, hentitlement⟩ := hgrants
  rw [OfSubscription, hkind] at hevent
  rw [hkind] at hrun
  obtain ⟨rfl, htenant⟩ := hevent
  rcases (runs_exceptBind _).mp hrun with ⟨e, herror, -⟩ | ⟨known, t, hread, hrest⟩
  · cases herror
  obtain ⟨rfl, hknown, -⟩ := known_of_step ((runs_perform _).mp hread)
  split at hrest
  · rename_i hnone
    exact absurd (or_eq_none_iff.mp hnone).2 hmeta
  · rename_i n hn
    rw [if_neg hlive] at hrest
    obtain rfl : n = tenantId := by
      rcases or_eq_some_iff.mp hn with hrecorded | ⟨-, hmeta⟩
      · exact honly n (hknown n hrecorded)
      · exact htenant n hmeta
    exact recorded_of_grant hentitlement hrest

/-- The deletion of a recorded subscription ends the license. -/
theorem unlicensed_of_deletion (hrecorded : Recorded tenantId stripeSubscriptionId s)
    (honly : RecordedOnly tenantId stripeSubscriptionId s)
    (hrun : (applyEventKind (.subscriptionDeleted stripeSubscriptionId)).run.Runs Database.Step s
      (.ok ()) s') : s'.subscriptions.findCurrent tenantId = none := by
  rcases (runs_exceptBind _).mp hrun with ⟨e, herror, -⟩ | ⟨known, t, hread, hrest⟩
  · cases herror
  obtain ⟨rfl, hknown, hunknown⟩ := known_of_step ((runs_perform _).mp hread)
  cases known with
  | none => exact absurd hrecorded (hunknown rfl tenantId)
  | some n =>
    obtain rfl := honly n (hknown n rfl)
    rcases (runs_exceptBind _).mp hrest with ⟨e, herror, -⟩ | ⟨canceled, u, hcancel, hpublish⟩
    · cases herror
    have hnone : u.subscriptions.findCurrent n = none := by
      obtain ⟨choice, hexec⟩ := (runs_perform _).mp hcancel
      cases perform_of_exec hexec nofun
      simp
    cases canceled with
    | false =>
      obtain ⟨-, rfl⟩ := hpublish
      exact hnone
    | true =>
      obtain ⟨r, v, ⟨choice, hexec⟩, -, rfl⟩ := hpublish
      exact findCurrent_eq_none_of_exec hexec rfl hnone

/-- Only a reviving event gives a license to a tenant without one. -/
theorem unlicensed_of_delivers (hevent : OfSubscription tenantId stripeSubscriptionId event)
    (hrevives : ¬ Reviving event) (hnone : s.subscriptions.findCurrent tenantId = none)
    (hdelivers : Delivers event s outcome s') :
    s'.subscriptions.findCurrent tenantId = none := by
  have hkind : (applyEventKind event.kind).run.All fun c => c.opensLicense = false := by
    cases hkind : event.kind with
    | subscriptionUpsert data =>
      refine all_applyUpsert rfl (fun _ => all_cancel rfl rfl) fun hlive n => ?_
      refine all_grant rfl rfl (fun _ => rfl) fun entitlement hentitlement => ?_
      exact absurd ⟨data, hkind, hlive, by simp [hentitlement]⟩ hrevives
    | subscriptionDeleted id => exact all_forRecorded rfl fun _ => all_cancel rfl rfl
    | paymentFailed id => exact all_forRecorded rfl fun _ => all_markPastDue rfl
    | _ =>
      rw [OfSubscription, hkind] at hevent
      cases hevent
  have hall : (applyEvent event).run.All fun c => c.opensLicense = false :=
    all_applyEvent event rfl hkind rfl
  refine Runs.invariant _ (fun s => s.subscriptions.findCurrent tenantId = none)
    (fun c s r s' hcall hstep hnone => ?_) hall hdelivers hnone
  obtain ⟨choice, hexec⟩ := hstep
  exact findCurrent_eq_none_of_exec hexec hcall hnone

/-! ## A sequence of deliveries -/

theorem delivered_append {first second : List (StripeEvent × Except Failure Unit)} :
    Delivered (first ++ second) s s' ↔ ∃ t, Delivered first s t ∧ Delivered second t s' := by
  induction first generalizing s with
  | nil => simp [Delivered]
  | cons attempt first ih =>
    simp only [cons_append, Delivered, ih]
    constructor
    · rintro ⟨t, hattempt, u, hfirst, hsecond⟩
      exact ⟨u, ⟨t, hattempt, hfirst⟩, hsecond⟩
    · rintro ⟨u, ⟨t, hattempt, hfirst⟩, hsecond⟩
      exact ⟨t, hattempt, u, hfirst, hsecond⟩

/-- What holds after some attempts: the ledger holds the acknowledged events, and
the subscription is recorded once a grant has been acknowledged. -/
structure Progress (tenantId stripeSubscriptionId : String) (start : List String)
    (attempts : List (StripeEvent × Except Failure Unit)) (s : Database) : Prop where
  only : RecordedOnly tenantId stripeSubscriptionId s
  acknowledged : ∀ eventId, eventId ∈ s.processed ↔
    eventId ∈ start ∨ ∃ event, (event, .ok ()) ∈ attempts ∧ event.id = eventId
  recorded : ∀ event, (event, .ok ()) ∈ attempts → Grants event →
    Recorded tenantId stripeSubscriptionId s

/-- One more attempt, which is acknowledged or to be repeated. -/
theorem Progress.deliver {start : List String}
    (hprogress : Progress tenantId stripeSubscriptionId start attempts s)
    (hevent : OfSubscription tenantId stripeSubscriptionId event) (hfresh : event.id ∉ start)
    (hids : ∀ other, (other, .ok ()) ∈ attempts → other.id = event.id → other = event)
    (hdelivers : Delivers event s outcome s') :
    Progress tenantId stripeSubscriptionId start (attempts ++ [(event, outcome)]) s' := by
  -- The new attempt is one of those that were acknowledged, if it is.
  have hmem : ∀ other, (other, .ok ()) ∈ attempts ++ [(event, outcome)] ↔
      (other, .ok ()) ∈ attempts ∨ (other = event ∧ outcome = .ok ()) := by
    simp [eq_comm]
  rcases delivers_cases hevent hprogress.only hdelivers with
    ⟨rfl, hskipped⟩ | ⟨hnew, ⟨e, rfl⟩, hkeeps⟩ | ⟨hnew, rfl, t, hkind, hkeeps, rfl⟩
  · have hbefore : outcome = .ok () → ∃ other,
      (other, .ok ()) ∈ attempts ∧ other.id = event.id := by
      rintro rfl
      rcases hskipped with hprocessed | ⟨e, herror⟩
      · exact ((hprogress.acknowledged event.id).mp hprocessed).resolve_left hfresh
      · cases herror
    refine ⟨hprogress.only, fun eventId => ?_, fun other hother hgrants => ?_⟩
    · rw [hprogress.acknowledged]
      simp only [hmem]
      constructor
      · rintro (hstart | ⟨other, hother, hid⟩)
        · exact .inl hstart
        · exact .inr ⟨other, .inl hother, hid⟩
      · rintro (hstart | ⟨other, hother | ⟨rfl, hok⟩, rfl⟩)
        · exact .inl hstart
        · exact .inr ⟨other, hother, rfl⟩
        · exact .inr (hbefore hok)
    · rcases (hmem other).mp hother with hold | ⟨rfl, hok⟩
      · exact hprogress.recorded other hold hgrants
      · obtain ⟨other', hother', hid⟩ := hbefore hok
        obtain rfl := hids other' hother' hid
        exact hprogress.recorded _ hother' hgrants
  · refine ⟨hkeeps.only hprogress.only, fun eventId => ?_, fun other hother hgrants => ?_⟩
    · rw [hkeeps.processed, hprogress.acknowledged]
      simp [hmem]
    · rcases (hmem other).mp hother with hold | ⟨-, hok⟩
      · exact hkeeps.recorded (hprogress.recorded other hold hgrants)
      · cases hok
  · refine ⟨hkeeps.only hprogress.only, fun eventId => ?_, fun other hother hgrants => ?_⟩
    · simp only [mem_insert_iff, hkeeps.processed, hprogress.acknowledged, hmem, and_true]
      constructor
      · rintro (rfl | hstart | ⟨other, hother, rfl⟩)
        · exact .inr ⟨event, .inr rfl, rfl⟩
        · exact .inl hstart
        · exact .inr ⟨other, .inl hother, rfl⟩
      · rintro (hstart | ⟨other, hother | rfl, rfl⟩)
        · exact .inr (.inl hstart)
        · exact .inr (.inr ⟨other, hother, rfl⟩)
        · exact .inl rfl
    · rcases (hmem other).mp hother with hold | ⟨rfl, -⟩
      · exact hkeeps.recorded (hprogress.recorded other hold hgrants)
      · have hrecorded := recorded_of_grants hevent hgrants hprogress.only hkind
        exact hrecorded

theorem Progress.delivered {start : List String} {more : List (StripeEvent × Except Failure Unit)}
    (hprogress : Progress tenantId stripeSubscriptionId start attempts s)
    (hown : ∀ attempt ∈ more, OfSubscription tenantId stripeSubscriptionId attempt.1)
    (hfresh : ∀ attempt ∈ more, attempt.1.id ∉ start)
    (hids : ∀ a ∈ attempts ++ more, ∀ b ∈ attempts ++ more, a.1.id = b.1.id → a.1 = b.1)
    (hdelivered : Delivered more s s') :
    Progress tenantId stripeSubscriptionId start (attempts ++ more) s' := by
  induction more generalizing attempts s with
  | nil =>
    cases hdelivered
    rwa [append_nil]
  | cons attempt more ih =>
    obtain ⟨t, hattempt, hmore⟩ := hdelivered
    obtain ⟨event, outcome⟩ := attempt
    have hlater : (event, outcome) ∈ attempts ++ (event, outcome) :: more := by simp
    have hstep := hprogress.deliver (hown _ mem_cons_self) (hfresh _ mem_cons_self)
      (fun other hother hid => hids (other, .ok ()) (mem_append_left _ hother) _ hlater hid)
      hattempt
    rw [append_cons] at hids ⊢
    exact ih hstep (fun a ha => hown a (mem_cons_of_mem _ ha))
      (fun a ha => hfresh a (mem_cons_of_mem _ ha)) hids hmore

/-- Once the tenant has no license, deliveries give it none, unless a reviving event
is applied. -/
theorem unlicensed_of_delivered
    (hown : ∀ attempt ∈ attempts, OfSubscription tenantId stripeSubscriptionId attempt.1)
    (honly : RecordedOnly tenantId stripeSubscriptionId s)
    (hlate : ∀ attempt ∈ attempts, Reviving attempt.1 → attempt.1.id ∈ s.processed)
    (hnone : s.subscriptions.findCurrent tenantId = none) (hdelivered : Delivered attempts s s') :
    s'.subscriptions.findCurrent tenantId = none := by
  induction attempts generalizing s with
  | nil =>
    cases hdelivered
    exact hnone
  | cons attempt attempts ih =>
    obtain ⟨t, hattempt, hrest⟩ := hdelivered
    have hevent := hown attempt mem_cons_self
    have hcases := delivers_cases hevent honly hattempt
    have hledger : ∀ eventId ∈ s.processed, eventId ∈ t.processed := by
      rcases hcases with ⟨rfl, -⟩ | ⟨-, -, hkeeps⟩ | ⟨-, -, u, -, hkeeps, rfl⟩
      · exact fun _ h => h
      · rw [hkeeps.processed]
        exact fun _ h => h
      · intro eventId h
        exact mem_insert_of_mem (hkeeps.processed ▸ h)
    have honly' : RecordedOnly tenantId stripeSubscriptionId t := by
      rcases hcases with ⟨rfl, -⟩ | ⟨-, -, hkeeps⟩ | ⟨-, -, u, -, hkeeps, rfl⟩
      · exact honly
      · exact hkeeps.only honly
      · exact hkeeps.only honly
    apply ih (fun a ha => hown a (mem_cons_of_mem _ ha)) honly'
      (fun a ha hrevives => hledger _ (hlate a (mem_cons_of_mem _ ha) hrevives)) _ hrest
    by_cases hrevives : Reviving attempt.1
    · have hprocessed := hlate attempt mem_cons_self hrevives
      rcases hcases with ⟨rfl, -⟩ | ⟨hnew, -⟩ | ⟨hnew, -⟩
      · exact hnone
      · exact absurd hprocessed hnew
      · exact absurd hprocessed hnew
    · exact unlicensed_of_delivers hevent hrevives hnone hattempt

/-- The events of a subscription are delivered in any order, with repetitions and
failed attempts. If the deletion is first acknowledged after a grant, and every
reviving event delivered later was acknowledged before it, the tenant ends up
without a license. -/
theorem deletion_final (tenantId stripeSubscriptionId : String) (deletion : StripeEvent)
    (before after : List (StripeEvent × Except Failure Unit)) (s : Database) {s' : Database}
    (hdeletion : deletion.kind = .subscriptionDeleted stripeSubscriptionId)
    (hown : ∀ attempt ∈ before ++ (deletion, .ok ()) :: after,
      OfSubscription tenantId stripeSubscriptionId attempt.1)
    (hids : ∀ a ∈ before ++ (deletion, .ok ()) :: after,
      ∀ b ∈ before ++ (deletion, .ok ()) :: after, a.1.id = b.1.id → a.1 = b.1)
    (hfresh : ∀ attempt ∈ before ++ (deletion, .ok ()) :: after, attempt.1.id ∉ s.processed)
    (honly : RecordedOnly tenantId stripeSubscriptionId s)
    (hfirst : (deletion, .ok ()) ∉ before)
    (hgranted : ∃ event, (event, .ok ()) ∈ before ∧ Grants event)
    (hlate : ∀ attempt ∈ after, Reviving attempt.1 → (attempt.1, .ok ()) ∈ before)
    (hdelivered : Delivered (before ++ (deletion, .ok ()) :: after) s s') :
    s'.subscriptions.findCurrent tenantId = none := by
  obtain ⟨t, hbefore, u, hattempt, hafter⟩ := delivered_append.mp hdelivered
  have hstart : Progress tenantId stripeSubscriptionId s.processed [] s :=
    ⟨honly, by simp, nofun⟩
  have hprogress : Progress tenantId stripeSubscriptionId s.processed before t :=
    hstart.delivered (fun a ha => hown a (mem_append_left _ ha))
      (fun a ha => hfresh a (mem_append_left _ ha))
      (fun a ha b hb => hids a (mem_append_left _ ha) b (mem_append_left _ hb)) hbefore
  have hmem : (deletion, .ok ()) ∈ before ++ (deletion, .ok ()) :: after := by simp
  -- The first acknowledged delivery of the deletion takes effect.
  have hnew : deletion.id ∉ t.processed := by
    intro hprocessed
    rcases (hprogress.acknowledged _).mp hprocessed with hold | ⟨other, hother, hid⟩
    · exact hfresh _ hmem hold
    · obtain rfl := hids _ (mem_append_left _ hother) _ hmem hid
      exact hfirst hother
  obtain ⟨event, hevent, hgrants⟩ := hgranted
  have hrecorded := hprogress.recorded event hevent hgrants
  rcases delivers_cases (hown _ hmem) hprogress.only hattempt with
    ⟨-, hprocessed | ⟨e, herror⟩⟩ | ⟨-, ⟨e, herror⟩, -⟩ | ⟨-, -, v, hkind, hkeeps, rfl⟩
  · exact absurd hprocessed hnew
  · cases herror
  · cases herror
  · rw [hdeletion] at hkind
    have hnone := unlicensed_of_deletion hrecorded hprogress.only hkind
    refine unlicensed_of_delivered (s := { v with processed := v.processed.insert deletion.id })
      (fun a ha => ?_) (hkeeps.only hprogress.only) (fun a ha hrevives => ?_) hnone hafter
    · exact hown a (mem_append_right _ (mem_cons_of_mem _ ha))
    · apply mem_insert_of_mem
      rw [hkeeps.processed]
      exact (hprogress.acknowledged _).mpr (.inr ⟨a.1, hlate a ha hrevives, rfl⟩)

end

/-! ## Deletions that are not final, and one that is -/

def deliverAll : List StripeEvent → Database → Option Database
  | [], s => some s
  | event :: events, s => do
      match ← (applyEvent event).run.runWith
        (Database.exec ⟨0, false, "tenant-1", ["tenant-1"]⟩) s with
      | (.ok (), t) => deliverAll events t
      | (.error _, _) => none

theorem delivered_of_deliverAll {events : List StripeEvent} {s s' : Database}
    (h : deliverAll events s = some s') :
    Delivered (events.map fun event => (event, .ok ())) s s' := by
  induction events generalizing s with
  | nil =>
    cases h
    rfl
  | cons event events ih =>
    obtain ⟨⟨outcome, t⟩, hattempt, hrest⟩ := bind_eq_some_iff.mp h
    cases outcome with
    | error e => cases hrest
    | ok _ =>
      exact ⟨t, runs_of_runWith _ (fun _ _ _ _ hexec => ⟨_, hexec⟩) hattempt, ih hrest⟩

def signedUp : Database := ((world sampleConfig).system.runD (.start .empty) signup).state

def sampleDeclined : StripeEvent :=
  ⟨"evt-1", .subscriptionUpsert ⟨some "tenant-1", "sub-1", "cus-1", none, none, .active, none⟩⟩

def sampleDeletion : StripeEvent := ⟨"evt-9", .subscriptionDeleted "sub-1"⟩

/-- An update that is delivered after the deletion grants again, and the deletion
of a subscription that never granted leaves the trial. -/
theorem deletion_not_final :
    (∃ s', Delivered ([samplePaid "evt-1" 50, sampleDeletion, samplePaid "evt-2" 60].map
        fun event => (event, .ok ())) signedUp s' ∧
      s'.subscriptions.findCurrent "tenant-1" ≠ none) ∧
    ∃ s',
      Delivered ([sampleDeclined, sampleDeletion].map fun event => (event, .ok ())) signedUp s' ∧
      s'.subscriptions.findCurrent "tenant-1" ≠ none := by
  constructor
  · exact ⟨_, delivered_of_deliverAll (eq_some_of_isSome (by decide)), by decide⟩
  · exact ⟨_, delivered_of_deliverAll (eq_some_of_isSome (by decide)), by decide⟩

/-- The paid license ends for good when the deletion comes last. -/
theorem deletion_final_sample :
    ∃ s', Delivered ([samplePaid "evt-1" 50, sampleDeletion, samplePaid "evt-1" 50].map
        fun event => (event, .ok ())) signedUp s' ∧
      s'.subscriptions.findCurrent "tenant-1" = none := by
  have hdelivered := delivered_of_deliverAll (eq_some_of_isSome (show (deliverAll
    [samplePaid "evt-1" 50, sampleDeletion, samplePaid "evt-1" 50] signedUp).isSome by decide))
  have honly : RecordedOnly "tenant-1" "sub-1" signedUp := by
    intro n hn
    cases hn
  refine ⟨_, hdelivered, deletion_final "tenant-1" "sub-1" sampleDeletion
    [(samplePaid "evt-1" 50, .ok ())] [(samplePaid "evt-1" 50, .ok ())] signedUp rfl ?_ ?_ ?_ honly
    (by decide) ⟨samplePaid "evt-1" 50, by simp, _, rfl, by decide⟩ (by simp) hdelivered⟩
  · simp [OfSubscription, samplePaid, sampleDeletion]
  · simp [samplePaid, sampleDeletion]
  · decide

end Wardnet.Authority
