/-
# Acknowledged payment updates

The handler of a subscription upsert reads the current license once and decides
on what it read: a paid license is patched in place, anything else is replaced.
The patch tells whether there was a license to patch, and nobody looks at the
answer before the event is recorded as processed. So the update of a license that
is ended between the read and the patch is acknowledged and lost. In every run in
which no license ends between the two, each license write of the handler leaves
exactly the reported license, and a recorded event has had its write.
-/

import Wardnet.Authority.Calls
import Wardnet.Authority.License

namespace Wardnet.Authority

open Base Billing Subscriptions Outline SubscriptionTable World List

/-! ## What a handler has done so far -/

def Granted (data : SubscriptionData) (tenantId : String) (s : Database) : Prop :=
  ∃ sub, s.subscriptions.findCurrent tenantId = some sub ∧ sub.status = data.status ∧
    data.entitlement = some sub.entitlement ∧ sub.currentPeriodEnd = data.currentPeriodEnd

section

variable {config : Config}

/-- The tenant that a handler acts for: the recorded one, else the one in the
checkout metadata. -/
def resolved (data : SubscriptionData) (log : List (world config).Event) : Option String :=
  log.findSome? fun
    | ⟨.tenantForSubscription _, .ok known⟩ => known.or data.tenantId
    | _ => none

/-- The tenant whose paid license a handler has read and not patched yet, after one
more call. -/
def updatingStep (updating : Option String) : (world config).Event → Option String
  | ⟨.findCurrent tenantId, .ok (some sub)⟩ =>
    if sub.status = .active ∨ sub.status = .pastDue then some tenantId else none
  | ⟨.upsertSubscription .., .ok _⟩ => updating
  | _ => none

/-- The tenant whose paid license a handler has read and not patched yet. -/
def updating (log : List (world config).Event) : Option String := log.foldl updatingStep none

def written : (world config).Event → Option String
  | ⟨.convertTrialToPaid tenantId _, .ok _⟩ => some tenantId
  | ⟨.updateCurrent tenantId _ _ _, .ok _⟩ => some tenantId
  | _ => none

def Wrote (data : SubscriptionData) (log : List (world config).Event) : Prop :=
  ∃ e ∈ log, ∃ tenantId, written e = some tenantId ∧ resolved data log = some tenantId

theorem updating_concat (log : List (world config).Event) (e : (world config).Event) :
    updating (log ++ [e]) = updatingStep (updating log) e := by
  simp [updating, foldl_append]

theorem eq_updating_concat {log : List (world config).Event} {e : (world config).Event}
    (h : ∀ updating, updatingStep updating e = none) : none = updating (log ++ [e]) := by
  rw [updating_concat, h]

theorem resolved_append {data : SubscriptionData} {log : List (world config).Event}
    {tenantId : String} (h : resolved data log = some tenantId)
    (more : List (world config).Event) : resolved data (log ++ more) = some tenantId := by
  rw [resolved, findSome?_append]
  exact Option.or_eq_some_iff.mpr (.inl h)

theorem wrote_concat {data : SubscriptionData} {log : List (world config).Event}
    {e : (world config).Event} {tenantId : String} (hresolved : resolved data log = some tenantId)
    (hwritten : written e = some tenantId) : Wrote data (log ++ [e]) :=
  ⟨e, by simp, tenantId, hwritten, resolved_append hresolved _⟩

/-- What a license write and the final record of a granting handler rest on. -/
def Due (data : SubscriptionData) (log : List (world config).Event) : Call → Prop
  | .updateCurrent tenantId status entitlement currentPeriodEnd =>
    resolved data log = some tenantId ∧ updating log = some tenantId ∧ status = data.status ∧
      data.entitlement = some entitlement ∧ currentPeriodEnd = data.currentPeriodEnd
  | .convertTrialToPaid tenantId paid => resolved data log = some tenantId ∧ ∃ entitlement,
      data.entitlement = some entitlement ∧
        paid = ⟨tenantId, data.status, entitlement, none, data.currentPeriodEnd⟩
  | .recordEvent _ => Wrote data log
  | _ => True

end

/-! ## The outline of the handlers -/

def Task.granting (task : Task) : Option SubscriptionData := task.upsert.filter (Granting ·)

def Call.ends (s : Database) (tenantId : String) : Call → Bool
  | .cancelCurrent n => n = tenantId
  | .deleteTombstonedEmpty => tenantId ∈ s.sweepable
  | _ => false

/-- The tenants whose license is about to be patched have one. -/
def UpdatingInv (s : Database) (notes : Set (Option String)) : Prop :=
  ∀ tenantId, some tenantId ∈ notes → s.subscriptions.findCurrent tenantId ≠ none

@[reducible]
def updatingOutline (config : Config) : Outline (world config) (Option String) where
  Inv := UpdatingInv
  Sees _ g task log pending :=
    match task.granting with
    | some data => g = updating log ∧ ∀ c ∈ pending, Due data log c
    | none => g = none
  Permits s g rest c _ := ∀ tenantId, some tenantId ∈ insert g rest → c.ends s tenantId = false

variable {config : Config} {choice : Choice} {c : Call} {s s' : Database} {r : c.Resp}
  {task : Task}

variable {tenantId : String} {g : Option String}

theorem findCurrent_ne_none_of_written (hexec : Database.exec choice c s = some (r, s'))
    (hissues : task.Issues c) (hwrites : tenantId ∈ c.licenseWrites)
    (hlive : s.subscriptions.findCurrent tenantId ≠ none) :
    s'.subscriptions.findCurrent tenantId ≠ none := by
  rcases exec_eq_some hexec with ⟨-, rfl, -⟩ | ⟨-, hperform⟩
  · exact hlive
  cases c with
  | convertTrialToPaid n paid =>
    obtain ⟨rfl, data, -, hdata, hstatus, -⟩ := hissues
    rcases ifTenant_eq (Option.some.inj hperform) with ⟨-, rfl, -⟩ | ⟨rfl, -⟩
    · simp only [Call.licenseWrites, mem_cons, not_mem_nil, or_false, or_self] at hwrites
      simp [findCurrent_convertTrialToPaid _ (hstatus ▸ hdata), hwrites]
    · exact hlive
  | updateCurrent n status entitlement currentPeriodEnd =>
    obtain ⟨data, -, hdata, hstatus⟩ := hissues
    cases hperform
    obtain rfl := mem_singleton.mp hwrites
    simpa [findCurrent_updateCurrent_self _ _ (hstatus ▸ hdata)] using hlive
  | markPastDueCurrent n =>
    cases hperform
    simpa [findCurrent_markPastDueCurrent, mem_singleton.mp hwrites]
      using mem_singleton.mp hwrites ▸ hlive
  | _ => cases hwrites

variable {rest : Set (Option String)} {eventId : String} {th : (world config).Thread}
  {e : (world config).Event} {acts : List (world config).Action} {cfg : (world config).Config}

/-- No permitted call of any task ends a license that is about to be patched. -/
theorem updatingInv_stable (hinv : UpdatingInv s (insert g rest)) (hissues : task.Issues c)
    (hpermits : ∀ tenantId, some tenantId ∈ insert g rest → c.ends s tenantId = false)
    (hexec : Database.exec choice c s = some (r, s')) : UpdatingInv s' (insert g rest) := by
  intro tenantId hnoted
  have hlive := hinv tenantId hnoted
  cases exec_license hexec tenantId with
  | same h => rwa [h]
  | ended hcall _ =>
    have hspared := hpermits tenantId hnoted
    rcases hcall with rfl | ⟨rfl, hswept⟩
    · simp [Call.ends] at hspared
    · simp [Call.ends, hswept] at hspared
  | opened _ _ _ hfirst =>
    obtain ⟨sub, hsub⟩ := Option.ne_none_iff_exists'.mp hlive
    exact absurd (.inl (hasHistory_of_findCurrent hsub)) hfirst
  | written h => exact findCurrent_ne_none_of_written hexec hissues h hlive

/-! ## The handlers follow the outline -/

theorem UpdatingInv.renote {g' : Option String} (hinv : UpdatingInv s (insert g rest))
    (hg' : ∀ tenantId, g' = some tenantId → s.subscriptions.findCurrent tenantId ≠ none) :
    UpdatingInv s (insert g' rest) := by
  intro tenantId hnoted
  rcases Set.mem_insert_iff.mp hnoted with hself | hrest
  · exact hg' tenantId hself.symm
  · exact hinv tenantId (Set.mem_insert_of_mem _ hrest)

variable {i : ℕ} {data : SubscriptionData} {log : List (world config).Event}

/-- One call of a handler that is not about to patch a license, or leaves the
license to be patched as it is. -/
theorem wp_call {α : Type} {Q : Option String → List (world config).Event → α → Prop} (c : Call)
    {next : c.Resp → Proc α} (htask : task.granting = some data) (hnote : g = updating log)
    (hdue : Due data log c) (hissues : task.Issues c)
    (hnext : ∀ r, ∃ g', (g' = g ∨ g' = none) ∧
      (updatingOutline config).Wp i task Q g' (log ++ [⟨c, r⟩]) (next r)) :
    (updatingOutline config).Wp i task Q g log (.call c next) := by
  refine ⟨?_, fun s rest choice r s' hinv hpermits hexec => ?_⟩
  · simp only [htask]
    exact ⟨hnote, by rintro _ ⟨⟩; exact hdue⟩
  · obtain ⟨g', hg', hwp⟩ := hnext r
    have hstable := updatingInv_stable hinv hissues hpermits hexec
    refine ⟨g', hstable.renote ?_, hwp⟩
    rintro tenantId rfl
    rcases hg' with rfl | hnone
    · exact hstable tenantId (Set.mem_insert _ _)
    · cases hnone

def Achieved (data : SubscriptionData) (g : Option String) (log : List (world config).Event) :
    Except Failure Unit → Prop
  | .ok _ => g = none ∧ updating log = none ∧ Wrote data log
  | .error _ => g = updating log

theorem wp_convert (htask : task.granting = some data)
    (hdata : task.upsert = some data ∧ Granting data) (hnote : updating log = none)
    (hresolved : resolved data log = some tenantId) :
    (updatingOutline config).Wp i task (Achieved data) none log
      (grant.convert tenantId data).run := by
  obtain ⟨entitlement, hentitlement⟩ := Option.ne_none_iff_exists'.mp hdata.2.2.2
  simp only [grant.convert, hentitlement]
  refine wp_call _ htask hnote.symm trivial trivial fun r => ⟨none, .inl rfl, ?_⟩
  cases r with
  | error e => exact eq_updating_concat fun _ => rfl
  | ok _ =>
    have hresolved' := resolved_append hresolved [⟨.upsertSubscription tenantId
      data.stripeCustomerId data.stripeSubscriptionId data.priceId, .ok ()⟩]
    refine wp_call _ htask ?_ ⟨hresolved', entitlement, hentitlement, rfl⟩
      ⟨rfl, data, hdata.1, hdata.2.1, rfl, hentitlement⟩ fun r => ⟨none, .inl rfl, ?_⟩
    · rw [updating_concat, hnote]
      rfl
    · cases r with
      | error e => exact eq_updating_concat fun _ => rfl
      | ok _ => exact ⟨rfl, updating_concat _ _, wrote_concat hresolved' rfl⟩

theorem wp_patch {entitlement : Entitlement} (htask : task.granting = some data)
    (hdata : task.upsert = some data ∧ Granting data)
    (hentitlement : data.entitlement = some entitlement) (hnote : updating log = some tenantId)
    (hresolved : resolved data log = some tenantId) :
    (updatingOutline config).Wp i task (Achieved data) (some tenantId) log (do
        recordRef tenantId data
        let _ ← updatePaid tenantId data.status entitlement data.currentPeriodEnd).run := by
  refine wp_call _ htask hnote.symm trivial trivial fun r => ?_
  cases r with
  | error e => exact ⟨none, .inr rfl, eq_updating_concat fun _ => rfl⟩
  | ok _ =>
    let recorded : Call := .upsertSubscription tenantId data.stripeCustomerId
      data.stripeSubscriptionId data.priceId
    have hresolved' := resolved_append hresolved [⟨recorded, .ok ()⟩]
    have hnote' : updating (log ++ [⟨recorded, .ok ()⟩]) = some tenantId := by
      rw [updating_concat, hnote]
      rfl
    refine ⟨some tenantId, .inl rfl, ?_⟩
    refine wp_call _ htask hnote'.symm ⟨hresolved', hnote', rfl, hentitlement, rfl⟩
      ⟨data, hdata.1, hdata.2.1, rfl⟩ fun r => ⟨none, .inr rfl, ?_⟩
    cases r with
    | error e => exact eq_updating_concat fun _ => rfl
    | ok _ => exact ⟨rfl, updating_concat _ _, wrote_concat hresolved' rfl⟩

theorem found_of_exec {current : Option Subscription}
    (hexec : Database.exec choice (.findCurrent tenantId) s = some (.ok current, s')) :
    s'.subscriptions.findCurrent tenantId = current := by
  cases perform_of_exec hexec nofun
  rfl

theorem wp_grant (htask : task.granting = some data)
    (hdata : task.upsert = some data ∧ Granting data) (hnote : updating log = none)
    (hresolved : resolved data log = some tenantId) :
    (updatingOutline config).Wp i task (Achieved data) none log (grant tenantId data).run := by
  obtain ⟨entitlement, hentitlement⟩ := Option.ne_none_iff_exists'.mp hdata.2.2.2
  refine ⟨?_, fun s rest choice r s' hinv hpermits hexec => ?_⟩
  · simp only [htask]
    exact ⟨hnote.symm, by rintro _ ⟨⟩; trivial⟩
  have hissues : task.Issues (.findCurrent tenantId) := trivial
  have hstable : UpdatingInv s' (insert none rest) :=
    updatingInv_stable hinv hissues hpermits hexec
  have hresolved' := resolved_append hresolved [⟨.findCurrent tenantId, r⟩]
  cases r with
  | error e => exact ⟨none, hstable, eq_updating_concat fun _ => rfl⟩
  | ok current =>
    have hfound := found_of_exec hexec
    cases current with
    | none => exact ⟨none, hstable, wp_convert htask hdata (updating_concat _ _) hresolved'⟩
    | some sub =>
      by_cases hpaid : sub.status = .active ∨ sub.status = .pastDue
      · refine ⟨some tenantId, hstable.renote (by rintro _ ⟨⟩; simp [hfound]), ?_⟩
        show (updatingOutline config).Wp i task (Achieved data) _ _ (ExceptT.run (ite _ _ _))
        rw [if_pos hpaid, hentitlement]
        apply wp_patch htask hdata hentitlement _ hresolved'
        rw [updating_concat]
        exact if_pos hpaid
      · refine ⟨none, hstable, ?_⟩
        show (updatingOutline config).Wp i task (Achieved data) _ _ (ExceptT.run (ite _ _ _))
        rw [if_neg hpaid]
        apply wp_convert htask hdata _ hresolved'
        rw [updating_concat]
        exact if_neg hpaid

/-- The handler of a granting event follows the outline. -/
theorem wp_applyEvent (hdata : Granting data) :
    (updatingOutline config).Wp i (.applyEvent ⟨eventId, .subscriptionUpsert data⟩)
      (fun g log _ => g = updating log) none []
        (applyEvent ⟨eventId, .subscriptionUpsert data⟩).run := by
  have hupsert : (Task.applyEvent ⟨eventId, .subscriptionUpsert data⟩).upsert = some data := rfl
  have htask : (Task.applyEvent ⟨eventId, .subscriptionUpsert data⟩).granting = some data := by
    simp [Task.granting, hupsert, hdata]
  refine wp_call _ htask rfl trivial trivial fun r => ⟨none, .inl rfl, ?_⟩
  cases r with
  | error e => rfl
  | ok processed =>
    cases processed with
    | true => rfl
    | false =>
      apply Wp.exceptBind
      apply Wp.exceptBind
      refine wp_call _ htask rfl trivial trivial fun r => ⟨none, .inl rfl, ?_⟩
      cases r with
      | error e => rfl
      | ok known =>
        obtain ⟨tenantId, htenant⟩ : ∃ tenantId, known.or data.tenantId = some tenantId := by
          obtain ⟨tenantId, hmeta⟩ := Option.ne_none_iff_exists'.mp hdata.2.1
          cases known with
          | none => exact ⟨tenantId, hmeta⟩
          | some known => exact ⟨known, rfl⟩
        simp only [Wp, htenant, if_neg hdata.1]
        apply (wp_grant htask ⟨hupsert, hdata⟩ rfl _).mono
        · intro g log r hr
          cases r with
          | error e => exact hr
          | ok _ =>
            obtain ⟨rfl, hnote, hwrote⟩ := hr
            refine wp_call _ htask hnote.symm hwrote ⟨_, rfl, rfl⟩ fun r =>
              ⟨none, .inl rfl, ?_⟩
            exact eq_updating_concat fun _ => rfl
        · simp [resolved, htenant]

/-- The condition on a run: no call ends the license of a tenant while the handler
of a granting event has read it as a paid one and not patched it yet. -/
def SparesUpdating (cfg : (world config).Config) : (world config).Action → Prop
  | .step i _ => ∀ c ∈ cfg.threads[i]?.bind World.Thread.pending, ∀ th ∈ cfg.threads,
      th.task.granting ≠ none → ∀ tenantId ∈ updating th.log, c.ends cfg.state tenantId = false
  | _ => True

instance (cfg : (world config).Config) : DecidablePred (SparesUpdating cfg)
  | .step _ _ => inferInstanceAs (Decidable (∀ _, _))
  | .spawn _ => isTrue trivial
  | .env _ => isTrue trivial

theorem updating_of_sees
    (h : (updatingOutline config).Sees i (some tenantId) th.task th.log th.pending) :
    th.task.granting ≠ none ∧ tenantId ∈ updating th.log := by
  dsimp only at h
  split at h
  · rename_i data hdata
    exact ⟨by simp [hdata], h.1.symm⟩
  · cases h

theorem granting_eq_some {data : SubscriptionData} (h : task.granting = some data) :
    Granting data ∧ ∃ eventId, task = .applyEvent ⟨eventId, .subscriptionUpsert data⟩ := by
  obtain ⟨hupsert, hdata⟩ := Option.filter_eq_some_iff.mp h
  refine ⟨of_decide_eq_true hdata, ?_⟩
  unfold Task.upsert at hupsert
  split at hupsert
  · rename_i eventId data'
    cases hupsert
    exact ⟨eventId, rfl⟩
  · cases hupsert

theorem updatingOutline_follows (task : Task) :
    (updatingOutline config).Follows (fun _ _ => True) i none ⟨task, [], task.body config⟩ := by
  cases htask : task.granting with
  | some data =>
    obtain ⟨hdata, eventId, rfl⟩ := granting_eq_some htask
    apply Wp.bind
    apply (wp_applyEvent hdata).mono
    intro g log _ hg
    simp only [Wp, htask]
    exact ⟨⟨hg, by rintro _ ⟨⟩⟩, trivial⟩
  | none =>
    have hsees : ∀ log pending, (updatingOutline config).Sees i none task log pending := by
      intro log pending
      simp only [htask]
    have hstable : (updatingOutline config).Wp i task (fun g _ _ => g = none ∧ True) none []
        (task.body config) :=
      .of_stable (fun log c _ _ => hsees log (some c)) (fun _ _ _ _ _ => trivial)
        (fun _ _ _ _ _ _ hissues hinv hpermits hexec =>
          updatingInv_stable hinv hissues hpermits hexec) trivial (task.body_issues config)
    apply hstable.mono
    rintro _ log _ ⟨rfl, -⟩
    exact ⟨hsees log none, trivial⟩

theorem updatingOutline_sound :
    (updatingOutline config).Sound (fun _ _ => True) SparesUpdating where
  spawn cfg task notes _ hinv := by
    refine ⟨none, updatingOutline_follows task, ?_⟩
    intro tenantId hnoted
    rcases Set.mem_insert_iff.mp hnoted with hself | hmem
    · cases hself
    · exact hinv tenantId hmem
  env _ e := e.elim
  permits cfg i choice th c next g rest hguard hth hprog hsees hrest := by
    intro tenantId hnoted
    have hpending : th.pending = some c := by simp [Thread.pending, hprog]
    have hspares := hguard c (by simp [hth, hpending])
    rcases Set.mem_insert_iff.mp hnoted with rfl | hmem
    · rw [← hpending] at hsees
      obtain ⟨htask, hupdating⟩ := updating_of_sees hsees
      exact hspares th (mem_of_getElem? hth) htask tenantId hupdating
    · obtain ⟨j, th', hth', hsees', -⟩ := hrest _ hmem
      obtain ⟨htask, hupdating⟩ := updating_of_sees hsees'
      exact hspares th' (mem_of_getElem? hth') htask tenantId hupdating

/-! ## Acknowledged updates are applied -/

/-- At one step of the run, which ends in `cfg`, the handler `th` of the event writes
the license of a tenant. -/
def LicenseWrite (s : Database) (acts : List (world config).Action) (event : StripeEvent)
    (th : (world config).Thread) (tenantId : String) (cfg : (world config).Config) : Prop :=
  ∃ before a after cfg₁ i e, acts = before ++ a :: after ∧
    (world config).system.run (.start s) before = some cfg₁ ∧
    (world config).system.step cfg₁ a = some cfg ∧ cfg₁.Performs i th e cfg ∧
    th.task = .applyEvent event ∧ written e = some tenantId

/-- A due license write that is answered leaves exactly the reported license. -/
theorem granted_of_exec (hwritten : written e = some tenantId) (hdue : Due data log e.call)
    (hlive : data.status ≠ .canceled)
    (hpaid : updating log = some tenantId → s.subscriptions.findCurrent tenantId ≠ none)
    (hexec : Database.exec choice e.call s = some (e.resp, s')) :
    resolved data log = some tenantId ∧ Granted data tenantId s' := by
  unfold written at hwritten
  split at hwritten
  · rename_i n paid _
    cases hwritten
    obtain ⟨hresolved, entitlement, hentitlement, rfl⟩ := hdue
    refine ⟨hresolved, ⟨tenantId, data.status, entitlement, none, data.currentPeriodEnd⟩, ?_, rfl,
      hentitlement, rfl⟩
    have hperform := perform_of_exec hexec nofun
    rcases ifTenant_eq (Option.some.inj hperform) with ⟨-, rfl, -⟩ | ⟨-, hfailed⟩
    · exact (findCurrent_convertTrialToPaid _ hlive _).trans (if_pos rfl)
    · cases hfailed
  · rename_i n status entitlement currentPeriodEnd _
    cases hwritten
    obtain ⟨hresolved, hupdating, rfl, hentitlement, rfl⟩ := hdue
    obtain ⟨sub, hsub⟩ := Option.ne_none_iff_exists'.mp (hpaid hupdating)
    refine ⟨hresolved, ⟨sub.tenantId, data.status, entitlement, sub.trialExpiresAt,
      data.currentPeriodEnd⟩, ?_, rfl, hentitlement, rfl⟩
    cases perform_of_exec hexec nofun
    exact (findCurrent_updateCurrent_self _ _ hlive _ _).trans (congrArg _ hsub)
  · cases hwritten

theorem recordEvent_of_processed (hexec : Database.exec choice c s = some (r, s'))
    (hbefore : eventId ∉ s.processed) (hafter : eventId ∈ s'.processed) :
    c = .recordEvent eventId := by
  rcases exec_eq_some hexec with ⟨-, rfl, -⟩ | ⟨-, hperform⟩
  · exact absurd hafter hbefore
  by_contra hne
  by_cases hrecord : ∃ other, c = .recordEvent other
  · obtain ⟨other, rfl⟩ := hrecord
    cases hperform
    rcases mem_insert_iff.mp hafter with rfl | hold
    · exact hne rfl
    · exact hbefore hold
  · rw [(perform_frame hperform).processed fun other heq => hrecord ⟨other, heq⟩] at hafter
    exact hbefore hafter

/-- What the outline says about a handler of a granting event that performs a call. -/
theorem due_of_performs (htask : task.granting = some data) {cfg' : (world config).Config}
    (hrun : (world config).system.run (.start s) acts = some cfg)
    (hspares : (world config).system.Along SparesUpdating (.start s) acts)
    (hperforms : cfg.Performs i th e cfg') (hth : th.task = task) :
    Due data th.log e.call ∧ ∀ tenantId, updating th.log = some tenantId →
      cfg.state.subscriptions.findCurrent tenantId ≠ none := by
  obtain ⟨choice, next, hi, hprog, -, -⟩ := hperforms
  obtain ⟨note, hfollows, hinv⟩ := updatingOutline_sound.run
    (annotates_start (by rintro _ ⟨⟩)) hspares hrun
  have hsees := (hfollows i th hi).sees
  simp only [hth, htask, Thread.pending, hprog] at hsees
  refine ⟨hsees.2 _ rfl, fun tenantId hupdating => hinv tenantId ⟨i, ?_, ?_⟩⟩
  · exact (List.getElem?_eq_some_iff.mp hi).1
  · exact hsees.1.trans hupdating

/-- An event that enters the ledger is recorded by its handler. -/
theorem exists_recordEvent {event : StripeEvent}
    (hrun : (world config).system.run (.start s) acts = some cfg)
    (hids : ∀ other, .spawn (.applyEvent other) ∈ acts → other.id = event.id → other = event)
    (hfresh : event.id ∉ s.processed) (hprocessed : event.id ∈ cfg.state.processed) :
    ∃ before a after cfg₁ cfg₂ i th e, acts = before ++ a :: after ∧
      (world config).system.run (.start s) before = some cfg₁ ∧ cfg₁.Performs i th e cfg₂ ∧
      th.task = .applyEvent event ∧ e.call = .recordEvent event.id := by
  obtain ⟨before, a, after, cfg₁, cfg₂, rfl, hbefore, hstep, hnot, hrecorded⟩ :=
    (world config).system.exists_step_of_run
      (P := fun cfg => event.id ∈ cfg.state.processed) hrun hfresh hprocessed
  cases a with
  | spawn task =>
    cases hstep
    exact absurd hrecorded hnot
  | env e => exact e.elim
  | step i choice =>
    obtain ⟨th, e, hperforms⟩ := Config.performs_of_step hstep
    obtain ⟨_, next, hth, hprog, hexec, -⟩ := id hperforms
    have hcall := recordEvent_of_processed hexec hnot hrecorded
    have hissues := Config.issues_of_run (Task.body_issues config) hbefore th
      (mem_of_getElem? hth)
    rw [hprog] at hissues
    have hissue := hissues.1
    rw [hcall] at hissue
    obtain ⟨other, htask, hother⟩ := hissue
    have hspawned : .spawn th.task ∈ before := spawn_mem_of_run hbefore hth
    rw [htask] at hspawned
    obtain rfl := hids other (mem_append_left _ hspawned) hother
    exact ⟨before, _, after, cfg₁, cfg₂, i, th, e, rfl, hbefore, hperforms, htask, hcall⟩

/-- In every run in which no license ends between the read and the patch of a
handler: an event that enters the ledger has had its license write, and every
license write of the event leaves the tenant's live row with exactly the reported
status, entitlement and period end. -/
theorem acknowledged_update_applied (event : StripeEvent) {data : SubscriptionData}
    (hkind : event.kind = .subscriptionUpsert data) (hdata : Granting data) (s : Database)
    (acts : List (world config).Action) {cfg : (world config).Config}
    (hrun : (world config).system.run (.start s) acts = some cfg)
    (hspares : (world config).system.Along SparesUpdating (.start s) acts)
    (hids : ∀ other, .spawn (.applyEvent other) ∈ acts → other.id = event.id → other = event)
    (hfresh : event.id ∉ s.processed) (hprocessed : event.id ∈ cfg.state.processed) :
    (∃ th tenantId cfg', LicenseWrite s acts event th tenantId cfg') ∧
      ∀ th tenantId cfg', LicenseWrite s acts event th tenantId cfg' →
        resolved data th.log = some tenantId ∧ Granted data tenantId cfg'.state := by
  have hgranting : (Task.applyEvent event).granting = some data := by
    obtain ⟨eventId, kind⟩ := event
    cases hkind
    simp [Task.granting, Task.upsert, hdata]
  constructor
  · obtain ⟨before, a, after, cfg₁, cfg₂, i, th, e, rfl, hbefore, hperforms, htask, hcall⟩ :=
      exists_recordEvent hrun hids hfresh hprocessed
    have hdue := (due_of_performs hgranting hbefore (System.along_append_left _ hspares)
      hperforms htask).1
    rw [hcall] at hdue
    obtain ⟨e', hmem, tenantId, hwritten, -⟩ := hdue
    obtain ⟨_, _, hth, -⟩ := hperforms
    obtain ⟨before', a', after', cfg₁', cfg₂', th₁, rfl, hbefore', hstep', hperforms', htask'⟩ :=
      exists_performs_of_mem_log hbefore hth hmem
    exact ⟨th₁, tenantId, cfg₂', before', a', after' ++ a :: after, cfg₁', i, e', by simp,
      hbefore', hstep', hperforms', htask'.trans htask, hwritten⟩
  · rintro th tenantId cfg' ⟨before, a, after, cfg₁, i, e, rfl, hbefore, -, hperforms, htask,
      hwritten⟩
    obtain ⟨hdue, hpaid⟩ := due_of_performs hgranting hbefore
      (System.along_append_left _ hspares) hperforms htask
    obtain ⟨choice, next, -, -, hexec, -⟩ := hperforms
    exact granted_of_exec hwritten hdue hdata.1 (hpaid tenantId) hexec

/-- The license of the tenant is past due and overdue, and the reaper has listed it.
The renewal is reported; its handler reads the license, then the reaper cancels
it. -/
def lostRenewal : List (world sampleConfig).Action :=
  signup ++
  .spawn (.applyEvent (samplePaid "evt-1" (days 10))) :: calls 2 6 0 ++
  .spawn (.applyEvent ⟨"evt-2", .paymentFailed "sub-1"⟩) :: calls 3 4 (days 10) ++
  .spawn .expireOverdue :: calls 4 2 (days 20) ++
  .spawn (.applyEvent (samplePaid "evt-3" (days 50))) :: calls 5 4 (days 20) ++
  calls 4 1 (days 20)

/-- The license of the tenant is past due and overdue. While the reaper is about to
cancel it, the renewal is reported: the handler reads the license, the reaper
cancels it, the handler patches nothing and records the event. -/
theorem renewal_lost_to_reaper :
    ∃ (acts : List (world sampleConfig).Action) (cfg cfg' : (world sampleConfig).Config)
      (th : (world sampleConfig).Thread),
      (world sampleConfig).system.run (.start .empty) acts = some cfg ∧
      (∀ i choice, .step i choice ∈ acts → choice.fails = false) ∧
      "evt-3" ∈ cfg.state.processed ∧
      LicenseWrite .empty acts (samplePaid "evt-3" (days 50)) th "tenant-1" cfg' ∧
      cfg'.state.subscriptions.findCurrent "tenant-1" = none := by
  let acts := lostRenewal ++ calls 5 1 (days 20) ++ calls 5 1 (days 20)
  have hwrite := System.run_eq_some_runD (world sampleConfig).system
    (show ((world sampleConfig).system.run (.start .empty)
      (lostRenewal ++ calls 5 1 (days 20))).isSome by decide)
  obtain ⟨cfg₁, hbefore, hstep⟩ := System.run_concat_eq_some _ |>.mp hwrite
  obtain ⟨th, e, hperforms⟩ := Config.performs_of_step hstep
  obtain ⟨th', hth', htask, hlast⟩ := hperforms.threads_eq
  refine ⟨acts, _, _, th, System.run_eq_some_runD _ (by decide), ?_, by decide,
    ⟨lostRenewal, _, calls 5 1 (days 20), cfg₁, 5, e, by simp [acts, calls], hbefore, hstep,
      hperforms, ?_, ?_⟩, by decide⟩
  · intro i choice hmem
    simp only [acts, lostRenewal, signup, calls, mem_append, mem_cons,
      mem_replicate, Action.step.injEq, reduceCtorEq] at hmem
    grind
  · have h : ((world sampleConfig).system.runD (.start .empty)
        (lostRenewal ++ calls 5 1 (days 20))).threads[5]?.map Thread.task =
          some (Task.applyEvent (samplePaid "evt-3" (days 50))) := by decide
    rw [hth'] at h
    exact htask.symm.trans (Option.some.inj h)
  · have h : ((world sampleConfig).system.runD (.start .empty)
        (lostRenewal ++ calls 5 1 (days 20))).threads[5]?.bind (·.log.getLast?.bind written) =
          some "tenant-1" := by decide
    rw [hth', Option.bind_some, hlast] at h
    exact h

/-- A payment that nothing interferes with is applied. -/
theorem acknowledged_update_applied_sample : let event := samplePaid "evt-1" (days 50)
    let acts := signup ++ .spawn (.applyEvent event) :: calls 2 6 0
    (∃ th tenantId cfg', LicenseWrite .empty acts event th tenantId cfg') ∧
      ∀ th tenantId cfg', LicenseWrite .empty acts event th tenantId cfg' →
        ∃ sub, cfg'.state.subscriptions.findCurrent tenantId = some sub ∧
          sub.currentPeriodEnd = some (days 50) := by
  intro event acts
  have hids : ∀ other, .spawn (.applyEvent other) ∈ acts → other.id = event.id → other = event := by
    intro other hmem _
    simp only [acts, signup, calls, mem_append, mem_cons, mem_replicate,
      Action.spawn.injEq, Task.applyEvent.injEq, reduceCtorEq, and_false, or_false,
      false_or] at hmem
    exact hmem
  obtain ⟨hexists, hall⟩ := acknowledged_update_applied event rfl (by decide) .empty acts
    (System.run_eq_some_runD _ (by decide)) (by decide) hids (by decide) (by decide)
  refine ⟨hexists, fun th tenantId cfg' hwrite => ?_⟩
  obtain ⟨-, sub, hsub, -, -, hend⟩ := hall th tenantId cfg' hwrite
  exact ⟨sub, hsub, hend⟩

end Wardnet.Authority
