/-
# The subscriptions table

A tenant's licenses: an append-only history with at most one row that is not
canceled, which a partial unique index enforces and the table carries as a
field. Every statement that patches "the current row" is one definition with the
patch as its argument. Row ids and bookkeeping timestamps are left out: nothing
reads them. `findCurrent` and `hasHistory` are the two observations that the
lemmas are stated with.
-/

import Mathlib.Data.List.Pairwise
import Wardnet.Contract

namespace Wardnet.Subscriptions

open List

/-- A subscription row. Times are in seconds. -/
structure Subscription where
  tenantId : String
  status : SubscriptionStatus
  entitlement : Entitlement
  trialExpiresAt : Option Int
  currentPeriodEnd : Option Int
  deriving DecidableEq

def Subscription.view (sub : Subscription) : SubscriptionView :=
  ⟨sub.status, sub.entitlement, sub.trialExpiresAt, sub.currentPeriodEnd⟩

def Subscription.isCurrent (tenantId : String) (sub : Subscription) : Bool :=
  sub.tenantId = tenantId ∧ sub.status ≠ .canceled

/-- The `WHERE` clause of `list_overdue`. A missing time is never overdue. -/
def Subscription.overdue (trialCutoff paymentCutoff : Int) (sub : Subscription) : Bool :=
  (sub.status = .trialing ∧ sub.trialExpiresAt.any (· < trialCutoff)) ∨
    (sub.status = .pastDue ∧ sub.currentPeriodEnd.any (· < paymentCutoff))

/-- Two rows that the index `uq_subscriptions_live` allows side by side. -/
def Subscription.Apart (a b : Subscription) : Prop :=
  a.tenantId = b.tenantId → a.status = .canceled ∨ b.status = .canceled

instance : Std.Symm Subscription.Apart where
  symm _ _ h htenant := (h htenant.symm).symm

/-- The table, with the index `uq_subscriptions_live`. -/
structure SubscriptionTable where
  rows : List Subscription
  live_unique : rows.Pairwise Subscription.Apart

namespace SubscriptionTable

def empty : SubscriptionTable := ⟨[], .nil⟩

def hasHistory (table : SubscriptionTable) (tenantId : String) : Bool :=
  table.rows.any (·.tenantId = tenantId)

def findCurrent (table : SubscriptionTable) (tenantId : String) : Option Subscription :=
  table.rows.find? (·.isCurrent tenantId)

variable {table : SubscriptionTable} {tenantId : String} {sub : Subscription}

theorem findCurrent_eq_none_iff :
    table.findCurrent tenantId = none ↔ ∀ sub ∈ table.rows, sub.isCurrent tenantId = false := by
  simp [findCurrent]

theorem isCurrent_of_findCurrent (h : table.findCurrent tenantId = some sub) :
    sub ∈ table.rows ∧ sub.isCurrent tenantId = true :=
  ⟨mem_of_find?_eq_some h, by simpa using find?_some h⟩

/-- The live row of a tenant is the one that `find_current` returns. -/
theorem findCurrent_eq_some_iff :
    table.findCurrent tenantId = some sub ↔ sub ∈ table.rows ∧ sub.isCurrent tenantId = true := by
  constructor
  · exact isCurrent_of_findCurrent
  · rintro ⟨hmem, hcurrent⟩
    cases hfound : table.findCurrent tenantId with
    | none =>
      rw [findCurrent_eq_none_iff.mp hfound sub hmem] at hcurrent
      cases hcurrent
    | some found =>
      obtain ⟨hmem', hcurrent'⟩ := isCurrent_of_findCurrent hfound
      obtain ⟨htenant, hlive⟩ := of_decide_eq_true hcurrent
      obtain ⟨htenant', hlive'⟩ := of_decide_eq_true hcurrent'
      by_contra hne
      have hapart := table.live_unique.forall hmem hmem' fun heq => hne (by rw [heq])
      rcases hapart (htenant.trans htenant'.symm) with hcanceled | hcanceled
      · exact hlive hcanceled
      · exact hlive' hcanceled

theorem hasHistory_of_findCurrent (h : table.findCurrent tenantId = some sub) :
    table.hasHistory tenantId = true := by
  obtain ⟨hmem, hcurrent⟩ := isCurrent_of_findCurrent h
  exact any_eq_true.mpr ⟨sub, hmem, by simpa using (of_decide_eq_true hcurrent).1⟩

/-! ## Patching the live row -/

/-- Rewrite the live row of a tenant; answers whether there is one. -/
def patchCurrent (table : SubscriptionTable) (tenantId : String)
    (patch : Subscription → Subscription)
    (htenant : ∀ sub, (patch sub).tenantId = sub.tenantId) : Bool × SubscriptionTable :=
  (table.rows.any (·.isCurrent tenantId),
    { rows := table.rows.map fun sub => if sub.isCurrent tenantId then patch sub else sub
      live_unique := by
        rw [List.pairwise_map]
        apply table.live_unique.imp
        intro a b hapart htenants
        by_cases ha : a.isCurrent tenantId
        · by_cases hb : b.isCurrent tenantId
          · obtain ⟨hta, hla⟩ := of_decide_eq_true ha
            obtain ⟨htb, hlb⟩ := of_decide_eq_true hb
            exact absurd (hapart (hta.trans htb.symm)) (by simp [hla, hlb])
          · simp only [ha, hb, if_true, htenant] at htenants ⊢
            rcases hapart htenants with hcanceled | hcanceled
            · exact absurd hcanceled (of_decide_eq_true ha).2
            · exact Or.inr hcanceled
        · by_cases hb : b.isCurrent tenantId
          · simp only [ha, hb, if_true, htenant] at htenants ⊢
            rcases hapart htenants with hcanceled | hcanceled
            · exact Or.inl hcanceled
            · exact absurd hcanceled (of_decide_eq_true hb).2
          · simp only [ha, hb] at htenants ⊢
            exact hapart htenants })

def cancelCurrent (table : SubscriptionTable) (tenantId : String) : Bool × SubscriptionTable :=
  table.patchCurrent tenantId (fun sub => { sub with status := .canceled }) fun _ => rfl

def updateCurrent (table : SubscriptionTable) (tenantId : String) (status : SubscriptionStatus)
    (entitlement : Entitlement) (currentPeriodEnd : Option Int) : Bool × SubscriptionTable :=
  table.patchCurrent tenantId (fun sub => { sub with status, entitlement, currentPeriodEnd })
    fun _ => rfl

def markPastDueCurrent (table : SubscriptionTable) (tenantId : String) :
    Bool × SubscriptionTable :=
  table.patchCurrent tenantId (fun sub => { sub with status := .pastDue }) fun _ => rfl

/-! ## Inserting -/

def append (table : SubscriptionTable) (sub : Subscription)
    (hunique : sub.status = .canceled ∨ table.findCurrent sub.tenantId = none) :
    SubscriptionTable where
  rows := table.rows ++ [sub]
  live_unique := by
    rw [List.pairwise_append]
    refine ⟨table.live_unique, List.pairwise_singleton _ _, fun a ha b hb htenant => ?_⟩
    obtain rfl := List.mem_singleton.mp hb
    rcases hunique with hcanceled | hnone
    · exact Or.inr hcanceled
    · left
      simpa [Subscription.isCurrent, htenant] using findCurrent_eq_none_iff.mp hnone a ha

/-- `create_trial`: only for a tenant without any row. -/
def createTrial (table : SubscriptionTable) (sub : Subscription) : Bool × SubscriptionTable :=
  if h : table.hasHistory sub.tenantId then
    (false, table)
  else
    (true, table.append sub (Or.inr (findCurrent_eq_none_iff.mpr fun row hrow => by
      have hother : row.tenantId ≠ sub.tenantId := by
        simpa using List.any_eq_false.mp (Bool.eq_false_iff.mpr h) row hrow
      simp [Subscription.isCurrent, hother])))

/-- `INSERT_SUBSCRIPTION`: on a clash with the live row, fold the values into it. -/
def insertSubscription (table : SubscriptionTable) (paid : Subscription) : SubscriptionTable :=
  if h : paid.status = .canceled ∨ table.findCurrent paid.tenantId = none then
    table.append paid h
  else
    (table.patchCurrent paid.tenantId (fun sub => { paid with tenantId := sub.tenantId })
      fun _ => rfl).2

/-- `convert_trial_to_paid`: cancel the live row and insert the paid one. -/
def convertTrialToPaid (table : SubscriptionTable) (tenantId : String) (paid : Subscription) :
    SubscriptionTable :=
  (table.cancelCurrent tenantId).2.insertSubscription paid

def deleteTenants (table : SubscriptionTable) (ids : List String) : SubscriptionTable :=
  ⟨table.rows.filter (·.tenantId ∉ ids), table.live_unique.sublist List.filter_sublist⟩

def listOverdue (table : SubscriptionTable) (trialCutoff paymentCutoff : Int) : List String :=
  (table.rows.filter (·.overdue trialCutoff paymentCutoff)).map (·.tenantId)

/-! ## What the statements do to the current row -/

section

variable (table : SubscriptionTable) (tenantId : String) {patch : Subscription → Subscription}
  (htenant : ∀ sub, (patch sub).tenantId = sub.tenantId)

theorem patchCurrent_fst : (table.patchCurrent tenantId patch htenant).1 =
    (table.findCurrent tenantId).isSome := by
  rw [Bool.eq_iff_iff]
  simp [patchCurrent, findCurrent, find?_isSome]

@[simp]
theorem hasHistory_patchCurrent (n : String) :
    (table.patchCurrent tenantId patch htenant).2.hasHistory n = table.hasHistory n := by
  simp only [patchCurrent, hasHistory, any_map]
  congr 1
  funext sub
  simp only [Function.comp_apply]
  split <;> simp [htenant]

/-- The other tenants keep their current rows. -/
theorem findCurrent_patchCurrent_of_ne {n : String} (hne : n ≠ tenantId) :
    (table.patchCurrent tenantId patch htenant).2.findCurrent n = table.findCurrent n := by
  have hother : ∀ sub : Subscription, sub.isCurrent n = true → sub.isCurrent tenantId = false := by
    intro sub hsub
    simp [Subscription.isCurrent, (of_decide_eq_true hsub).1, hne]
  ext sub
  simp only [findCurrent_eq_some_iff, patchCurrent, mem_map]
  constructor
  · rintro ⟨⟨old, hold, rfl⟩, hcurrent⟩
    by_cases hpatched : old.isCurrent tenantId
    · rw [if_pos hpatched] at hcurrent
      have h₁ := (of_decide_eq_true hcurrent).1
      rw [htenant, (of_decide_eq_true hpatched).1] at h₁
      exact absurd h₁.symm hne
    · rw [if_neg hpatched] at hcurrent ⊢
      exact ⟨hold, hcurrent⟩
  · rintro ⟨hmem, hcurrent⟩
    exact ⟨⟨sub, hmem, by simp [hother sub hcurrent]⟩, hcurrent⟩

/-- A patch that keeps the row live rewrites the current row. -/
theorem findCurrent_patchCurrent_self (hlive : ∀ sub, sub.status ≠ .canceled →
    (patch sub).status ≠ .canceled) :
    (table.patchCurrent tenantId patch htenant).2.findCurrent tenantId =
      (table.findCurrent tenantId).map patch := by
  have hsame : ∀ sub : Subscription,
      (if sub.isCurrent tenantId then patch sub else sub).isCurrent tenantId =
        sub.isCurrent tenantId := by
    intro sub
    by_cases hcurrent : sub.isCurrent tenantId
    · have hsub := (of_decide_eq_true hcurrent).2
      rw [if_pos hcurrent]
      simp [Subscription.isCurrent, htenant, hsub, hlive sub hsub]
    · rw [if_neg hcurrent]
  simp only [patchCurrent, findCurrent, find?_map, Function.comp_def, hsame]
  cases hfound : table.rows.find? (·.isCurrent tenantId) with
  | none => rfl
  | some sub =>
    have hsub : sub.isCurrent tenantId = true := by simpa using find?_some hfound
    simp [hsub]

theorem findCurrent_patchCurrent_eq_none (hnone : table.findCurrent tenantId = none) :
    (table.patchCurrent tenantId patch htenant).2.findCurrent tenantId = none := by
  rw [findCurrent_eq_none_iff] at hnone ⊢
  intro sub hsub
  obtain ⟨old, hold, rfl⟩ := mem_map.mp hsub
  simp [hnone old hold]

end

@[simp]
theorem findCurrent_cancelCurrent (table : SubscriptionTable) (tenantId n : String) :
    (table.cancelCurrent tenantId).2.findCurrent n =
      if n = tenantId then none else table.findCurrent n := by
  by_cases heq : n = tenantId
  · rw [if_pos heq, findCurrent_eq_none_iff]
    intro sub hsub
    obtain ⟨old, -, rfl⟩ := mem_map.mp hsub
    by_cases hcurrent : old.isCurrent tenantId
    · rw [if_pos hcurrent]
      simp [Subscription.isCurrent]
    · rw [if_neg hcurrent, heq]
      exact Bool.eq_false_iff.mpr hcurrent
  · rw [if_neg heq]
    exact findCurrent_patchCurrent_of_ne table tenantId _ heq

theorem findCurrent_updateCurrent_of_ne (table : SubscriptionTable) {n : String}
    (hne : n ≠ tenantId) (status : SubscriptionStatus) (entitlement : Entitlement)
    (currentPeriodEnd : Option Int) :
    (table.updateCurrent tenantId status entitlement currentPeriodEnd).2.findCurrent n =
      table.findCurrent n :=
  findCurrent_patchCurrent_of_ne table tenantId _ hne

theorem findCurrent_updateCurrent_self (table : SubscriptionTable) (tenantId : String)
    {status : SubscriptionStatus} (hlive : status ≠ .canceled) (entitlement : Entitlement)
    (currentPeriodEnd : Option Int) :
    (table.updateCurrent tenantId status entitlement currentPeriodEnd).2.findCurrent tenantId =
      (table.findCurrent tenantId).map
        fun sub => { sub with status, entitlement, currentPeriodEnd } :=
  findCurrent_patchCurrent_self table tenantId _ fun _ _ => hlive

theorem findCurrent_updateCurrent_eq_none (hnone : table.findCurrent tenantId = none)
    (status : SubscriptionStatus) (entitlement : Entitlement) (currentPeriodEnd : Option Int) :
    (table.updateCurrent tenantId status entitlement currentPeriodEnd).2.findCurrent tenantId =
      none :=
  findCurrent_patchCurrent_eq_none table tenantId _ hnone

theorem findCurrent_markPastDueCurrent (table : SubscriptionTable) (tenantId n : String) :
    (table.markPastDueCurrent tenantId).2.findCurrent n =
      if n = tenantId then (table.findCurrent n).map fun sub => { sub with status := .pastDue }
      else table.findCurrent n := by
  by_cases heq : n = tenantId
  · rw [if_pos heq, heq]
    exact findCurrent_patchCurrent_self table tenantId _ fun _ _ => by simp
  · rw [if_neg heq]
    exact findCurrent_patchCurrent_of_ne table tenantId _ heq

theorem findCurrent_append (table : SubscriptionTable) (sub : Subscription)
    (hunique : sub.status = .canceled ∨ table.findCurrent sub.tenantId = none) (n : String) :
    (table.append sub hunique).findCurrent n =
      if sub.isCurrent n then some sub else table.findCurrent n := by
  simp only [append, findCurrent, find?_append, find?_cons, find?_nil]
  by_cases hcurrent : sub.isCurrent n
  · obtain ⟨rfl, hlive⟩ := of_decide_eq_true hcurrent
    have hnone : table.rows.find? (·.isCurrent sub.tenantId) = none := hunique.resolve_left hlive
    simp [hcurrent, hnone]
  · simp [hcurrent]

@[simp]
theorem hasHistory_append (table : SubscriptionTable) (sub : Subscription)
    (hunique : sub.status = .canceled ∨ table.findCurrent sub.tenantId = none) (n : String) :
    (table.append sub hunique).hasHistory n = (table.hasHistory n || sub.tenantId = n) := by
  simp [append, hasHistory]

theorem findCurrent_convertTrialToPaid_of_ne (table : SubscriptionTable) {n : String}
    {paid : Subscription} (htenant : n ≠ tenantId) (hpaid : n ≠ paid.tenantId) :
    (table.convertTrialToPaid tenantId paid).findCurrent n = table.findCurrent n := by
  rw [convertTrialToPaid, insertSubscription]
  split
  · rw [findCurrent_append]
    simp [Subscription.isCurrent, Ne.symm hpaid, htenant]
  · rw [findCurrent_patchCurrent_of_ne _ _ _ hpaid]
    simp [htenant]

/-- A conversion leaves exactly the paid row as the tenant's current one. -/
theorem findCurrent_convertTrialToPaid (table : SubscriptionTable) {paid : Subscription}
    (hlive : paid.status ≠ .canceled) (n : String) :
    (table.convertTrialToPaid paid.tenantId paid).findCurrent n =
      if n = paid.tenantId then some paid else table.findCurrent n := by
  have hnone : (table.cancelCurrent paid.tenantId).2.findCurrent paid.tenantId = none := by simp
  rw [convertTrialToPaid, insertSubscription, dif_pos (.inr hnone), findCurrent_append]
  by_cases heq : n = paid.tenantId
  · simp [Subscription.isCurrent, heq, hlive]
  · simp [Subscription.isCurrent, heq, Ne.symm heq]

@[simp]
theorem hasHistory_convertTrialToPaid (table : SubscriptionTable) (tenantId : String)
    (paid : Subscription) (n : String) :
    (table.convertTrialToPaid tenantId paid).hasHistory n =
      (table.hasHistory n || paid.tenantId = n) := by
  rw [convertTrialToPaid, insertSubscription]
  split
  · simp [cancelCurrent]
  · rename_i hclash
    -- The clash means that the tenant has a row already.
    simp only [not_or] at hclash
    obtain ⟨sub, hsub⟩ := Option.ne_none_iff_exists'.mp hclash.2
    have hhistory := hasHistory_of_findCurrent hsub
    simp only [cancelCurrent, hasHistory_patchCurrent] at hhistory ⊢
    by_cases heq : paid.tenantId = n
    · simp [← heq, hhistory]
    · simp [heq]

theorem createTrial_cases (table : SubscriptionTable) (sub : Subscription) :
    (table.hasHistory sub.tenantId = true ∧ table.createTrial sub = (false, table)) ∨
      (table.hasHistory sub.tenantId = false ∧ (table.createTrial sub).1 = true) := by
  unfold createTrial
  split
  · rename_i hhistory
    exact .inl ⟨hhistory, rfl⟩
  · rename_i hhistory
    exact .inr ⟨Bool.eq_false_iff.mpr hhistory, rfl⟩

/-- A trial is opened for a tenant without any row only. -/
theorem findCurrent_createTrial (table : SubscriptionTable) (sub : Subscription) (n : String) :
    (table.createTrial sub).2.findCurrent n =
      if sub.isCurrent n ∧ table.hasHistory n = false then some sub
      else table.findCurrent n := by
  unfold createTrial
  split
  · rename_i hhistory
    by_cases hcurrent : sub.isCurrent n
    · rw [(of_decide_eq_true hcurrent).1] at hhistory
      simp [hhistory]
    · simp [hcurrent]
  · rename_i hhistory
    rw [findCurrent_append]
    by_cases hcurrent : sub.isCurrent n
    · rw [(of_decide_eq_true hcurrent).1] at hhistory
      simp [hcurrent, hhistory]
    · simp [hcurrent]

@[simp]
theorem hasHistory_createTrial (table : SubscriptionTable) (sub : Subscription) (n : String) :
    (table.createTrial sub).2.hasHistory n = (table.hasHistory n || sub.tenantId = n) := by
  unfold createTrial
  split
  · rename_i hhistory
    by_cases heq : sub.tenantId = n
    · simp [← heq, hhistory]
    · simp [heq]
  · simp

@[simp]
theorem hasHistory_deleteTenants (table : SubscriptionTable) (ids : List String) (n : String) :
    (table.deleteTenants ids).hasHistory n = (table.hasHistory n && n ∉ ids) := by
  rw [Bool.eq_iff_iff]
  simp only [deleteTenants, hasHistory, any_eq_true, mem_filter, decide_eq_true_eq,
    Bool.and_eq_true]
  constructor
  · rintro ⟨sub, ⟨hmem, hids⟩, rfl⟩
    exact ⟨⟨sub, hmem, rfl⟩, hids⟩
  · rintro ⟨⟨sub, hmem, rfl⟩, hids⟩
    exact ⟨sub, ⟨hmem, hids⟩, rfl⟩

theorem findCurrent_deleteTenants (table : SubscriptionTable) (ids : List String) (n : String) :
    (table.deleteTenants ids).findCurrent n = if n ∈ ids then none else table.findCurrent n := by
  ext sub
  rw [findCurrent_eq_some_iff]
  simp only [deleteTenants, mem_filter, decide_eq_true_eq]
  by_cases hids : n ∈ ids
  · simp only [hids, if_true, reduceCtorEq, iff_false]
    rintro ⟨⟨-, hkept⟩, hcurrent⟩
    exact hkept ((of_decide_eq_true hcurrent).1 ▸ hids)
  · rw [if_neg hids, findCurrent_eq_some_iff]
    constructor
    · rintro ⟨⟨hmem, -⟩, hcurrent⟩
      exact ⟨hmem, hcurrent⟩
    · rintro ⟨hmem, hcurrent⟩
      exact ⟨⟨hmem, (of_decide_eq_true hcurrent).1 ▸ hids⟩, hcurrent⟩

/-- A tenant is listed exactly if its live row is overdue. -/
theorem mem_listOverdue_iff {trialCutoff paymentCutoff : Int} :
    tenantId ∈ table.listOverdue trialCutoff paymentCutoff ↔
      ∃ sub, table.findCurrent tenantId = some sub ∧
        sub.overdue trialCutoff paymentCutoff = true := by
  constructor
  · intro hmem
    obtain ⟨sub, hsub, rfl⟩ := mem_map.mp hmem
    obtain ⟨hrow, hoverdue⟩ := mem_filter.mp hsub
    refine ⟨sub, findCurrent_eq_some_iff.mpr ⟨hrow, ?_⟩, hoverdue⟩
    rcases of_decide_eq_true hoverdue with ⟨hstatus, -⟩ | ⟨hstatus, -⟩
    · simp [Subscription.isCurrent, hstatus]
    · simp [Subscription.isCurrent, hstatus]
  · rintro ⟨sub, hcurrent, hoverdue⟩
    obtain ⟨hrow, hlive⟩ := isCurrent_of_findCurrent hcurrent
    exact mem_map.mpr ⟨sub, mem_filter.mpr ⟨hrow, hoverdue⟩, (of_decide_eq_true hlive).1⟩

end SubscriptionTable

end Wardnet.Subscriptions
