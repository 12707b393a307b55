/-
# The history of licenses

Rows of the subscriptions table are never moved, and a statement is about one tenant. What
it may do is said once: rows keep their place and their tenant, canceled rows stay as they
are, other tenants are left alone, and a row that is added as a trial is its tenant's first.
Everything about the history of a tenant's licenses follows from this relation.
-/

import Wardnet.Subscriptions.Table

namespace Wardnet.Subscriptions.SubscriptionTable

def rowsOf (table : SubscriptionTable) (tenantId : String) : List Subscription :=
  table.rows.filter (·.tenantId = tenantId)

/-- Rows keep their place and their tenant, and canceled rows stay as they are. -/
def Keeps (table table' : SubscriptionTable) : Prop :=
  ∀ (i : ℕ) (sub : Subscription), table.rows[i]? = some sub → ∃ sub', table'.rows[i]? = some sub' ∧
    sub'.tenantId = sub.tenantId ∧ (sub.status = .canceled → sub' = sub)

structure Extends (tenantId : String) (table table' : SubscriptionTable) : Prop where
  keeps : table.Keeps table'
  others : ∀ n, n ≠ tenantId → table'.rowsOf n = table.rowsOf n
  added : ∀ (i : ℕ) (sub : Subscription), table.rows.length ≤ i → table'.rows[i]? = some sub →
    i = table.rows.length ∧ (sub.status = .trialing → table.hasHistory sub.tenantId = false)

variable {table table' table'' : SubscriptionTable} {tenantId : String} {sub : Subscription}

theorem Keeps.refl (table : SubscriptionTable) : table.Keeps table :=
  fun _ sub hsub => ⟨sub, hsub, rfl, fun _ => rfl⟩

theorem Keeps.trans (h : table.Keeps table') (h' : table'.Keeps table'') : table.Keeps table'' := by
  intro i sub hsub
  obtain ⟨sub', hsub', htenant, hcanceled⟩ := h i sub hsub
  obtain ⟨sub'', hsub'', htenant', hcanceled'⟩ := h' i sub' hsub'
  refine ⟨sub'', hsub'', htenant'.trans htenant, fun hstatus => ?_⟩
  obtain rfl := hcanceled hstatus
  exact hcanceled' hstatus

theorem Extends.refl (tenantId : String) (table : SubscriptionTable) :
    table.Extends tenantId table where
  keeps := .refl table
  others _ _ := rfl
  added i sub hi hsub := by
    rw [List.getElem?_eq_none hi] at hsub
    cases hsub

/-! ## The statements -/

theorem tenantId_patched {patch : Subscription → Subscription}
    (htenant : ∀ sub, (patch sub).tenantId = sub.tenantId) (sub : Subscription) :
    (if sub.isCurrent tenantId then patch sub else sub).tenantId = sub.tenantId := by
  split
  · exact htenant sub
  · rfl

theorem extends_patchCurrent (table : SubscriptionTable) (tenantId : String)
    {patch : Subscription → Subscription} (htenant : ∀ sub, (patch sub).tenantId = sub.tenantId) :
    table.Extends tenantId (table.patchCurrent tenantId patch htenant).2 where
  keeps := by
    intro i sub hsub
    refine ⟨_, by rw [patchCurrent, List.getElem?_map, hsub]; rfl, tenantId_patched htenant sub,
      fun hcanceled => ?_⟩
    simp [Subscription.isCurrent, hcanceled]
  others := by
    intro n hne
    have hkept : ∀ sub ∈ table.rowsOf n,
        (if sub.isCurrent tenantId then patch sub else sub) = sub := by
      intro sub hsub
      have hn : sub.tenantId = n := by simpa using (List.mem_filter.mp hsub).2
      simp [Subscription.isCurrent, hn, hne]
    simp only [rowsOf, patchCurrent, List.filter_map, Function.comp_def, tenantId_patched htenant]
    exact (List.map_congr_left hkept).trans (List.map_id _)
  added := by
    intro i sub hi hsub
    rw [List.getElem?_eq_none (by simpa [patchCurrent] using hi)] at hsub
    cases hsub

/-- After changes to the rows of a tenant, one more row of it is added. -/
theorem Extends.append (h : table.Extends tenantId table')
    (hlength : table'.rows.length = table.rows.length)
    (hunique : sub.status = .canceled ∨ table'.findCurrent sub.tenantId = none)
    (htenant : sub.tenantId = tenantId)
    (hfirst : sub.status = .trialing → table.hasHistory tenantId = false) :
    table.Extends tenantId (table'.append sub hunique) where
  keeps := by
    apply h.keeps.trans
    intro i old hold
    refine ⟨old, ?_, rfl, fun _ => rfl⟩
    exact (List.getElem?_append_left (List.getElem?_eq_some_iff.mp hold).1).trans hold
  others := by
    intro n hne
    rw [← h.others n hne]
    simp [rowsOf, SubscriptionTable.append, htenant, Ne.symm hne]
  added := by
    intro i row hi hrow
    rw [← hlength] at hi ⊢
    simp only [SubscriptionTable.append, List.getElem?_append_right hi] at hrow
    obtain ⟨hlast, rfl⟩ := List.getElem?_eq_some_iff.mp hrow
    simp only [List.length_singleton] at hlast
    refine ⟨by omega, ?_⟩
    simpa [htenant] using hfirst

theorem extends_createTrial (table : SubscriptionTable) (sub : Subscription) :
    table.Extends sub.tenantId (table.createTrial sub).2 := by
  unfold createTrial
  split
  · exact .refl _ table
  · rename_i hhistory
    have hnone : table.findCurrent sub.tenantId = none := by
      by_contra hsome
      obtain ⟨row, hrow⟩ := Option.ne_none_iff_exists'.mp hsome
      exact hhistory (hasHistory_of_findCurrent hrow)
    exact (Extends.refl _ table).append rfl (.inr hnone) rfl
      fun _ => Bool.eq_false_iff.mpr hhistory

theorem extends_convertTrialToPaid (table : SubscriptionTable) {paid : Subscription}
    (hstatus : paid.status ≠ .trialing) :
    table.Extends paid.tenantId (table.convertTrialToPaid paid.tenantId paid) := by
  have hnone : (table.cancelCurrent paid.tenantId).2.findCurrent paid.tenantId = none := by simp
  rw [convertTrialToPaid, insertSubscription, dif_pos (.inr hnone)]
  exact (extends_patchCurrent table paid.tenantId _).append (by simp [patchCurrent]) (.inr hnone)
    rfl fun htrial => absurd htrial hstatus

end Wardnet.Subscriptions.SubscriptionTable
