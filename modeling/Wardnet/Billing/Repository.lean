/-
# Billing's tables

`billing_customers` maps a tenant to its Stripe customer, subscription and price;
`processed_stripe_events` is the idempotency ledger. The index on the
subscription id is not unique, so a lookup by subscription may find several
tenants and returns one of them.
-/

import Wardnet.Base.Store

namespace Wardnet.Billing

open Base

structure BillingRow where
  stripeCustomerId : Option String
  stripeSubscriptionId : Option String
  priceId : Option String
  deriving DecidableEq

abbrev BillingTable := Store String BillingRow

namespace BillingTable

def upsertSubscription (table : BillingTable)
    (tenantId stripeCustomerId stripeSubscriptionId : String)
    (priceId : Option String) : BillingTable :=
  table.insert tenantId ⟨some stripeCustomerId, some stripeSubscriptionId, priceId⟩

/-- The rows among which `tenant_for_subscription` finds one. -/
def tenantsForSubscription (table : BillingTable) (stripeSubscriptionId : String) : List String :=
  (table.select fun _ row => row.stripeSubscriptionId = some stripeSubscriptionId).map Prod.fst

/-- The rows among which `subscription_for_customer` finds one. -/
def subscriptionsForCustomer (table : BillingTable) (stripeCustomerId : String) :
    List (String × Option String) :=
  (table.select fun _ row => row.stripeCustomerId = some stripeCustomerId).map
    fun entry => (entry.1, entry.2.stripeSubscriptionId)

theorem mem_tenantsForSubscription_iff {table : BillingTable}
    {stripeSubscriptionId tenantId : String} :
    tenantId ∈ table.tenantsForSubscription stripeSubscriptionId ↔
      ∃ row, table.get? tenantId = some row ∧
        row.stripeSubscriptionId = some stripeSubscriptionId := by
  simp only [tenantsForSubscription, List.mem_map, Prod.exists, exists_and_right, exists_eq_right]
  constructor
  · rintro ⟨row, hrow⟩
    obtain ⟨hget, hcond⟩ := Store.mem_select_iff.mp hrow
    exact ⟨row, hget, of_decide_eq_true hcond⟩
  · rintro ⟨row, hget, hsub⟩
    exact ⟨row, Store.mem_select_iff.mpr ⟨hget, by simpa using hsub⟩⟩

end BillingTable

end Wardnet.Billing
