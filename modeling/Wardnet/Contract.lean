/-
# The shared contract

The lifecycle enumerations and resource views that cross the boundary between
the services. Timestamps are integers in seconds; fields that no modelled
function reads (display names, creation times) are left out.
-/

import Mathlib.Data.Nat.Notation

namespace Wardnet

/-- Network lifecycle. The final transition of a teardown deletes the row, so it
has no state of its own. -/
inductive ProvisioningState
  | provisioning
  | active
  | deprovisioning
  deriving DecidableEq, Repr

structure Entitlement where
  maxNetworks : ℕ
  maxDaemons : ℕ
  deriving DecidableEq, Repr

def Entitlement.Within (target trial : Entitlement) : Prop :=
  target.maxNetworks ≤ trial.maxNetworks ∧ target.maxDaemons ≤ trial.maxDaemons

instance (target trial : Entitlement) : Decidable (target.Within trial) :=
  inferInstanceAs (Decidable (_ ∧ _))

def Entitlement.default : Entitlement := ⟨1, 1⟩

inductive SubscriptionStatus
  | trialing
  | active
  | pastDue
  | canceled
  deriving DecidableEq, Repr

structure NetworkView where
  id : String
  tenantId : String
  slug : String
  region : String
  provisioningState : ProvisioningState
  deriving DecidableEq, Repr

structure SubscriptionView where
  status : SubscriptionStatus
  entitlement : Entitlement
  trialExpiresAt : Option Int
  currentPeriodEnd : Option Int
  deriving DecidableEq, Repr

/-- `SubscriptionView::is_active`: a current subscription entitles unless it is
canceled. The grace windows are enforced where the subscription is produced. -/
def SubscriptionView.isActive (s : SubscriptionView) : Bool := s.status ≠ .canceled

structure TenantView where
  id : String
  subscription : Option SubscriptionView
  deriving DecidableEq, Repr

def TenantView.entitled (t : TenantView) : Bool := t.subscription.any SubscriptionView.isActive

inductive ApiError
  | badRequest (message : String)
  | forbidden (message : String)
  | notFound (message : String)
  | conflict (message : String)
  | internal
  deriving DecidableEq, Repr

end Wardnet
