/-
# The email of a deregistered tenant

A deregistration frees the email in the table of tenants at once. The login methods of the
tenant are removed later, by a reaction to an event. Until then a signup with a password is
refused, because the old login method is still stored under the email.
-/

import Wardnet.Identities.Alone
import Wardnet.Identities.Effects
import Wardnet.Identities.Triples

namespace Wardnet.Identities

open Base Tenants Learning
open Base.Learning (ifOk)
open Authority (Config TenantsError Failure normalizeEmail)
open Enrollment (CodeRow)

/-! ## Deregistration -/

section

variable {setup : Setup} {task : Task} {own : Option ℕ}

end

end Wardnet.Identities
