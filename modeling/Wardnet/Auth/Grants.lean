/-
# What a token opens

Tenants mints tokens in two places: for a daemon that shows its key, and for a browser with a
session. A token is good at the services in its audience. The regional services are named
only in the tokens of daemons that have a network, and such a token carries that network and
is bound to the daemon's key.
-/

import Wardnet.Auth.Authenticate
import Wardnet.Authority.Entitled
import Wardnet.Identities.World

namespace Wardnet.Auth

open Base Identities
open Authority (Database TrialPolicy mintJwt)

variable {s : Db} {now : Int} {publicKey : String} {claims : Claims} {setup : Setup}

def sampleKey : String := "AAAAAAAAAAAAAAAAAAAAAAAAAAAAAAAAAAAAAAAAAAA="

/-- A tenant on its trial has registered a network. -/
def sampleDb : Db where
  toDatabase := Authority.stateAt 0 []
    (Authority.registerNetwork Authority.sampleConfig "net-1" "tenant-1" sampleKey "home" none
      "eu").run
    (Authority.stateAfter Authority.signup)
  codes := ∅
  drawn := []
  attempts := fun _ => ∅

def sampleUpgrade : Request where
  method := "GET"
  pathAndQuery := "/v1/tunnel"
  headers := ⟨[("Authorization", "Bearer token"), ("X-Wardnet-Timestamp", "5"),
    ("X-Wardnet-Signature", "c2lnbmF0dXJl")], by decide⟩
  body := []
  service := none

end Wardnet.Auth
