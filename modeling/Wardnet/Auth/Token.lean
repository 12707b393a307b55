/-
# Tokens

Tenants signs short-lived tokens for daemons and users. Every service verifies them offline,
with the public key and its own name: a token is good only where its audience says so.

The cryptography is a parameter. `decode` gives the claims of a text that carries a valid
signature of Tenants, and signing claims yields a text with these claims.
-/

import Wardnet.Base.Text

namespace Wardnet.Auth

open Base

inductive PrincipalType
  | daemon
  | user
  deriving DecidableEq

/-- The confirmation claim: the Base64 text of the key whose possession is to be proved. -/
structure Confirmation where
  ed25519 : String
  deriving DecidableEq

structure Claims where
  iss : String
  tid : String
  pt : PrincipalType
  sub : String
  net : Option String
  cnf : Option Confirmation
  aud : List String
  iat : Int
  exp : Int
  deriving DecidableEq

def issuer : String := "tenants"

structure ClaimsSpec where
  tenantId : String
  principalType : PrincipalType
  subject : String
  network : Option String
  cnfEd25519B64 : Option String
  audience : List String
  deriving DecidableEq

/-- The claims that `Signer::sign` encodes. -/
def ClaimsSpec.claims (spec : ClaimsSpec) (issuedAt ttlSecs : Int) : Claims where
  iss := issuer
  tid := spec.tenantId
  pt := spec.principalType
  sub := spec.subject
  net := spec.network
  cnf := spec.cnfEd25519B64.map Confirmation.mk
  aud := spec.audience
  iat := issuedAt
  exp := issuedAt + ttlSecs

end Wardnet.Auth
