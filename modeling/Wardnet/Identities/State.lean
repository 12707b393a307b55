/-
# The state of the identity plane

The login methods and browser sessions of tenants live in the database of the Tenants
deployable, next to the one-time codes. Each replica keeps its own count of password
attempts in memory. The calls of the other services act on the same database.

A session token is random: its hash is neither that of a token drawn before nor that of a
stored session. A failed call has no effect.
-/

import Wardnet.Auth.Token
import Wardnet.Enrollment.Codes

namespace Wardnet.Identities

open Base Tenants
open Authority (Database VerifiedIdentity Failure)
open Enrollment (CodePurpose CodeRow)

def loginAttemptsPerIp : ℕ := 10

def loginWindowSecs : Int := 300

/-- The attempts of a replica: per address, the start of the window and the attempts in it. -/
abbrev LoginAttempts := Store String (Int × ℕ)

def LoginAttempts.allowed (attempts : LoginAttempts) (remoteIp : String) (now : Int) :
    Bool × LoginAttempts :=
  let attempts := attempts.retain fun _ entry => now - entry.1 < loginWindowSecs
  let entry := (attempts.get? remoteIp).getD (now, 0)
  let entry := if loginWindowSecs ≤ now - entry.1 then (now, 0) else entry
  if loginAttemptsPerIp ≤ entry.2 then (false, attempts.insert remoteIp entry)
  else (true, attempts.insert remoteIp (entry.1, entry.2 + 1))

/-- The database with the one-time codes, the hashes of the session tokens drawn so far, and
the attempts that each replica has counted. -/
structure Db extends Database where
  codes : Store String CodeRow
  drawn : List String
  attempts : ℕ → LoginAttempts

/-- The hash functions: SHA-256 of codes and of tokens, and the salted password hash. -/
structure Hashing where
  hashCode : String → String
  hashToken : String → String
  hashPassword : String → String → String
  verifyPassword : String → String → Bool
  /-- A password verifies against its own hash. -/
  verify_hash : ∀ salt password, verifyPassword (hashPassword salt password) password = true

inductive UnlinkOutcome
  | removed
  | notLinked
  | wouldRemoveLast
  deriving DecidableEq

inductive Call
  | authority (c : Authority.Call)
  | loginAllowed (replica : ℕ) (remoteIp : String) (now : Int)
  | newSalt
  | randomToken
  | exchange (provider code verifier : String)
  | consumeCode (hash : String) (purpose : CodePurpose) (now : Int)
  | updateSecretHash (provider subject secretHash : String)
  | unlinkGuarded (tenantId provider : String)
  | createSession (tokenHash : String) (session : Session)
  | touchAndGetTenant (tokenHash : String) (now newExpiresAt : Int)
  | deleteSession (tokenHash : String)
  /-- A loop that has not ended yet. -/
  | stall
  deriving DecidableEq

@[reducible]
def Call.Resp : Call → Type
  | .authority c => c.Resp
  | .loginAllowed .. => Bool
  | .newSalt | .randomToken => String
  | .exchange .. => Except Failure VerifiedIdentity
  | .consumeCode .. | .touchAndGetTenant .. => Except Failure (Option String)
  | .updateSecretHash .. | .deleteSession _ => Except Failure Bool
  | .unlinkGuarded .. => Except Failure UnlinkOutcome
  | .createSession .. => Except Failure Unit
  | .stall => Empty

/-- What a call leaves open: what the calls of the other services leave open, the text that is
drawn, and what a federated provider vouches for. -/
structure Choice extends Authority.Choice where
  text : String
  verified : VerifiedIdentity

namespace Db

def consumeCode (s : Db) (hash : String) (purpose : CodePurpose) (now : Int) :
    Option String × Db :=
  match (s.codes.get? hash).filter fun row =>
    row.usable now ∧ row.purpose = purpose ∧ row.tenantId = none with
  | none => (none, s)
  | some row =>
    (some row.email, { s with codes := s.codes.insert hash { row with usedAt := some now } })

/-- `update_secret_hash`: whether there was a row. -/
def updateSecretHash (s : Db) (provider subject secretHash : String) : Bool × Db :=
  let out := s.identities.updateWhere (fun key _ => key = (provider, subject))
    fun row => { row with secretHash := some secretHash }
  (0 < out.1, { s with identities := out.2 })

def unlinkGuarded (s : Db) (tenantId provider : String) : UnlinkOutcome × Db :=
  let providers := (s.identities.select fun _ row => row.tenantId = tenantId).map (·.1.1)
  let victims := providers.count provider
  if victims = 0 then (.notLinked, s)
  else if providers.length = victims then (.wouldRemoveLast, s)
  else (.removed,
    { s with identities :=
      s.identities.retain fun key row => !(row.tenantId = tenantId ∧ key.1 = provider) })

/-- `touch_and_get_tenant`: slide the expiry of a session that is not over and whose tenant is
live. -/
def touchAndGetTenant (s : Db) (tokenHash : String) (now newExpiresAt : Int) :
    Option String × Db :=
  match (s.sessions.get? tokenHash).filter fun row =>
    now < row.expiresAt ∧ s.tenants.isLive row.tenantId = true with
  | none => (none, s)
  | some row =>
    (some row.tenantId,
      { s with sessions := s.sessions.insert tokenHash { row with expiresAt := newExpiresAt } })

def freshHash (s : Db) (tokenHash : String) : Bool :=
  tokenHash ∉ s.drawn ∧ s.sessions.contains tokenHash = false

/-- The effect of a call that does not fail by itself; `none` where the choice is not
possible. -/
def perform (hashing : Hashing) (choice : Choice) : (c : Call) → Db → Option (c.Resp × Db)
  | .authority c, s =>
    (Database.perform choice.toChoice c s.toDatabase).map fun out =>
      (out.1, { s with toDatabase := out.2 })
  | .loginAllowed replica remoteIp now, s =>
    let out := (s.attempts replica).allowed remoteIp now
    some (out.1, { s with attempts := Function.update s.attempts replica out.2 })
  | .newSalt, s => some (choice.text, s)
  | .randomToken, s =>
    if s.freshHash (hashing.hashToken choice.text) then
      some (choice.text, { s with drawn := hashing.hashToken choice.text :: s.drawn })
    else none
  | .exchange provider .., s =>
    if choice.verified.provider = provider then some (.ok choice.verified, s) else none
  | .consumeCode hash purpose now, s =>
    let out := s.consumeCode hash purpose now
    some (.ok out.1, out.2)
  | .updateSecretHash provider subject secretHash, s =>
    let out := s.updateSecretHash provider subject secretHash
    some (.ok out.1, out.2)
  | .unlinkGuarded tenantId provider, s =>
    let out := s.unlinkGuarded tenantId provider
    some (.ok out.1, out.2)
  | .createSession tokenHash session, s =>
    -- The primary key, and the foreign key to `tenants`.
    if s.sessions.contains tokenHash = true ∨ s.tenantExists session.tenantId = false then
      some (.error .failed, s)
    else some (.ok (), { s with sessions := s.sessions.insert tokenHash session })
  | .touchAndGetTenant tokenHash now newExpiresAt, s =>
    let out := s.touchAndGetTenant tokenHash now newExpiresAt
    some (.ok out.1, out.2)
  | .deleteSession tokenHash, s =>
    some (.ok (s.sessions.contains tokenHash),
      { s with sessions := s.sessions.erase tokenHash })
  | .stall, _ => none

def refuse : (c : Call) → Option c.Resp
  | .authority c => Database.refuse c
  | .loginAllowed .. | .newSalt | .randomToken | .stall => none
  | .exchange .. | .consumeCode .. | .updateSecretHash .. | .unlinkGuarded .. | .createSession ..
  | .touchAndGetTenant .. | .deleteSession _ => some (.error .failed)

def exec (hashing : Hashing) (choice : Choice) (c : Call) (s : Db) : Option (c.Resp × Db) :=
  if choice.fails then (refuse c).map fun r => (r, s) else perform hashing choice c s

def Step (hashing : Hashing) (c : Call) (s : Db) (r : c.Resp) (s' : Db) : Prop :=
  ∃ choice, exec hashing choice c s = some (r, s')

end Db

end Wardnet.Identities
