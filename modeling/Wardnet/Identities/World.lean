/-
# The identity service

Password and federated login, the linking of login methods, and browser sessions. The service
reads and creates tenants through the tenant service, whose procedures are those of
`Authority.World`.
-/

import Wardnet.Identities.State

namespace Wardnet.Identities

open Base Tenants
open Authority (Config TenantsError VerifiedIdentity Failure normalizeEmail)
open Auth (Claims ClaimsSpec)
open Enrollment (CodePurpose)

abbrev Proc := Prog Call Call.Resp

abbrev ask (c : Call) : Proc c.Resp := Base.perform c

inductive IdentitiesError
  | badRequest (message : String)
  | badCode (message : String)
  | unauthorized (message : String)
  | conflict (message : String)
  | rateLimited (message : String)
  | internal
  deriving DecidableEq

/-- An error of the tenant service, as this service reports it. -/
def IdentitiesError.ofTenants : TenantsError → IdentitiesError
  | .badRequest message | .entitlementExceeded message => .badRequest message
  | .badCode message => .badCode message
  | .forbidden message | .conflict message => .conflict message
  | .notFound message => .unauthorized message
  | .rateLimited message => .rateLimited message
  | .internal => .internal

def IdentitiesError.ofResolution : Authority.IdentitiesError → IdentitiesError
  | .unauthorized message => .unauthorized message
  | .tenants error => .ofTenants error
  | .internal => .internal

abbrev Service := ExceptT IdentitiesError Proc

def delegate {α : Type} (p : Authority.Proc α) : Proc α := p.translate .authority fun _ r => r

def onTenants {α : Type} (p : ExceptT TenantsError Authority.Proc α) : Service α :=
  ExceptT.mk ((delegate p.run).bind fun r => .ret (r.mapError .ofTenants))

def orInternal {α : Type} (p : Proc (Except Failure α)) : Service α :=
  ExceptT.mk (p.bind fun r => .ret (r.mapError fun _ => .internal))

def utcNow : Proc Int := ask (.authority .utcNow)

def providerPassword : String := "password"

def minPasswordLen : ℕ := 8

def sessionTtlSecs : Int := 30 * 24 * 60 * 60

def normalized (config : Config) (email : String) : Except IdentitiesError String :=
  (normalizeEmail config email).mapError .ofTenants

def checkPassword (password : String) : Except IdentitiesError Unit :=
  if password.utf8ByteSize < minPasswordLen then
    .error (.badRequest "password must be at least 8 characters")
  else .ok ()

/-- `consume_code` of the tenant service, with the error of this one. -/
def burnCode (hashing : Hashing) (code : String) (purpose : CodePurpose) : Service String := do
  let now ← (utcNow : Proc Int)
  match ← orInternal (ask (.consumeCode (hashing.hashCode code) purpose now)) with
  | some email => pure email
  | none => throw (.badCode "invalid or expired code")

def hashPassword (hashing : Hashing) (password : String) : Proc String := do
  let salt ← ask .newSalt
  pure (hashing.hashPassword salt password)

def findIdentity (provider subject : String) : Service (Option TenantIdentity) :=
  orInternal (ask (.authority (.findIdentity provider subject)))

def insertIdentity (provider subject : String) (identity : TenantIdentity) :
    Service InsertIdentityOutcome :=
  orInternal (ask (.authority (.insertIdentity provider subject identity)))

def tenantIsLive (tenantId : String) : ExceptT TenantsError Authority.Proc Bool := do
  let tenant ← Authority.orInternal (Authority.issue (.findTenant tenantId))
  pure (tenant.any (·.deregisteredAt = none))

/-- The part of `create_session` after its check: draw a token and store the session. -/
def openSession (hashing : Hashing) (tenantId : String) : Service String := do
  let raw ← (ask .randomToken : Proc String)
  let now ← (utcNow : Proc Int)
  orInternal (ask (.createSession (hashing.hashToken raw) ⟨tenantId, now + sessionTtlSecs, now⟩))
  pure raw

def createSession (hashing : Hashing) (tenantId : String) : Service String := do
  if !(← onTenants (tenantIsLive tenantId)) then throw (.unauthorized "account is closed")
  openSession hashing tenantId

/-- `resolve_identity`, with the id that a new tenant would get. -/
def resolveIdentity (config : Config) (id : String) (verified : VerifiedIdentity)
    (secretHash : Option String) : Service (String × Bool) :=
  ExceptT.mk ((delegate (Authority.resolveIdentity config id verified secretHash).run).bind fun r =>
    .ret (r.mapError .ofResolution))

/-! ## Passwords -/

def passwordSignup (config : Config) (hashing : Hashing) (id email code password : String) :
    Service String := do
  ExceptT.mk (.ret (checkPassword password))
  let codeEmail ← burnCode hashing code .signup
  let email ← ExceptT.mk (.ret (normalized config email))
  if codeEmail ≠ email then throw (.badCode "code was not issued for this email")
  if (← findIdentity providerPassword codeEmail).isSome then
    throw (.conflict "an account with this email already has a password")
  let hash ← (hashPassword hashing password : Proc String)
  let (tenantId, existed) ← resolveIdentity config id
    ⟨providerPassword, codeEmail, codeEmail, true⟩ (some hash)
  if existed then throw (.conflict "an account with this email already has a password")
  createSession hashing tenantId

def passwordLogin (config : Config) (hashing : Hashing) (replica : ℕ)
    (email password remoteIp : String) : Service String := do
  let now ← (utcNow : Proc Int)
  if !(← (ask (.loginAllowed replica remoteIp now) : Proc Bool)) then
    throw (.rateLimited "too many login attempts; try again later")
  let email ← ExceptT.mk (.ret (normalized config email))
  match ← findIdentity providerPassword email with
  | none => throw (.unauthorized "invalid email or password")
  | some identity =>
    if identity.secretHash.any (hashing.verifyPassword · password) then
      createSession hashing identity.tenantId
    else throw (.unauthorized "invalid email or password")

/-- Link a fresh password. An insert that loses a race is followed by an update. -/
def insertPassword (tenantId email hash : String) : Service Unit := do
  match ← insertIdentity providerPassword email ⟨tenantId, some hash, email⟩ with
  | .created => pure ()
  | .alreadyExists =>
    let _ ← orInternal (ask (.updateSecretHash providerPassword email hash))

/-- Set the password of an account: replace the hash, or link a fresh login method. -/
def upsertPassword (tenantId email hash : String) : Service Unit := do
  if ← orInternal (ask (.updateSecretHash providerPassword email hash)) then pure ()
  else insertPassword tenantId email hash

/-- `delete_for_tenant` of the sessions. -/
def deleteSessions (tenantId : String) : Service Unit := do
  let _ ← orInternal (ask (.authority (.deleteSessionsForTenant tenantId)))

def passwordReset (config : Config) (hashing : Hashing) (code newPassword : String) :
    Service Unit := do
  ExceptT.mk (.ret (checkPassword newPassword))
  let email ← burnCode hashing code .passwordReset
  match ← onTenants (Authority.findTenantByEmail config email) with
  | none => pure ()
  | some tenantId =>
    let hash ← (hashPassword hashing newPassword : Proc String)
    upsertPassword tenantId email hash
    deleteSessions tenantId

/-- `str::eq_ignore_ascii_case`. -/
def eqIgnoreAsciiCase (a b : String) : Bool :=
  a.toList.map Char.toLower = b.toList.map Char.toLower

def setPasswordAuthenticated (hashing : Hashing) (tenantId code newPassword : String) :
    Service String := do
  ExceptT.mk (.ret (checkPassword newPassword))
  match ← orInternal (ask (.authority (.findTenant tenantId))) with
  | none => throw (.unauthorized "account not found")
  | some tenant =>
    let provenEmail ← burnCode hashing code .passwordChange
    if !eqIgnoreAsciiCase provenEmail tenant.email then
      throw (.badCode "code does not match your account email")
    let hash ← (hashPassword hashing newPassword : Proc String)
    upsertPassword tenantId tenant.email hash
    deleteSessions tenantId
    createSession hashing tenantId

/-! ## Federated login -/

def exchange (providers : List String) (provider code verifier : String) :
    Service VerifiedIdentity := do
  if provider ∉ providers then throw (.badRequest ("unknown provider '" ++ provider ++ "'"))
  orInternal (ask (.exchange provider code verifier))

def oidcCallback (config : Config) (hashing : Hashing) (providers : List String)
    (id provider code verifier : String) : Service String := do
  let identity ← exchange providers provider code verifier
  let (tenantId, _) ← resolveIdentity config id identity none
  createSession hashing tenantId

/-- The loop of `link_identity`: look the login method up, else insert it, else look again.
`rounds` bounds the rounds that are looked at. -/
def linkLoop (tenantId provider subject email : String) : ℕ → Service Unit
  | 0 => ExceptT.mk (.call .stall fun never => never.elim)
  | rounds + 1 => do
      match ← findIdentity provider subject with
      | some existing =>
        if existing.tenantId = tenantId then pure ()
        else throw (.conflict "this login method is already linked to another account")
      | none =>
        match ← insertIdentity provider subject ⟨tenantId, none, email⟩ with
        | .created => pure ()
        | .alreadyExists => linkLoop tenantId provider subject email rounds

def linkIdentity (config : Config) (providers : List String) (rounds : ℕ)
    (provider code verifier tenantId : String) : Service Unit := do
  let identity ← exchange providers provider code verifier
  if !identity.emailVerified then throw (.unauthorized "provider did not verify the email")
  let email ← ExceptT.mk (.ret (normalized config identity.email))
  linkLoop tenantId identity.provider identity.subject email rounds

def unlinkIdentity (tenantId provider : String) : Service Unit := do
  match ← orInternal (ask (.unlinkGuarded tenantId provider)) with
  | .removed | .notLinked => pure ()
  | .wouldRemoveLast => throw (.conflict "cannot remove your last login method")

/-! ## Sessions -/

def userSpec (tenantId : String) : ClaimsSpec where
  tenantId := tenantId
  principalType := .user
  subject := tenantId
  network := none
  cnfEd25519B64 := none
  audience := ["tenants"]

/-- `exchange_session`, up to the encoding of the claims. -/
def exchangeSession (hashing : Hashing) (userJwtTtlSecs : Int) (rawToken : String) :
    Service Claims := do
  let now ← (utcNow : Proc Int)
  match ← orInternal (ask (.touchAndGetTenant (hashing.hashToken rawToken) now
    (now + sessionTtlSecs))) with
  | some tenantId => pure ((userSpec tenantId).claims now userJwtTtlSecs)
  | none => throw (.unauthorized "no active session")

def logout (hashing : Hashing) (rawToken : String) : Service Unit := do
  let _ ← orInternal (ask (.deleteSession (hashing.hashToken rawToken)))

/-! ## The plane as a world of tasks -/

structure Setup where
  config : Config
  hashing : Hashing
  providers : List String
  userJwtTtlSecs : Int

inductive Task
  | passwordSignup (id email code password : String)
  | passwordLogin (replica : ℕ) (email password remoteIp : String)
  | passwordReset (code newPassword : String)
  | setPasswordAuthenticated (tenantId code newPassword : String)
  | resolveIdentity (id : String) (verified : VerifiedIdentity) (secretHash : Option String)
  | oidcCallback (id provider code verifier : String)
  | linkIdentity (rounds : ℕ) (provider code verifier tenantId : String)
  | unlinkIdentity (tenantId provider : String)
  | exchangeSession (rawToken : String)
  | logout (rawToken : String)
  | logoutAll (tenantId : String)
  | deregisterTenant (tenantId : String)
  /-- A task of the other services: signup of a tenant, reactors, sweeps. -/
  | authority (task : Authority.Task)
  deriving DecidableEq

inductive Answer
  | session (rawToken : String)
  | tenant (tenantId : String) (existed : Bool)
  | minted (claims : Claims)
  | done
  deriving DecidableEq

def answer {α : Type} (f : α → Answer) (p : Service α) : Proc (Except IdentitiesError Answer) :=
  p.run.bind fun out => .ret (out.map f)

def Task.body (setup : Setup) : Task → Proc (Except IdentitiesError Answer)
  | .passwordSignup id email code password =>
    answer .session (Identities.passwordSignup setup.config setup.hashing id email code password)
  | .passwordLogin replica email password remoteIp =>
    answer .session
      (Identities.passwordLogin setup.config setup.hashing replica email password remoteIp)
  | .passwordReset code newPassword =>
    answer (fun _ => .done)
      (Identities.passwordReset setup.config setup.hashing code newPassword)
  | .setPasswordAuthenticated tenantId code newPassword =>
    answer .session
      (Identities.setPasswordAuthenticated setup.hashing tenantId code newPassword)
  | .resolveIdentity id verified secretHash =>
    answer (fun out => .tenant out.1 out.2)
      (Identities.resolveIdentity setup.config id verified secretHash)
  | .oidcCallback id provider code verifier =>
    answer .session
      (Identities.oidcCallback setup.config setup.hashing setup.providers id provider code
        verifier)
  | .linkIdentity rounds provider code verifier tenantId =>
    answer (fun _ => .done)
      (Identities.linkIdentity setup.config setup.providers rounds provider code verifier
        tenantId)
  | .unlinkIdentity tenantId provider =>
    answer (fun _ => .done) (Identities.unlinkIdentity tenantId provider)
  | .exchangeSession rawToken =>
    answer .minted (Identities.exchangeSession setup.hashing setup.userJwtTtlSecs rawToken)
  | .logout rawToken => answer (fun _ => .done) (Identities.logout setup.hashing rawToken)
  | .logoutAll tenantId => answer (fun _ => .done) (deleteSessions tenantId)
  | .deregisterTenant tenantId =>
    answer (fun _ => .done) (onTenants (Authority.deregisterTenant tenantId))
  | .authority task =>
    (delegate (Authority.Task.body setup.config task)).bind fun _ => .ret (.ok .done)

/-- What the rest of the tenant service does to the codes: one is issued for an email and a
purpose, for nobody's tenant. -/
structure Issue where
  hash : String
  email : String
  purpose : CodePurpose
  expiresAt : Int
  deriving DecidableEq

/-- The effect on the codes. The email is normalized, and the hash is a primary key. -/
def Issue.apply (config : Config) (issue : Issue) (s : Db) : Option Db :=
  match normalizeEmail config issue.email with
  | .error _ => none
  | .ok email =>
    if s.codes.contains issue.hash then none
    else some { s with
      codes := s.codes.insert issue.hash ⟨email, none, issue.purpose, issue.expiresAt, none⟩ }

theorem Issue.apply_eq_some {config : Config} {issue : Issue} {s s' : Db}
    (h : issue.apply config s = some s') : ∃ codes, s' = { s with codes } := by
  unfold Issue.apply at h
  split at h
  · cases h
  · split at h
    · cases h
    · cases h
      exact ⟨_, rfl⟩

@[reducible]
def plane (setup : Setup) : World where
  State := Db
  Call := Call
  Resp := Call.Resp
  Choice := Choice
  exec := Db.exec setup.hashing
  Task := Task
  Result := Except IdentitiesError Answer
  body := Task.body setup
  Env := Issue
  env := Issue.apply setup.config

/-! ## Sample runs -/

def sampleHashing : Hashing where
  hashCode := id
  hashToken := id
  hashPassword _ password := password
  verifyPassword hash password := hash = password
  verify_hash _ _ := decide_eq_true rfl

def sampleSetup : Setup := ⟨Authority.sampleConfig, sampleHashing, ["google"], 300⟩

def Db.empty : Db := ⟨.empty, ∅, [], fun _ => ∅⟩

/-- The clock shows 0, a given text is drawn, and Google vouches for an email. -/
def sampleChoice (text : String) : Choice :=
  ⟨⟨0, false, "", []⟩, text, ⟨"google", "sub-1", "a@b", true⟩⟩

def sampleTurns (i : ℕ) (text : String) (n : ℕ) : List (plane sampleSetup).Action :=
  List.replicate n (.step i (sampleChoice text))

/-- A tenant signs up with a password. -/
def sampleSignup : List (plane sampleSetup).Action :=
  [.env ⟨"code-1", "a@b", .signup, 100⟩,
    .spawn (.passwordSignup "tenant-1" "a@b" "code-1" "password-1")] ++ sampleTurns 0 "token-1" 13

/-- Then it asks for a reset. -/
def sampleForgotten : List (plane sampleSetup).Action :=
  sampleSignup ++ [.env ⟨"code-2", "a@b", .passwordReset, 100⟩]

/-- Or it deregisters. -/
def sampleClosing : List (plane sampleSetup).Action :=
  sampleSignup ++ [.spawn (.deregisterTenant "tenant-1")] ++ sampleTurns 1 "" 3

end Wardnet.Identities
