/-
# One-time codes and enrollment

A one-time code proves control of an email address, or adds a daemon to a tenant. It is
issued for one purpose and stored as its hash. Two flows use it up: `consume_code` in one
statement, and `enroll` in a transaction that may still be rolled back afterwards. Every
statement is one step here. What an open transaction has written is its draft: others do not
see it, but they wait for the rows that it holds.
-/

import Wardnet.Authority.World

namespace Wardnet.Enrollment

open Base Tenants
open Authority (Config TenantsError DomainEvent Failure normalizeEmail)

inductive CodePurpose
  | signup
  | passwordReset
  | passwordChange
  | enrollment
  deriving DecidableEq

/-- A row of `enrollment_codes`, under the hash of the code. -/
structure CodeRow where
  email : String
  tenantId : Option String
  purpose : CodePurpose
  expiresAt : Int
  usedAt : Option Int
  deriving DecidableEq

/-- The condition that both flows share. -/
def CodeRow.usable (row : CodeRow) (now : Int) : Bool := row.usedAt = none ∧ now < row.expiresAt

/-- What an open transaction has written: the row of the code, a new tenant with its email,
and the binding of the daemon. -/
structure Draft where
  burned : Option (String × CodeRow)
  tenant : Option (String × String)
  pending : Option (String × PendingRow)
  deriving DecidableEq

def Draft.empty : Draft := ⟨none, none, none⟩

def Draft.burns (d : Draft) (hash : String) : Bool := d.burned.any (·.1 = hash)

structure Db where
  tenants : TenantTable
  codes : Store String CodeRow
  pending : Store String PendingRow
  /-- `enrollment_code_log`. -/
  requests : List (String × Int)
  next : ℕ
  drafts : Store ℕ Draft

inductive Call
  | utcNow
  | newUuid
  | generateCode
  | countCodeRequests (remoteIp : String) (since : Int)
  | logCodeRequest (remoteIp : String) (createdAt : Int)
  | issueCode (hash : String) (row : CodeRow)
  | sendCode (email code : String) (purpose : CodePurpose)
  | findTenant (id : String)
  | begin
  | burn (x : ℕ) (hash : String) (now : Int)
  | tenantLive (x : ℕ) (id : String)
  | insertTenant (x : ℕ) (id email : String)
  | selectTenant (x : ℕ) (email : String)
  | upsertPending (x : ℕ) (publicKey : String) (row : PendingRow)
  | commit (x : ℕ)
  | rollback (x : ℕ)
  /-- A transaction that goes out of scope. -/
  | drop (x : ℕ)
  | consumeCode (hash : String) (purpose : CodePurpose) (now : Int)
  | publish (event : DomainEvent)
  deriving DecidableEq

@[reducible]
def Call.Resp : Call → Type
  | .utcNow => Int
  | .newUuid | .generateCode => String
  | .countCodeRequests .. | .begin => Except Failure ℕ
  | .logCodeRequest .. | .issueCode .. | .sendCode .. | .upsertPending .. | .commit _
  | .rollback _ | .publish _ => Except Failure Unit
  | .findTenant _ => Except Failure (Option Tenant)
  | .burn .. => Except Failure (Option (String × Option String))
  | .tenantLive .. => Except Failure (Option Bool)
  | .insertTenant .. => Except Failure (Option String)
  | .selectTenant .. => Except Failure String
  | .drop _ => Unit
  | .consumeCode .. => Except Failure (Option String)

/-- The calls that may take effect although they are reported as failed. -/
def Call.losesAnswer : Call → Bool
  | .logCodeRequest .. | .issueCode .. | .commit _ | .rollback _ | .consumeCode .. => true
  | _ => false

/-- What a call leaves open: the clock, the text that is drawn, whether the call fails, and
whether a call that is reported as failed has taken effect. -/
structure Choice where
  now : Int
  text : String
  fails : Bool
  applied : Bool

def codeAlphabet : List Char := "ABCDEFGHJKLMNPQRSTUVWXYZ23456789".toList

def isCode (text : String) : Bool := text.toList.length = 6 ∧ text.toList.all (· ∈ codeAlphabet)

namespace Db

/-- Another transaction than `x` holds something. -/
def heldByOther (s : Db) (x : Option ℕ) (held : Draft → Bool) : Bool :=
  (s.drafts.select fun y d => some y ≠ x ∧ held d = true) ≠ []

/-- A statement of a transaction, which may wait. It fails if the transaction is gone. -/
def inTransaction {α : Type} (s : Db) (x : ℕ)
    (statement : Draft → Option (Except Failure α × Draft)) : Option (Except Failure α × Db) :=
  match s.drafts.get? x with
  | none => some (.error .failed, s)
  | some d => (statement d).map fun out =>
    (out.1, { s with drafts := s.drafts.insert x out.2 })

/-- The tables with what a transaction has written. -/
def applyDraft (s : Db) (d : Draft) : Db :=
  { s with
    codes := d.burned.elim s.codes fun entry => s.codes.insert entry.1 entry.2
    tenants := d.tenant.elim s.tenants fun entry =>
      (s.tenants.create entry.1 entry.2).elim s.tenants Prod.snd
    pending := d.pending.elim s.pending fun entry => s.pending.insert entry.1 entry.2 }

def close (s : Db) (x : ℕ) : Db := { s with drafts := s.drafts.erase x }

/-- The effect of a call; `none` while it waits, or where the choice is not possible. -/
def perform (choice : Choice) : (c : Call) → Db → Option (c.Resp × Db)
  | .utcNow, s => some (choice.now, s)
  | .newUuid, s => some (choice.text, s)
  | .generateCode, s => if isCode choice.text then some (choice.text, s) else none
  | .countCodeRequests remoteIp since, s =>
    some (.ok (s.requests.countP fun entry => entry.1 = remoteIp ∧ since < entry.2), s)
  | .logCodeRequest remoteIp createdAt, s =>
    some (.ok (), { s with requests := (remoteIp, createdAt) :: s.requests })
  | .issueCode hash row, s =>
    -- The primary key, and the foreign key to `tenants`.
    if s.codes.contains hash = true ∨
        row.tenantId.any (fun id => (s.tenants.findById id).isNone) = true then
      some (.error .failed, s)
    else some (.ok (), { s with codes := s.codes.insert hash row })
  | .sendCode .., s => some (.ok (), s)
  | .findTenant id, s => some (.ok (s.tenants.findById id), s)
  | .begin, s =>
    some (.ok s.next, { s with next := s.next + 1, drafts := s.drafts.insert s.next .empty })
  | .burn x hash now, s => s.inTransaction x fun d =>
    match (s.codes.get? hash).filter fun row => row.usable now ∧ row.purpose = .enrollment with
    | none => some (.ok none, d)
    | some row =>
      if s.heldByOther (some x) (·.burns hash) then none
      else some (.ok (some (row.email, row.tenantId)),
        { d with burned := some (hash, { row with usedAt := some now }) })
  | .tenantLive x id, s => s.inTransaction x fun d =>
    some (.ok ((s.tenants.findById id).map (·.deregisteredAt = none)), d)
  | .insertTenant x id email, s => s.inTransaction x fun d =>
    if s.heldByOther (some x) (·.tenant.any fun entry => entry.1 = id ∨ entry.2 = email) then none
    else if (s.tenants.findByEmail email).isSome then some (.ok none, d)
    else if (s.tenants.create id email).isNone then some (.error .failed, d)
    else some (.ok (some id), { d with tenant := some (id, email) })
  | .selectTenant x email, s => s.inTransaction x fun d =>
    match s.tenants.findByEmail email with
    | some (id, _) => some (.ok id, d)
    | none => some (.error .failed, d)
  | .upsertPending x publicKey row, s => s.inTransaction x fun d =>
    if s.heldByOther (some x) (·.pending.any (·.1 = publicKey)) then none
    else if (s.tenants.findById row.tenantId).isSome ∨ d.tenant.any (·.1 = row.tenantId) then
      some (.ok (), { d with pending := some (publicKey, row) })
    else some (.error .failed, d)
  | .commit x, s =>
    match s.drafts.get? x with
    | none => some (.error .failed, s)
    | some d => some (.ok (), (s.applyDraft d).close x)
  | .rollback x, s =>
    match s.drafts.get? x with
    | none => some (.error .failed, s)
    | some _ => some (.ok (), s.close x)
  | .drop x, s => some ((), s.close x)
  | .consumeCode hash purpose now, s =>
    match (s.codes.get? hash).filter fun row =>
      row.usable now ∧ row.purpose = purpose ∧ row.tenantId = none with
    | none => some (.ok none, s)
    | some row =>
      if s.heldByOther none (·.burns hash) then none
      else some (.ok (some row.email),
        { s with codes := s.codes.insert hash { row with usedAt := some now } })
  | .publish _, s => some (.ok (), s)

def refuse : (c : Call) → Option c.Resp
  | .utcNow | .newUuid | .generateCode | .drop _ => none
  | .countCodeRequests .. | .logCodeRequest .. | .issueCode .. | .sendCode .. | .findTenant _
  | .begin | .burn .. | .tenantLive .. | .insertTenant .. | .selectTenant .. | .upsertPending ..
  | .commit _ | .rollback _ | .consumeCode .. | .publish _ => some (.error .failed)

/-- A call takes effect or fails; the answer to some calls may get lost. -/
def exec (choice : Choice) (c : Call) (s : Db) : Option (c.Resp × Db) :=
  if choice.fails then
    (refuse c).bind fun r =>
      if choice.applied && c.losesAnswer then (perform choice c s).map fun out => (r, out.2)
      else some (r, s)
  else perform choice c s

end Db

/-! ## The services -/

abbrev Proc := Prog Call Call.Resp

abbrev ask (c : Call) : Proc c.Resp := Base.perform c

abbrev attempt {α : Type} (p : Proc (Except Failure α)) : ExceptT Failure Proc α := ExceptT.mk p

def orInternal {α : Type} (p : Proc (Except Failure α)) : ExceptT TenantsError Proc α :=
  ExceptT.mk (p.bind fun r => .ret (r.mapError fun _ => TenantsError.internal))

def codeTtlSecs : Int := 300

def pendingTtlSecs : Int := 900

def codeRequestsPerIpPerHour : ℕ := 10

/-- The common end of the two ways to issue a code: draw one, store its hash and mail it. -/
def issueFresh (hashCode : String → String) (email : String) (tenantId : Option String)
    (purpose : CodePurpose) : ExceptT TenantsError Proc String := do
  let code ← (ask .generateCode : Proc String)
  let now ← (ask .utcNow : Proc Int)
  orInternal (ask (.issueCode (hashCode code)
    { email, tenantId, purpose, expiresAt := now + codeTtlSecs, usedAt := none }))
  orInternal (ask (.sendCode email code purpose))
  pure code

def issueSignupCode (config : Config) (hashCode : String → String) (email remoteIp : String)
    (purpose : CodePurpose) : ExceptT TenantsError Proc String := do
  let email ← ExceptT.mk (.ret (normalizeEmail config email))
  let now ← (ask .utcNow : Proc Int)
  if codeRequestsPerIpPerHour ≤ (← orInternal (ask (.countCodeRequests remoteIp (now - 3600)))) then
    throw (.rateLimited "too many code requests; try again later")
  let createdAt ← (ask .utcNow : Proc Int)
  orInternal (ask (.logCodeRequest remoteIp createdAt))
  issueFresh hashCode email none purpose

def issueTenantCode (hashCode : String → String) (tenantId : String) :
    ExceptT TenantsError Proc String := do
  match ← orInternal (ask (.findTenant tenantId)) with
  | none => throw (.notFound "no such tenant")
  | some tenant =>
    if tenant.deregisteredAt.isSome then throw (.forbidden "tenant is deregistered")
    else issueFresh hashCode tenant.email (some tenantId) .enrollment

inductive EnrollOutcome
  | enrolled (tenantId : String) (tenantCreated : Bool)
  | badCode
  deriving DecidableEq

/-- The tenant of a burned code, and whether it was created: the one of the code if it is not
tombstoned, else the one of the email. -/
def resolveTenant (x : ℕ) (newTenantId email : String) :
    Option String → ExceptT Failure Proc (Option (String × Bool))
  | some tenantId => do
      let live ← attempt (ask (.tenantLive x tenantId))
      pure (if live = some true then some (tenantId, false) else none)
  | none => do
      match ← attempt (ask (.insertTenant x newTenantId email)) with
      | some id => pure (some (id, true))
      | none => do
          let id ← attempt (ask (.selectTenant x email))
          pure (some (id, false))

def reject (x : ℕ) : ExceptT Failure Proc EnrollOutcome := do
  attempt (ask (.rollback x))
  pure .badCode

def saga (x : ℕ) (hash publicKey newTenantId : String) (now : Int) :
    ExceptT Failure Proc EnrollOutcome := do
  match ← attempt (ask (.burn x hash now)) with
  | none => reject x
  | some (email, codeTenantId) =>
    match ← resolveTenant x newTenantId email codeTenantId with
    | none => reject x
    | some (tenantId, tenantCreated) =>
      attempt (ask (.upsertPending x publicKey ⟨tenantId, now + pendingTtlSecs⟩))
      attempt (ask (.commit x))
      pure (.enrolled tenantId tenantCreated)

/-- `PgEnrollmentRepository::enroll`. -/
def runSaga (hash publicKey newTenantId : String) (now : Int) :
    ExceptT Failure Proc EnrollOutcome := do
  let x ← attempt (ask .begin)
  ExceptT.mk ((saga x hash publicKey newTenantId now).run.bind fun
    | .ok outcome => .ret (.ok outcome)
    | .error e => (ask (.drop x)).bind fun _ => .ret (.error e))

/-- `validate_public_key`: the canonical Base64 text of 32 bytes, which is 43 digits and one
padding sign, with the two spare bits of the last digit unset. -/
def validatePublicKey (publicKey : String) : Bool :=
  let digits := publicKey.toList.take 43
  publicKey.toList.drop 43 = ['='] ∧ digits.all (· ∈ base64Alphabet) ∧
    digits.getLast?.any fun c => base64Alphabet.idxOf c % 4 = 0

/-- `TenantsService::enroll`. A failed publish is only logged. -/
def enroll (hashCode : String → String) (code publicKey : String) :
    ExceptT TenantsError Proc String := do
  if !validatePublicKey publicKey then throw (.badRequest "invalid public_key")
  let newTenantId ← (ask .newUuid : Proc String)
  let now ← (ask .utcNow : Proc Int)
  match ← orInternal (runSaga (hashCode code) publicKey newTenantId now).run with
  | .enrolled tenantId tenantCreated =>
    if tenantCreated then
      let _ ← (ask (.publish (.tenantCreated tenantId)) : Proc (Except Failure Unit))
    pure tenantId
  | .badCode => throw (.badCode "enrollment code is invalid, expired, or already used")

def consumeCode (hashCode : String → String) (code : String) (purpose : CodePurpose) :
    ExceptT TenantsError Proc (Option String) := do
  let now ← (ask .utcNow : Proc Int)
  orInternal (ask (.consumeCode (hashCode code) purpose now))

inductive Task
  | issueSignupCode (email remoteIp : String) (purpose : CodePurpose)
  | issueTenantCode (tenantId : String)
  | enroll (code publicKey : String)
  | consumeCode (code : String) (purpose : CodePurpose)
  deriving DecidableEq

/-- What a task returns: a new code, the tenant of an enrolled daemon, or the email of a
consumed code. -/
inductive Answer
  | code (code : String)
  | enrolled (tenantId : String)
  | consumed (email : Option String)
  deriving DecidableEq

def answer {α : Type} (f : α → Answer) (p : ExceptT TenantsError Proc α) :
    Proc (Except TenantsError Answer) :=
  p.run.bind fun out => .ret (out.map f)

def Task.body (config : Config) (hashCode : String → String) :
    Task → Proc (Except TenantsError Answer)
  | .issueSignupCode email remoteIp purpose =>
    answer .code (Enrollment.issueSignupCode config hashCode email remoteIp purpose)
  | .issueTenantCode tenantId => answer .code (Enrollment.issueTenantCode hashCode tenantId)
  | .enroll code publicKey => answer .enrolled (Enrollment.enroll hashCode code publicKey)
  | .consumeCode code purpose => answer .consumed (Enrollment.consumeCode hashCode code purpose)

/-- What happens around the tasks: a tenant is deregistered, or the server ends a transaction
whose connection is lost. -/
inductive Env
  | deregister (tenantId : String) (now : Int)
  | abort (x : ℕ)
  deriving DecidableEq

def Env.apply : Env → Db → Option Db
  | .deregister tenantId now, s =>
    some { s with tenants := (s.tenants.setDeregistered tenantId now).2 }
  | .abort x, s => some (s.close x)

@[reducible]
def plane (config : Config) (hashCode : String → String) : World where
  State := Db
  Call := Call
  Resp := Call.Resp
  Choice := Choice
  exec := Db.exec
  Task := Task
  Result := Except TenantsError Answer
  body := Task.body config hashCode
  Env := Env
  env := Env.apply

end Wardnet.Enrollment
