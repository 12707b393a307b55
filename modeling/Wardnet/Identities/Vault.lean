/-
# Unlinking, statement by statement

`unlink_guarded` is a transaction of two statements: it locks the login methods of a tenant, and
deletes those of a provider if others are left. Here the identity service runs with each
statement of this transaction on its own, next to the calls of the other operations, each of
which is one statement that commits at once.

A statement looks at the rows that are committed when it starts, and takes them one after the
other. It waits where another transaction has locked a row, and passes over a row that is gone by
then. Rows come and go under their key, so a row is known by its key and by a generation.
-/

import Wardnet.Base.RowLock
import Wardnet.Identities.World

namespace Wardnet.Identities

open Base Tenants
open Authority (Failure)

abbrev Key := String × String

/-- The committed database, the generation of the row under each key, and the locks. -/
structure Vault where
  db : Db
  generation : Key → ℕ
  locks : RowLocks Key

/-- The calls of the other operations, and the statements of the transaction. -/
inductive Statement
  | plane (c : Call)
  | begin
  /-- The rows that a statement sees when it starts. -/
  | seen (x : ℕ) (tenantId : String) (provider : Option String)
  | lockRow (x : ℕ) (tenantId : String) (key : Key) (generation : ℕ)
  | deleteRow (x : ℕ) (tenantId provider : String) (key : Key) (generation : ℕ)
  | commit (x : ℕ)
  | rollback (x : ℕ)

@[reducible]
def Statement.Resp : Statement → Type
  | .plane c => c.Resp
  | .begin => Except Failure ℕ
  | .seen .. => Except Failure (List (Key × ℕ))
  | .lockRow .. | .deleteRow .. => Except Failure Bool
  | .commit _ => Except Failure Unit
  | .rollback _ => Unit

/-- What a statement leaves open: what a call leaves open, the order in which rows are found, and
whether a commit that seems to have failed has taken place. -/
structure VaultChoice where
  call : Choice
  order : List (Key × ℕ)
  committed : Bool

namespace Vault

def waits (s : Vault) : Call → Bool
  | .authority (.insertIdentity provider subject _) =>
    (s.locks.held (provider, subject)).any (·.doomed)
  | .updateSecretHash provider subject _ => (s.locks.held (provider, subject)).isSome
  | .authority (.deleteIdentitiesForTenant tenantId) =>
    (s.db.identities.select fun _ row => row.tenantId = tenantId).any fun entry =>
      (s.locks.held entry.1).isSome
  | .authority .deleteTombstonedEmpty =>
    (s.db.identities.select fun _ row => row.tenantId ∈ s.db.sweepable).any fun entry =>
      (s.locks.held entry.1).isSome
  -- This one is the transaction.
  | .unlinkGuarded .. => true
  | _ => false

/-- The database after a call. A row that was not there before is a new one. -/
def store (s : Vault) (db : Db) : Vault where
  db := db
  generation key :=
    if s.db.identities.contains key = false ∧ db.identities.contains key = true then
      s.generation key + 1
    else s.generation key
  locks := s.locks

/-- The row is the one that the statement has seen, and still meets its condition. -/
def finds (s : Vault) (tenantId : String) (key : Key) (generation : ℕ) : Bool :=
  s.generation key = generation ∧ (s.db.identities.get? key).any (·.tenantId = tenantId)

def commit (s : Vault) (x : ℕ) : Vault where
  db := { s.db with identities := s.db.identities.retain fun key _ => !s.locks.dooms x key }
  generation := s.generation
  locks := s.locks.finish x

/-- The effect of a statement; `none` while it waits, or where the choice is not possible. A
statement of a transaction that has ended fails. -/
def exec (hashing : Hashing) (choice : VaultChoice) :
    (c : Statement) → Vault → Option (c.Resp × Vault)
  | .plane c, s =>
    if s.waits c then none
    else (Db.exec hashing choice.call c s.db).map fun out => (out.1, s.store out.2)
  | .begin, s =>
    if choice.call.fails then some (.error .failed, s)
    else some (.ok s.locks.next, { s with locks := s.locks.start })
  | .seen x tenantId provider, s =>
    if choice.call.fails ∨ x ∉ s.locks.running then some (.error .failed, s)
    else
      let rows := s.db.identities.select fun key row =>
        row.tenantId = tenantId ∧ provider.all (key.1 = ·)
      if choice.order.Perm (rows.map fun entry => (entry.1, s.generation entry.1)) then
        some (.ok choice.order, s)
      else none
  | .lockRow x tenantId key generation, s =>
    if choice.call.fails ∨ x ∉ s.locks.running then some (.error .failed, s)
    else if !s.finds tenantId key generation then some (.ok false, s)
    else if s.locks.busy x key then none
    else some (.ok true, { s with locks := s.locks.take x key false })
  | .deleteRow x tenantId provider key generation, s =>
    if choice.call.fails ∨ x ∉ s.locks.running then some (.error .failed, s)
    else if !(s.finds tenantId key generation && key.1 = provider) then some (.ok false, s)
    else if s.locks.busy x key then none
    else some (.ok true, { s with locks := s.locks.take x key true })
  | .commit x, s =>
    if x ∉ s.locks.running then some (.error .failed, s)
    else if choice.call.fails then some (.error .failed, if choice.committed then s.commit x else s)
    else some (.ok (), s.commit x)
  | .rollback x, s => some ((), { s with locks := s.locks.finish x })

end Vault

/-! ## The transaction -/

abbrev VaultProc := Prog Statement Statement.Resp

abbrev query (c : Statement) : VaultProc c.Resp := Base.perform c

abbrev Transaction := ExceptT Failure VaultProc

/-- Lock the rows that were seen, as far as they are still there, and return their providers. -/
def lockRows (x : ℕ) (tenantId : String) : List (Key × ℕ) → Transaction (List String)
  | [] => pure []
  | (key, generation) :: rest => do
      let found ← ExceptT.mk (query (.lockRow x tenantId key generation))
      let providers ← lockRows x tenantId rest
      pure (if found then key.1 :: providers else providers)

def lockTenantProviders (x : ℕ) (tenantId : String) : Transaction (List String) := do
  let rows ← ExceptT.mk (query (.seen x tenantId none))
  lockRows x tenantId rows

def deleteRows (x : ℕ) (tenantId provider : String) : List (Key × ℕ) → Transaction Unit
  | [] => pure ()
  | (key, generation) :: rest => do
      let _ ← ExceptT.mk (query (.deleteRow x tenantId provider key generation))
      deleteRows x tenantId provider rest

def deleteForTenantProvider (x : ℕ) (tenantId provider : String) : Transaction Unit := do
  let rows ← ExceptT.mk (query (.seen x tenantId (some provider)))
  deleteRows x tenantId provider rows

/-- The statements of `unlink_guarded` between its begin and its commit. -/
def guardedDelete (x : ℕ) (tenantId provider : String) : Transaction UnlinkOutcome := do
  let providers ← lockTenantProviders x tenantId
  let victims := providers.count provider
  if victims = 0 then pure .notLinked
  else if providers.length = victims then pure .wouldRemoveLast
  else do
    deleteForTenantProvider x tenantId provider
    pure .removed

/-- The transaction, which is rolled back when a statement fails. -/
def unlinkWithin (x : ℕ) (tenantId provider : String) :
    VaultProc (Except Failure UnlinkOutcome) := do
  let transaction : Transaction UnlinkOutcome := do
    let outcome ← guardedDelete x tenantId provider
    ExceptT.mk (query (.commit x))
    pure outcome
  match ← transaction.run with
  | .ok outcome => pure (.ok outcome)
  | .error e => do
      query (.rollback x)
      pure (.error e)

def unlinkGuarded (tenantId provider : String) : VaultProc (Except Failure UnlinkOutcome) := do
  match ← query .begin with
  | .ok x => unlinkWithin x tenantId provider
  | .error e => pure (.error e)

def unlinkAnswer : Except Failure UnlinkOutcome → Except IdentitiesError Answer
  | .ok .removed | .ok .notLinked => .ok .done
  | .ok .wouldRemoveLast => .error (.conflict "cannot remove your last login method")
  | .error _ => .error .internal

/-! ## The service as a world of tasks -/

def Task.statements (setup : Setup) : Task → VaultProc (Except IdentitiesError Answer)
  | .unlinkIdentity tenantId provider =>
    (unlinkGuarded tenantId provider).bind fun out => .ret (unlinkAnswer out)
  | task => (task.body setup).translate .plane fun _ r => r

/-- What happens around: a code is issued, or the database ends a transaction by itself. -/
inductive VaultMove
  | issue (code : Issue)
  | abort (x : ℕ)

def VaultMove.apply (setup : Setup) : VaultMove → Vault → Option Vault
  | .issue code, s => (code.apply setup.config s.db).map fun db => { s with db }
  | .abort x, s => some { s with locks := s.locks.finish x }

/-- Any number of tasks, in any number of replicas, over one database. -/
@[reducible]
def vault (setup : Setup) : World where
  State := Vault
  Call := Statement
  Resp := Statement.Resp
  Choice := VaultChoice
  exec := Vault.exec setup.hashing
  Task := Task
  Result := Except IdentitiesError Answer
  body := Task.statements setup
  Env := VaultMove
  env := VaultMove.apply setup

end Wardnet.Identities
