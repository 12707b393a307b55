/-
# The catalog projection

The catalog is kept in three tables. `replace_catalog` rewrites them in one transaction: it
deletes all rows, inserts the new ones and stamps the time. `read_catalog` reads the tables
one after the other, outside of any transaction. A delete takes its snapshot when it starts and
may then have to wait, so it is two steps here; every other statement is one.
-/

import Wardnet.Base.Mvcc
import Wardnet.Base.Pool
import Wardnet.Billing.Plans

namespace Wardnet.Billing

open Base Base.Mvcc

/-- `billing_catalog`, `billing_promotions` and `billing_catalog_meta`. -/
structure CatalogDb where
  xacts : Xacts
  plans : Table CatalogPlan
  promos : Table CatalogPromo
  synced : Table Int
  deriving DecidableEq

def CatalogDb.empty : CatalogDb := ⟨.empty, [], [], []⟩

/-- Why a sync or a read fails: a statement fails, a key is taken, or a number does not fit
the column. -/
inductive SyncError
  | failed
  | duplicate
  | range
  deriving DecidableEq

inductive CatalogCall
  | begin
  | startDelete (x : ℕ)
  | deletePlans (x : ℕ) (snapshot : List ℕ)
  | deletePromos (x : ℕ) (snapshot : List ℕ)
  | insertPlan (x : ℕ) (plan : CatalogPlan)
  | insertPromo (x : ℕ) (promo : CatalogPromo)
  | stampSync (x : ℕ) (now : Int)
  | commit (x : ℕ)
  | rollback (x : ℕ)
  | selectPlans
  | selectPromos
  | selectSynced
  deriving DecidableEq

def CatalogCall.Resp : CatalogCall → Type
  | .begin => Except SyncError ℕ
  | .startDelete _ => Except SyncError (List ℕ)
  | .deletePlans .. | .deletePromos .. | .insertPlan .. | .insertPromo .. | .stampSync ..
  | .commit _ => Except SyncError Unit
  | .rollback _ => Unit
  | .selectPlans => Except SyncError (List CatalogPlan)
  | .selectPromos => Except SyncError (List CatalogPromo)
  | .selectSynced => Except SyncError (Option Int)

/-- What a statement leaves open: whether it fails, whether a commit that is reported as
failed has taken place, and the order of the rows. -/
structure CatalogChoice where
  fails : Bool
  committed : Bool
  plans : List CatalogPlan
  promos : List CatalogPromo

namespace CatalogDb

def refuse : (c : CatalogCall) → Option c.Resp
  | .begin | .startDelete _ | .deletePlans .. | .deletePromos .. | .insertPlan .. | .insertPromo ..
  | .stampSync .. | .commit _ | .selectPlans | .selectPromos | .selectSynced =>
      some (.error .failed)
  | .rollback _ => none

/-- The effect of a statement, or `none` while it waits. -/
def perform (choice : CatalogChoice) : (c : CatalogCall) → CatalogDb → Option (c.Resp × CatalogDb)
  | .begin, s => some (.ok s.xacts.next, { s with xacts := s.xacts.start })
  | .startDelete _, s => some (.ok s.xacts.committed, s)
  | .deletePlans x snapshot, s =>
    (deleteSeen s.xacts x snapshot s.plans).map fun plans => (.ok (), { s with plans })
  | .deletePromos x snapshot, s =>
    (deleteSeen s.xacts x snapshot s.promos).map fun promos => (.ok (), { s with promos })
  | .insertPlan x plan, s =>
    (insertRow (·.priceId) s.xacts x plan s.plans).map fun
      | some plans => (.ok (), { s with plans })
      | none => (.error .duplicate, s)
  | .insertPromo x promo, s =>
    (insertRow (·.couponId) s.xacts x promo s.promos).map fun
      | some promos => (.ok (), { s with promos })
      | none => (.error .duplicate, s)
  | .stampSync x now, s =>
    (upsertRow (fun _ => ()) s.xacts x now s.synced).map fun synced => (.ok (), { s with synced })
  | .commit x, s => some (.ok (), { s with xacts := s.xacts.commit x })
  | .rollback x, s => some ((), { s with xacts := s.xacts.rollback x })
  | .selectPlans, s =>
    if choice.plans.Perm (liveRows s.xacts.committed s.plans) ∧
        choice.plans.Pairwise (·.level ≤ ·.level) then
      some (.ok choice.plans, s)
    else none
  | .selectPromos, s =>
    if choice.promos.Perm (liveRows s.xacts.committed s.promos) then some (.ok choice.promos, s)
    else none
  | .selectSynced, s => some (.ok (liveRows s.xacts.committed s.synced).head?, s)

/-- A statement takes effect or fails; the answer to a commit may get lost. -/
def exec (choice : CatalogChoice) (c : CatalogCall) (s : CatalogDb) :
    Option (c.Resp × CatalogDb) :=
  if choice.fails then
    (refuse c).map fun r => (r, match c with
      | .commit x => if choice.committed then { s with xacts := s.xacts.commit x } else s
      | _ => s)
  else perform choice c s

end CatalogDb

abbrev CatalogProc := Prog CatalogCall CatalogCall.Resp

abbrev query (c : CatalogCall) : CatalogProc c.Resp := Base.perform c

abbrev run {α : Type} (p : CatalogProc (Except SyncError α)) : ExceptT SyncError CatalogProc α :=
  ExceptT.mk p

/-- `i32::try_from` on the three numbers of a plan. -/
def fits (plan : CatalogPlan) : Bool :=
  plan.level ≤ 2147483647 ∧ plan.entitlement.maxNetworks ≤ 2147483647 ∧
    plan.entitlement.maxDaemons ≤ 2147483647

def insertPlans (x : ℕ) : List CatalogPlan → ExceptT SyncError CatalogProc Unit
  | [] => pure ()
  | plan :: plans =>
    if fits plan then do
      run (query (.insertPlan x plan))
      insertPlans x plans
    else throw .range

def insertPromos (x : ℕ) : List CatalogPromo → ExceptT SyncError CatalogProc Unit
  | [] => pure ()
  | promo :: promos => do
      run (query (.insertPromo x promo))
      insertPromos x promos

def rewrite (x : ℕ) (plans : List CatalogPlan) (promos : List CatalogPromo) (now : Int) :
    ExceptT SyncError CatalogProc Unit := do
  run (query (.deletePlans x (← run (query (.startDelete x)))))
  run (query (.deletePromos x (← run (query (.startDelete x)))))
  insertPlans x plans
  insertPromos x promos
  run (query (.stampSync x now))
  run (query (.commit x))

/-- `replace_catalog`. A transaction that is dropped is rolled back. -/
def replaceCatalog (plans : List CatalogPlan) (promos : List CatalogPromo) (now : Int) :
    ExceptT SyncError CatalogProc Unit := do
  let x ← run (query .begin)
  ExceptT.mk ((rewrite x plans promos now).run.bind fun
    | .ok () => .ret (.ok ())
    | .error e => (query (.rollback x)).bind fun _ => .ret (.error e))

def readCatalog : ExceptT SyncError CatalogProc CatalogSnapshot := do
  let plans ← run (query .selectPlans)
  let promos ← run (query .selectPromos)
  let lastSyncedAt ← run (query .selectSynced)
  pure { plans, promos, lastSyncedAt }

inductive CatalogTask
  | replace (plans : List CatalogPlan) (promos : List CatalogPromo) (now : Int)
  | read
  deriving DecidableEq

def CatalogTask.body : CatalogTask → CatalogProc (Except SyncError (Option CatalogSnapshot))
  | .replace plans promos now => (replaceCatalog plans promos now).run.bind fun out =>
    .ret (out.map fun _ => none)
  | .read => readCatalog.run.bind fun out => .ret (out.map some)

@[reducible]
def catalogs : World where
  State := CatalogDb
  Call := CatalogCall
  Resp := CatalogCall.Resp
  Choice := CatalogChoice
  exec := CatalogDb.exec
  Task := CatalogTask
  Result := Except SyncError (Option CatalogSnapshot)
  body := CatalogTask.body
  Env := Empty
  env e _ := e.elim

end Wardnet.Billing
