/-
# Which account a password goes to

A password is stored under its email, while the sessions that it revokes are those of a tenant.
The two belong together as long as the login method that is stored for the email belongs to
that tenant. It may not: the login methods of a tombstoned tenant stay until a reaction to its
deregistration removes them, and its email is free at once.
-/

import Wardnet.Identities.Alone
import Wardnet.Identities.Effects

namespace Wardnet.Identities

open Base Tenants Prog List Option
open Authority (Database normalizeEmail Failure)
open Enrollment (CodePurpose)

abbrev Entry := (c : Call) × c.Resp

def Entry.written : Entry → Option (String × String)
  | ⟨.updateSecretHash provider subject _, .ok true⟩ => some (provider, subject)
  | ⟨.authority (.insertIdentity provider subject _), .ok .created⟩ => some (provider, subject)
  | _ => none

def Entry.revoked : Entry → Option String
  | ⟨.authority (.deleteSessionsForTenant tenantId), .ok _⟩ => some tenantId
  | _ => none

/-- The operations that write a password to an existing account. -/
inductive PasswordWrite
  | reset (code newPassword : String)
  | setAuthenticated (tenantId code newPassword : String)
  deriving DecidableEq

def PasswordWrite.task : PasswordWrite → Task
  | reset code newPassword => .passwordReset code newPassword
  | setAuthenticated tenantId code newPassword =>
    .setPasswordAuthenticated tenantId code newPassword

def PasswordWrite.newPassword : PasswordWrite → String
  | reset _ newPassword | setAuthenticated _ _ newPassword => newPassword

/-- The account that the operation is for, told by the state before it: the email of the code and
the live tenant of that email, or the email of the tenant that was given, and that tenant. -/
def PasswordWrite.account (setup : Setup) (s : Db) : PasswordWrite → Option (String × String)
  | reset code _ => do
    let row ← s.codes.get? (setup.hashing.hashCode code)
    let tenantId ← s.tenantOf setup.config row.email
    return (row.email, tenantId)
  | setAuthenticated tenantId _ _ => do
    let tenant ← s.tenants.findById tenantId
    return (tenant.email, tenantId)

/-- The login method belongs to the tenant, and if the tenant is live and there is a session token
to be had, a login with the email of the login method and the password opens a session for it,
unless it is throttled. -/
structure HitsAccount (setup : Setup) (key : String × String) (tenantId password : String)
    (s : Db) : Prop where
  owned : ∃ row, s.identities.get? key = some row ∧ row.tenantId = tenantId
  opens : s.tenants.isLive tenantId = true → s.CanDraw setup.hashing →
    ∀ given, normalizeEmail setup.config given = .ok key.2 → ∀ replica remoteIp,
      (passwordLogin setup.config setup.hashing replica given password remoteIp).run.Total
        (Db.Succeeds setup.hashing .any)
        (fun result s' => ¬ Throttled result → Opens setup.hashing tenantId result s') s

/-! ## Calls that do not matter here -/

/-- The calls that leave tenants and login methods alone and revoke nothing. -/
def Call.plain : Call → Bool
  | .authority .utcNow | .authority (.findTenant _) | .authority (.findTenantByEmail _)
  | .newSalt | .randomToken | .consumeCode .. | .createSession .. => true
  | _ => false

abbrev Audited := Db × List Entry

/-- Neither tenants nor login methods have changed, and nothing was written or revoked. -/
structure Kept (a b : Audited) : Prop where
  tenants : b.1.tenants = a.1.tenants
  identities : b.1.identities = a.1.identities
  written : b.2.filterMap Entry.written = a.2.filterMap Entry.written
  revoked : b.2.filterMap Entry.revoked = a.2.filterMap Entry.revoked

theorem Kept.refl (a : Audited) : Kept a a := ⟨rfl, rfl, rfl, rfl⟩

theorem Kept.trans {a b c : Audited} (h : Kept a b) (h' : Kept b c) : Kept a c where
  tenants := h'.tenants.trans h.tenants
  identities := h'.identities.trans h.identities
  written := h'.written.trans h.written
  revoked := h'.revoked.trans h.revoked

theorem Change.of_plain {c : Call} {r : c.Resp} {t t' : Tables} (h : Change c r t t')
    (hplain : c.plain = true) : t'.tenants = t.tenants ∧ t'.identities = t.identities := by
  cases h with
  | quiet | findTenant | findTenantByEmail | createSession => exact ⟨rfl, rfl⟩
  | _ => cases hplain

theorem Entry.of_plain {c : Call} (r : c.Resp) (hplain : c.plain = true) :
    Entry.written ⟨c, r⟩ = none ∧ Entry.revoked ⟨c, r⟩ = none := by
  cases c with
  | authority c =>
    cases c with
    | utcNow | findTenant | findTenantByEmail => exact ⟨rfl, rfl⟩
    | _ => cases hplain
  | newSalt | randomToken | consumeCode | createSession => exact ⟨rfl, rfl⟩
  | _ => cases hplain

section

variable {hashing : Hashing} {a b : Audited}

variable {c : Call} {code hash email password tenantId newPassword : String} {r : c.Resp}

theorem change_of_recorded (h : Prog.Recorded (Db.Step hashing) c a r b) :
    Change c r a.1.tables b.1.tables := by
  obtain ⟨choice, hexec⟩ := h.1
  exact exec_change hexec

theorem Kept.of_call (hplain : c.plain = true) (h : Prog.Recorded (Db.Step hashing) c a r b) :
    Kept a b := by
  obtain ⟨htenants, hidentities⟩ := (change_of_recorded h).of_plain hplain
  obtain ⟨hwritten, hrevoked⟩ := Entry.of_plain r hplain
  exact ⟨htenants, hidentities, by simp [h.2, hwritten], by simp [h.2, hrevoked]⟩

theorem Kept.of_runs {α : Type} {p : Proc α} {result : α} (hall : p.All fun c => c.plain = true)
    (hrun : p.Runs (Prog.Recorded (Db.Step hashing)) a result b) : Kept a b :=
  Runs.invariant _ _ (fun _ _ _ _ hcall hstep hkept => hkept.trans (.of_call hcall hstep))
    hall hrun (.refl a)

theorem runs_orInternal_ok {α : Type} {step : (c : Call) → Audited → c.Resp → Audited → Prop}
    {p : Proc (Except Failure α)} {value : α}
    (h : (orInternal p).run.Runs step a (.ok value) b) : p.Runs step a (.ok value) b := by
  obtain ⟨answer, _, hp, hanswer, rfl⟩ := (runs_bind _).mp h
  cases answer with
  | error => cases hanswer
  | ok value' =>
    cases hanswer
    exact hp

structure Upserted (tenantId email hash : String) (a b : Audited) : Prop where
  tenants : b.1.tenants = a.1.tenants
  stored : ∃ row, b.1.identities.get? (providerPassword, email) = some row ∧
    row.secretHash = some hash ∧
    row.tenantId = ((a.1.identities.get? (providerPassword, email)).map (·.tenantId)).getD tenantId
  written : b.2.filterMap Entry.written =
    a.2.filterMap Entry.written ++ [(providerPassword, email)]
  revoked : b.2.filterMap Entry.revoked = a.2.filterMap Entry.revoked

theorem runs_upsertPassword
    (h : (upsertPassword tenantId email hash).run.Runs (Prog.Recorded (Db.Step hashing)) a
      (.ok ()) b) : Upserted tenantId email hash a b := by
  obtain ⟨found, mid, hupdate, hrest⟩ := (runs_exceptBind_ok _).mp h
  have hstep := (runs_perform _).mp (runs_orInternal_ok hupdate)
  obtain ⟨hfound, hmid⟩ := (change_of_recorded hstep).of_updateSecretHash
  have htenants : mid.1.tenants = a.1.tenants := congrArg Tables.tenants hmid
  have hget : mid.1.identities.get? (providerPassword, email) =
      (a.1.identities.get? (providerPassword, email)).map
        fun row => { row with secretHash := some hash } := by
    have hidentities := congrArg Tables.identities hmid
    simp only [Db.tables] at hidentities
    simp [hidentities]
  cases found with
  | true =>
    obtain ⟨-, rfl⟩ := hrest
    obtain ⟨row, hrow⟩ := Store.contains_eq_true_iff.mp hfound.symm
    have hrow' : a.1.identities.get? (providerPassword, email) = some row := hrow
    refine ⟨htenants, ⟨_, by rw [hget, hrow']; rfl, rfl, by rw [hrow']; rfl⟩, ?_, ?_⟩
    · simp [hstep.2, Entry.written]
    · simp [hstep.2, Entry.revoked]
  | false =>
    have hnone : a.1.identities.get? (providerPassword, email) = none := by
      simpa [Store.contains, Db.tables] using hfound.symm
    obtain ⟨outcome, last, hinsert, hend⟩ := (runs_exceptBind_ok _).mp hrest
    have hstep' := (runs_perform _).mp (runs_orInternal_ok hinsert)
    rcases (change_of_recorded hstep').of_insertIdentity with
      ⟨rfl, -, hlast⟩ | ⟨-, -, row, hrow⟩
    · obtain ⟨-, rfl⟩ := hend
      have hidentities : b.1.identities = mid.1.identities.insert (providerPassword, email)
          ⟨tenantId, some hash, email⟩ := congrArg Tables.identities hlast
      refine ⟨(congrArg Tables.tenants hlast).trans htenants,
        ⟨_, by rw [hidentities, Store.get?_insert_self], rfl, by rw [hnone]; rfl⟩, ?_, ?_⟩
      · rw [hstep'.2, hstep.2, filterMap_append, filterMap_append, append_assoc]
        rfl
      · rw [hstep'.2, hstep.2, filterMap_append, filterMap_append, append_assoc]
        exact append_nil _
    · have habsent : mid.1.identities.get? (providerPassword, email) = none := by
        rw [hget, hnone]
        rfl
      cases habsent.symm.trans hrow

structure Revoked (tenantId : String) (a b : Audited) : Prop where
  tenants : b.1.tenants = a.1.tenants
  identities : b.1.identities = a.1.identities
  written : b.2.filterMap Entry.written = a.2.filterMap Entry.written
  revoked : b.2.filterMap Entry.revoked = a.2.filterMap Entry.revoked ++ [tenantId]

theorem runs_deleteSessions
    (h : (deleteSessions tenantId).run.Runs (Prog.Recorded (Db.Step hashing)) a (.ok ()) b) :
    Revoked tenantId a b := by
  obtain ⟨n, _, hdelete, -, rfl⟩ := (runs_exceptBind_ok _).mp h
  have hstep := (runs_perform _).mp (runs_orInternal_ok hdelete)
  have hchange := (change_of_recorded hstep).of_deleteSessionsForTenant
  refine ⟨congrArg Tables.tenants hchange, congrArg Tables.identities hchange, ?_, ?_⟩
  · simp [hstep.2, Entry.written]
  · simp [hstep.2, Entry.revoked]

/-- A password was written for the login method of an email, and the sessions of a tenant were
deleted. Nothing else has happened to tenants and login methods. -/
structure Rewritten (hashing : Hashing) (email tenantId password : String) (a b : Audited) :
    Prop where
  tenants : b.1.tenants = a.1.tenants
  stored : ∃ row salt, b.1.identities.get? (providerPassword, email) = some row ∧
    row.secretHash = some (hashing.hashPassword salt password) ∧
    row.tenantId = ((a.1.identities.get? (providerPassword, email)).map (·.tenantId)).getD tenantId
  written : b.2.filterMap Entry.written =
    a.2.filterMap Entry.written ++ [(providerPassword, email)]
  revoked : b.2.filterMap Entry.revoked = a.2.filterMap Entry.revoked ++ [tenantId]

theorem Rewritten.of_steps {salt : String} {c d e : Audited} (hbefore : Kept a c)
    (hupsert : Upserted tenantId email (hashing.hashPassword salt password) c d)
    (hrevoke : Revoked tenantId d e) (hafter : Kept e b) :
    Rewritten hashing email tenantId password a b := by
  obtain ⟨row, hrow, hhash, howner⟩ := hupsert.stored
  refine ⟨?_, ⟨row, salt, ?_, hhash, ?_⟩, ?_, ?_⟩
  · rw [hafter.tenants, hrevoke.tenants, hupsert.tenants, hbefore.tenants]
  · rw [hafter.identities, hrevoke.identities, hrow]
  · rw [howner, hbefore.identities]
  · rw [hafter.written, hrevoke.written, hupsert.written, hbefore.written]
  · rw [hafter.revoked, hrevoke.revoked, hupsert.revoked, hbefore.revoked]

theorem salt_of_hashPassword (h : (liftM (hashPassword hashing password) : Service String).run.Runs
      (Prog.Recorded (Db.Step hashing)) a (.ok hash) b) :
    Kept a b ∧ ∃ salt, hash = hashing.hashPassword salt password := by
  obtain ⟨_, hhash, hok⟩ := (runs_exceptLift _).mp h
  cases hok
  obtain ⟨salt, _, hsalt, rfl, rfl⟩ := (runs_bind _).mp hhash
  exact ⟨.of_call rfl ((runs_perform _).mp hsalt), salt, rfl⟩

/-- A code that was burned is the one that was stored. -/
theorem runs_burnCode {purpose : CodePurpose}
    (h : (burnCode hashing code purpose).run.Runs (Prog.Recorded (Db.Step hashing)) a (.ok email)
      b) :
    Kept a b ∧ ∃ row, a.1.codes.get? (hashing.hashCode code) = some row ∧ row.email = email := by
  refine ⟨.of_runs (all_burnCode rfl fun _ => rfl) h, ?_⟩
  obtain ⟨now, t, hnow, hburn⟩ := (runs_exceptBind_ok _).mp h
  obtain ⟨_, hclock, -⟩ := (runs_exceptLift _).mp hnow
  have hcodes : t.1.codes = a.1.codes := by
    obtain ⟨choice, hexec⟩ := ((runs_perform _).mp hclock).1
    exact codes_of_exec hexec
  obtain ⟨found, u, hconsume, hfound⟩ := (runs_exceptBind_ok _).mp hburn
  obtain ⟨choice, hexec⟩ := ((runs_perform _).mp (runs_orInternal_ok hconsume)).1
  cases found with
  | none => cases hfound.1
  | some proven =>
    cases hfound.1
    rw [← hcodes]
    exact email_of_consumeCode hexec

theorem runs_findTenantByEmail {config : Authority.Config} {found : Option String}
    (h : (onTenants (Authority.findTenantByEmail config email)).run.Runs
      (Prog.Recorded (Db.Step hashing)) a (.ok found) b) :
    Kept a b ∧ found = a.1.tenantOf config email := by
  rcases run_findTenantByEmail config email with ⟨e, hrefused⟩ | ⟨normal, htenant, hasked⟩
  · rw [hrefused] at h
    cases h.1
  · rw [hasked] at h
    obtain ⟨r, _, hask, hanswer, rfl⟩ := (runs_bind _).mp h
    have hstep := (runs_perform _).mp hask
    refine ⟨.of_call rfl hstep, ?_⟩
    cases r with
    | error e => cases hanswer
    | ok value =>
      cases hanswer
      rw [htenant]
      exact (change_of_recorded hstep).of_findTenantByEmail.1

/-- A reset writes for the live tenant of the email of its code, if there is one. -/
theorem runs_passwordReset {config : Authority.Config}
    (h : (passwordReset config hashing code newPassword).run.Runs
      (Prog.Recorded (Db.Step hashing)) a (.ok ()) b) :
    Kept a b ∨ ∃ row tenantId, a.1.codes.get? (hashing.hashCode code) = some row ∧
      a.1.tenantOf config row.email = some tenantId ∧
      Rewritten hashing row.email tenantId newPassword a b := by
  obtain ⟨_, a, ⟨-, rfl⟩, hchecked⟩ := (runs_exceptBind_ok _).mp h
  obtain ⟨email, t, hburn, hproven⟩ := (runs_exceptBind_ok _).mp hchecked
  obtain ⟨found, u, hfind, hfound⟩ := (runs_exceptBind_ok _).mp hproven
  obtain ⟨hburned, row, hrow, rfl⟩ := runs_burnCode hburn
  obtain ⟨hlooked, htenant⟩ := runs_findTenantByEmail hfind
  have hbefore : Kept a u := hburned.trans hlooked
  cases found with
  | none =>
    obtain ⟨-, rfl⟩ := hfound
    exact .inl hbefore
  | some tenantId =>
    obtain ⟨hash, v, hhash, hhashed⟩ := (runs_exceptBind_ok _).mp hfound
    obtain ⟨hsalted, salt, rfl⟩ := salt_of_hashPassword hhash
    obtain ⟨_, w, hupsert, hdelete⟩ := (runs_exceptBind_ok _).mp hhashed
    have hlive : a.1.tenantOf config row.email = some tenantId := by
      rw [htenant, Db.tenantOf, Db.tenantOf, hburned.tenants]
    exact .inr ⟨row, tenantId, hrow, hlive, .of_steps (hbefore.trans hsalted)
      (runs_upsertPassword hupsert) (runs_deleteSessions hdelete) (.refl _)⟩

theorem runs_setPasswordAuthenticated {raw : String}
    (h : (setPasswordAuthenticated hashing tenantId code newPassword).run.Runs
      (Prog.Recorded (Db.Step hashing)) a (.ok raw) b) :
    ∃ tenant, a.1.tenants.findById tenantId = some tenant ∧
      Rewritten hashing tenant.email tenantId newPassword a b := by
  obtain ⟨_, a, ⟨-, rfl⟩, hchecked⟩ := (runs_exceptBind_ok _).mp h
  obtain ⟨found, t, hfind, hfound⟩ := (runs_exceptBind_ok _).mp hchecked
  cases found with
  | none => cases hfound.1
  | some tenant =>
    obtain ⟨provenEmail, u, hburn, hproven⟩ := (runs_exceptBind_ok _).mp hfound
    have hstep := (runs_perform _).mp (runs_orInternal_ok hfind)
    have hstored := (change_of_recorded hstep).of_findTenant.1
    have hbefore : Kept a u := (Kept.of_call rfl hstep).trans (runs_burnCode hburn).1
    cases hmatch : eqIgnoreAsciiCase provenEmail tenant.email with
    | false =>
      rw [hmatch] at hproven
      cases hproven.1
    | true =>
      rw [hmatch] at hproven
      obtain ⟨hash, v, hhash, hhashed⟩ := (runs_exceptBind_ok _).mp hproven
      obtain ⟨hsalted, salt, rfl⟩ := salt_of_hashPassword hhash
      obtain ⟨_, w, hupsert, hwritten⟩ := (runs_exceptBind_ok _).mp hhashed
      obtain ⟨_, x, hdelete, hcreate⟩ := (runs_exceptBind_ok _).mp hwritten
      exact ⟨tenant, hstored.symm, .of_steps (hbefore.trans hsalted)
        (runs_upsertPassword hupsert) (runs_deleteSessions hdelete)
        (.of_runs (all_createSession rfl rfl rfl fun _ _ => rfl) hcreate)⟩

/-- Whenever a password was written, it was for the login method of the account's email, and the
sessions of the account's tenant were deleted. -/
theorem rewritten_of_body {setup : Setup} {write : PasswordWrite} {answer : Answer}
    {key : String × String}
    (hrun : (write.task.body setup).Runs (Prog.Recorded (Db.Step setup.hashing)) a (.ok answer) b)
    (ha : a.2 = []) (hkey : key ∈ b.2.filterMap Entry.written) :
    ∃ email tenantId, write.account setup a.1 = some (email, tenantId) ∧
      Rewritten setup.hashing email tenantId write.newPassword a b := by
  cases write with
  | reset code newPassword =>
    obtain ⟨out, _, hout, hanswer, rfl⟩ := (runs_bind _).mp hrun
    cases out with
    | error e => cases hanswer
    | ok =>
      rcases runs_passwordReset hout with hkept | ⟨row, tenantId, hrow, htenant, hrewritten⟩
      · rw [hkept.written, ha] at hkey
        cases hkey
      · exact ⟨row.email, tenantId, by simp [PasswordWrite.account, hrow, htenant], hrewritten⟩
  | setAuthenticated tenantId code newPassword =>
    obtain ⟨out, _, hout, hanswer, rfl⟩ := (runs_bind _).mp hrun
    cases out with
    | error e => cases hanswer
    | ok raw =>
      obtain ⟨tenant, htenant, hrewritten⟩ := runs_setPasswordAuthenticated hout
      exact ⟨tenant.email, tenantId, by simp [PasswordWrite.account, htenant], hrewritten⟩

end

/-- Whenever a reset or an authenticated change returns and has written a password, from any
database, the account it is for is told by the database before it: the password was written for
the email of the account, and the sessions of its tenant were deleted. The password goes to that
tenant exactly if the login method that was stored for the email before, if there was one, belongs
to it. -/
theorem password_write_exact (setup : Setup) (write : PasswordWrite) {s s' : Db} {log : List Entry}
    {answer : Answer} {key : String × String}
    (hrun : (write.task.body setup).Runs (Prog.Recorded (Db.Step setup.hashing)) (s, [])
      (.ok answer) (s', log))
    (hkey : key ∈ log.filterMap Entry.written) :
    ∃ email tenantId, write.account setup s = some (email, tenantId) ∧
      key = (providerPassword, email) ∧ log.filterMap Entry.revoked = [tenantId] ∧
      (HitsAccount setup key tenantId write.newPassword s' ↔
        ∀ row, s.identities.get? (providerPassword, email) = some row →
          row.tenantId = tenantId) := by
  obtain ⟨email, tenantId, haccount, hrewritten⟩ := rewritten_of_body hrun rfl hkey
  obtain rfl : key = (providerPassword, email) := by
    have hwritten : log.filterMap Entry.written = [(providerPassword, email)] := hrewritten.written
    rw [hwritten] at hkey
    exact mem_singleton.mp hkey
  obtain ⟨row, salt, hrow, hhash, howner⟩ := hrewritten.stored
  refine ⟨email, tenantId, haccount, rfl, hrewritten.revoked, ?_, ?_⟩
  · rintro ⟨⟨row', hrow', rfl⟩, -⟩ before hbefore
    rw [hrow] at hrow'
    cases hrow'
    rw [howner, hbefore]
    rfl
  · intro hsame
    have howned : row.tenantId = tenantId := by
      rw [howner]
      cases hbefore : s.identities.get? (providerPassword, email) with
      | none => rfl
      | some before => exact hsame before hbefore
    refine ⟨⟨row, hrow, howned⟩, fun hlive hdraw given hgiven replica remoteIp => ?_⟩
    subst howned
    refine total_passwordLogin hgiven hrow ?_ hlive hdraw
    rw [hhash, any_some]
    exact setup.hashing.verify_hash salt write.newPassword

/-! ## An email that was taken over -/

def sampleReset (s : Db) : Option (Except IdentitiesError Answer × Audited) :=
  ((PasswordWrite.reset "code-2" "password-2").task.body sampleSetup).runWith
    (fun c a => (Db.exec sampleHashing (sampleChoice "") c a.1).map fun out =>
      (out.1, out.2, a.2 ++ [⟨c, out.1⟩])) (s, [])

theorem runs_sampleReset {s : Db} {out : Except IdentitiesError Answer × Audited}
    (h : sampleReset s = some out) :
    ((PasswordWrite.reset "code-2" "password-2").task.body sampleSetup).Runs
      (Prog.Recorded (Db.Step sampleHashing)) (s, []) out.1 out.2 := by
  refine runs_of_runWith _ ?_ h
  intro c a r a' hcall
  obtain ⟨⟨r', t⟩, hexec, hout⟩ := map_eq_some_iff.mp hcall
  cases hout
  exact ⟨⟨_, hexec⟩, rfl⟩

/-- The reset goes to its account. -/
theorem password_write_exact_sample :
    ∃ s', HitsAccount sampleSetup (providerPassword, "a@b") "tenant-1" "password-2" s' := by
  let s := ((plane sampleSetup).system.runD (.start .empty) sampleForgotten).state
  obtain ⟨⟨result, s', log⟩, hreset⟩ :=
    isSome_iff_exists.mp (by decide +kernel : (sampleReset s).isSome = true)
  have hfacts : (sampleReset s).map (fun out => (out.1, out.2.2.filterMap Entry.written,
      out.2.2.filterMap Entry.revoked)) =
        some (.ok .done, [(providerPassword, "a@b")], ["tenant-1"]) := by decide +kernel
  rw [hreset] at hfacts
  obtain ⟨rfl, hwritten, hrevoked⟩ : result = .ok .done ∧
      log.filterMap Entry.written = [(providerPassword, "a@b")] ∧
      log.filterMap Entry.revoked = ["tenant-1"] := by simpa using hfacts
  have howner : (s.identities.get? (providerPassword, "a@b")).map (·.tenantId) =
    some "tenant-1" := by decide +kernel
  obtain ⟨email, tenantId, -, hkey, htenant, hexact⟩ := password_write_exact sampleSetup
    (.reset "code-2" "password-2") (runs_sampleReset hreset) (by rw [hwritten]; exact .head _)
  rw [hrevoked] at htenant
  cases htenant
  cases hkey
  refine ⟨s', hexact.mpr fun row hrow => ?_⟩
  rw [hrow] at howner
  exact some.inj howner

/-- The tenant deregisters, the email is taken by a new tenant before anything reacts to that, and
the new tenant asks for a reset. -/
def sampleTakeover : List (plane sampleSetup).Action :=
  sampleClosing ++ [.spawn (.oidcCallback "tenant-2" "google" "code" "verifier")] ++
    sampleTurns 2 "token-2" 10 ++ [.env ⟨"code-2", "a@b", .passwordReset, 100⟩]

/-- The password goes to the login method of the old tenant, and the sessions of the new one are
deleted. -/
theorem password_write_exact_counterexample : ∃ cfg s' log answer tenantId,
      (plane sampleSetup).system.run (.start .empty) sampleTakeover = some cfg ∧
      ((PasswordWrite.reset "code-2" "password-2").task.body sampleSetup).Runs
        (Prog.Recorded (Db.Step sampleHashing)) (cfg.state, []) (.ok answer) (s', log) ∧
      (providerPassword, "a@b") ∈ log.filterMap Entry.written ∧
      log.filterMap Entry.revoked = [tenantId] ∧ s'.tenants.isLive tenantId = true ∧
      ¬ HitsAccount sampleSetup (providerPassword, "a@b") tenantId "password-2" s' := by
  let s := ((plane sampleSetup).system.runD (.start .empty) sampleTakeover).state
  obtain ⟨⟨result, s', log⟩, hreset⟩ :=
    isSome_iff_exists.mp (by decide +kernel : (sampleReset s).isSome = true)
  have hfacts : (sampleReset s).map (fun out => (out.1, out.2.2.filterMap Entry.written,
      out.2.2.filterMap Entry.revoked, out.2.1.tenants.isLive "tenant-2",
      (out.2.1.identities.get? (providerPassword, "a@b")).map (·.tenantId))) =
        some (.ok .done, [(providerPassword, "a@b")], ["tenant-2"], true, some "tenant-1") := by
    decide +kernel
  rw [hreset] at hfacts
  obtain ⟨rfl, hwritten, hrevoked, hlive, howner⟩ : result = .ok .done ∧
      log.filterMap Entry.written = [(providerPassword, "a@b")] ∧
      log.filterMap Entry.revoked = ["tenant-2"] ∧ s'.tenants.isLive "tenant-2" = true ∧
      (s'.identities.get? (providerPassword, "a@b")).map (·.tenantId) = some "tenant-1" := by
    simpa using hfacts
  refine ⟨_, s', log, .done, "tenant-2", System.run_eq_some_runD _ (by decide +kernel),
    runs_sampleReset hreset, by rw [hwritten]; exact .head _, hrevoked, hlive, ?_⟩
  rintro ⟨⟨row, hrow, hrow2⟩, -⟩
  rw [hrow] at howner
  have hrow1 : row.tenantId = "tenant-1" := some.inj howner
  rw [hrow1] at hrow2
  exact absurd hrow2 (by decide)

end Wardnet.Identities
