/-
# Login resolution and ownership

`resolve_identity` looks a login method up, finds or creates a tenant, and inserts the login
method for it. The insert does nothing if the login method was stored meanwhile, and its outcome
is not looked at. So the answer agrees with what is stored as long as nobody stores the login
method between the lookup and the insert.
-/

import Wardnet.Identities.Effects
import Wardnet.Identities.Triples

namespace Wardnet.Identities

open Base Tenants Learning Learns
open Base.Learning (ifOk)
open Authority (Config VerifiedIdentity Failure normalizeEmail)

/-! ## Login methods that stay -/

def IdentitiesStay (s s' : Db) : Prop :=
  ∀ key row, s.identities.get? key = some row → s'.identities.get? key = some row

/-! ## The tasks -/

/-- Login resolution, signup with a password, and linking. -/
def Task.resolves : Task → Bool
  | .resolveIdentity .. | .passwordSignup .. | .linkIdentity .. => true
  | _ => false

/-- The tasks that insert a login method and do not look at the outcome. -/
def Task.insertsBlindly : Task → Bool
  | .resolveIdentity .. | .passwordSignup .. => true
  | _ => false

def Call.inserts : Call → Option (String × String)
  | .authority (.insertIdentity provider subject _) => some (provider, subject)
  | _ => none

/-- An insert meets no login method. -/
def InsertsFresh (s : Db) (c : Call) : Prop :=
  ∀ key ∈ c.inserts, s.identities.get? key = none

instance (s : Db) (c : Call) : Decidable (InsertsFresh s c) :=
  inferInstanceAs (Decidable (∀ _, _))

/-- Nothing that these tasks do removes or changes a stored login method. -/
def resolution (setup : Setup) : Learning (plane setup) where
  Spawns task := task.resolves = true
  Issues := Call.KeepsIdentities
  Permits task s c := task.insertsBlindly = true → InsertsFresh s c
  Rel _ := IdentitiesStay
  exec_rel hkeeps _ hexec _ _ hrow := (exec_change hexec).identity_stays hkeeps hrow
  env_rel := by
    intro issue s s' _ henv key row hrow
    obtain ⟨codes, rfl⟩ := Issue.apply_eq_some henv
    exact hrow

section

theorem issues_keepsIdentities (setup : Setup) (c : Call) (h : c.KeepsIdentities) :
    (resolution setup).Issues c ∧ (resolution setup).owned c = none := ⟨h, rfl⟩

variable {setup : Setup} {task : Task} {own : Option ℕ} {P : Db → Prop}

def Stored (provider subject : String) (ok : TenantIdentity → Prop) (s : Db) : Prop :=
  ∃ row, s.identities.get? (provider, subject) = some row ∧ ok row

theorem stable_stored (provider subject : String) (ok : TenantIdentity → Prop) :
    (resolution setup).Stable own (Stored provider subject ok) := by
  rintro _ s s' hstay _ ⟨row, hrow, hok⟩
  exact ⟨row, hstay _ _ hrow, hok⟩

theorem learns_findIdentity (provider subject : String) : (resolution setup).Learns task own
      (ifOk fun found s => ∀ row, found = some row → Stored provider subject (· = row) s) P
      (ask (.authority (.findIdentity provider subject))) := by
  refine call trivial rfl (stable_ifOk fun found => ?_) ?_
  · intro x s s' hstay hx h row hfound
    exact stable_stored _ _ _ x s s' hstay hx (h row hfound)
  · intro choice s r s' _ _ hexec
    cases r with
    | error => trivial
    | ok found =>
      rintro row rfl
      obtain ⟨hfound, htables⟩ := (exec_change hexec).of_findIdentity
      have hidentities : s'.identities = s.identities := congrArg Tables.identities htables
      exact ⟨row, by rw [hidentities]; exact hfound.symm, rfl⟩

/-- What is inserted where nothing is stored is stored then. -/
theorem learns_insertIdentity (provider subject : String) (identity : TenantIdentity)
    (hblind : task.insertsBlindly = true) :
    (resolution setup).Learns task own (ifOk fun _ => Stored provider subject (· = identity)) P
      (ask (.authority (.insertIdentity provider subject identity))) := by
  refine call trivial rfl (stable_ifOk fun _ => stable_stored _ _ _) ?_
  intro choice s r s' _ hfresh hexec
  cases r with
  | error => trivial
  | ok outcome =>
    rcases (exec_change hexec).of_insertIdentity with ⟨-, -, htables⟩ | ⟨-, -, row, hrow⟩
    · have hidentities : s'.identities = s.identities.insert (provider, subject) identity :=
        congrArg Tables.identities htables
      exact ⟨identity, by rw [hidentities, Store.get?_insert_self], rfl⟩
    · cases (hfresh hblind (provider, subject) rfl).symm.trans hrow

/-- What resolution learns: the login method belongs to the tenant, and if it was not there, it has
the secret that was given. -/
theorem learns_resolveIdentity (id : String) (verified : VerifiedIdentity)
    (secretHash : Option String)
    (hblind : task.insertsBlindly = true) :
    (resolution setup).Learns task own
      (ifOk fun out => Stored verified.provider verified.subject fun row =>
        row.tenantId = out.1 ∧ (out.2 = false → row.secretHash = secretHash))
      P (resolveIdentity setup.config id verified secretHash).run := by
  apply mapError
  refine learns_delegate_exceptBind (Q := fun found s => ∀ row, found = some row →
    Stored verified.provider verified.subject (· = row) s) ?_ fun found => ?_
  · apply learns_delegate_mapError
    apply learns_delegate_mapError
    exact learns_findIdentity _ _
  cases found with
  | some existing =>
    intro s h
    obtain ⟨row, hrow, rfl⟩ := h existing rfl
    exact ⟨row, hrow, rfl, fun hfalse => by cases hfalse⟩
  | none =>
    dsimp only
    split
    · exact fun _ _ => trivial
    refine learns_delegate_exceptBind (Q := fun _ _ => True) ?_ fun email => ?_
    · intro s _
      cases (normalizeEmail setup.config verified.email).mapError
        Authority.IdentitiesError.tenants with
      | ok | error => trivial
    refine learns_delegate_exceptBind (Q := fun _ _ => True) ?_ fun tenantId => ?_
    · apply keep stable_true (issues_keepsIdentities setup)
      exact (Authority.all_resolveTenant (fun c h _ =>
        (Call.signsIn_of_resolves c h).keepsIdentities) setup.config id email).translate
    refine learns_delegate_exceptBind (Q := fun _ =>
      Stored verified.provider verified.subject (· = ⟨tenantId, secretHash, email⟩)) ?_ fun _ => ?_
    · apply learns_delegate_mapError
      apply learns_delegate_mapError
      exact learns_insertIdentity _ _ _ hblind
    · rintro s ⟨_, hrow, rfl⟩
      exact ⟨_, hrow, rfl, fun _ => rfl⟩

/-- A signup that opens a session has stored its password. -/
theorem learns_passwordSignup (id email code password : String) :
    (resolution setup).Learns (.passwordSignup id email code password) own
      (ifOk fun _ s => ∃ normal, normalizeEmail setup.config email = .ok normal ∧
        Stored providerPassword normal (fun row => ∃ salt,
          row.secretHash = some (setup.hashing.hashPassword salt password)) s)
      (fun _ => True)
      (passwordSignup setup.config setup.hashing id email code password).run := by
  refine check fun _ _ => ?_
  refine exceptBind (Q := fun _ _ => True) ?_ fun codeEmail => ?_
  · exact keep stable_true (issues_keepsIdentities setup) (all_burnCode trivial fun _ => trivial)
  refine check fun normal hnormalized => ?_
  have hnormal : normalizeEmail setup.config email = .ok normal := by
    cases hresult : normalizeEmail setup.config email with
    | ok value =>
      rw [normalized, hresult] at hnormalized
      exact congrArg Except.ok (Except.ok.inj hnormalized)
    | error e =>
      rw [normalized, hresult] at hnormalized
      cases hnormalized
  split
  · exact fun _ _ => trivial
  rename_i hsame
  obtain rfl : codeEmail = normal := not_not.mp hsame
  refine exceptBind (Q := fun _ _ => True) ?_ fun found => ?_
  · exact keep stable_true (issues_keepsIdentities setup)
      (all_orInternal ⟨trivial, fun _ => trivial⟩)
  split
  · exact fun _ _ => trivial
  -- the hash depends on the salt that is drawn
  refine ⟨trivial, .inl rfl, fun _ _ => True, fun _ => stable_true,
    fun _ _ _ _ _ _ _ _ => ⟨trivial, trivial⟩, fun salt => ?_⟩
  refine exceptBind (learns_resolveIdentity id ⟨providerPassword, codeEmail, codeEmail, true⟩
    (some (setup.hashing.hashPassword salt password)) rfl) ?_
  rintro ⟨tenantId, existed⟩
  cases existed with
  | true => exact fun _ _ => trivial
  | false =>
    refine conseq (P := Stored providerPassword codeEmail fun row => ∃ salt,
      row.secretHash = some (setup.hashing.hashPassword salt password))
      (keep (stable_stored _ _ _) (issues_keepsIdentities setup)
        (all_createSession trivial trivial trivial fun _ _ => trivial)) ?_ ?_
    · rintro s ⟨row, hrow, -, hhash⟩
      exact ⟨row, hrow, salt, hhash rfl⟩
    · intro r s hstored
      cases r with
      | ok => exact ⟨codeEmail, hnormal, hstored⟩
      | error => trivial

end

/-! ## Every task learns what its answer says -/

/-- The answer of a task agrees with what is stored. -/
structure Owned (setup : Setup) (task : Task) (value : Except IdentitiesError Answer) (s : Db) :
    Prop where
  /-- A tenant that resolution returns owns the login method. -/
  resolved : ∀ {id verified secretHash tenantId existed},
    task = .resolveIdentity id verified secretHash → value = .ok (.tenant tenantId existed) →
      ∃ row, s.identities.get? (verified.provider, verified.subject) = some row ∧
        row.tenantId = tenantId
  /-- A signup that returns a session has its password stored for its email. -/
  signedUp : ∀ {id email code password raw},
    task = .passwordSignup id email code password → value = .ok (.session raw) →
      ∃ normal row salt, normalizeEmail setup.config email = .ok normal ∧
        s.identities.get? (providerPassword, normal) = some row ∧
        row.secretHash = some (setup.hashing.hashPassword salt password)

theorem learns_owned {own : Option ℕ} (setup : Setup) (task : Task) (htask : task.resolves = true) :
    (resolution setup).Learns task own (Owned setup task) (fun _ => True)
      (Task.body setup task) := by
  cases task with
  | resolveIdentity id verified secretHash =>
    have hresolve := @learns_resolveIdentity setup (.resolveIdentity id verified secretHash)
      own (fun _ => True) id verified secretHash rfl
    refine hresolve.bind fun r s h => ⟨?_, by rintro _ _ _ _ _ ⟨⟩⟩
    rintro _ _ _ tenantId existed ⟨⟩ hok
    cases r with
    | error => cases hok
    | ok out =>
      cases hok
      obtain ⟨row, hrow, hsame, -⟩ := h
      exact ⟨row, hrow, hsame⟩
  | passwordSignup id email code password =>
    refine (learns_passwordSignup id email code password).bind fun r s h =>
      ⟨by rintro _ _ _ _ _ ⟨⟩, ?_⟩
    rintro _ _ _ _ raw ⟨⟩ hok
    cases r with
    | error => cases hok
    | ok =>
      obtain ⟨normal, hnormal, row, hrow, salt, hsalt⟩ := h
      exact ⟨normal, row, salt, hnormal, hrow, hsalt⟩
  | linkIdentity rounds provider code verifier tenantId =>
    refine (of_all stable_true (issues_keepsIdentities setup)
      (all_linkIdentity Call.SignsIn.keepsIdentities ..)).bind fun _ _ _ => ?_
    exact ⟨by rintro _ _ _ _ _ ⟨⟩, by rintro _ _ _ _ _ ⟨⟩⟩
  | _ => cases htask

/-- In every run of resolutions, signups and linkings in which no insert of a resolution or a signup
meets a login method, the answer of every task that has returned agrees with what is stored. -/
theorem resolution_owned (setup : Setup) {s : Db} {acts : List (plane setup).Action}
    {cfg : (plane setup).Config} {i : ℕ} {th : (plane setup).Thread}
    {value : Except IdentitiesError Answer}
    (hfresh : (plane setup).system.Along (resolution setup).guard (.start s) acts)
    (hrun : (plane setup).system.run (.start s) acts = some cfg)
    (hth : cfg.threads[i]? = some th) (hret : th.result = some value) :
    Owned setup th.task value cfg.state :=
  learned_of_run (fun task htask => (learns_owned setup task htask).obeys) trivial hfresh hrun hth
    hret

/-! ## Login methods that somebody else stored meanwhile -/

def resolvesOnly : (plane sampleSetup).Action → Bool
  | .spawn task => task.resolves
  | .step _ _ | .env _ => true

theorem along_guard_of_fresh {s : Db} {acts : List (plane sampleSetup).Action}
    (honly : acts.all resolvesOnly = true)
    (hfresh : (plane sampleSetup).system.Along (World.Config.Pending InsertsFresh)
      (.start s) acts) :
    (plane sampleSetup).system.Along (resolution sampleSetup).guard (.start s) acts := by
  have hspawns : (plane sampleSetup).system.Along (fun _ a => resolvesOnly a = true) (.start s)
      acts :=
    (plane sampleSetup).system.along_of_forall_mem fun a ha _ => List.all_eq_true.mp honly a ha
  refine (hspawns.and _ hfresh).mono _ fun cfg a h => ?_
  cases a with
  | spawn task => exact h.1
  | step i choice => exact fun th hth c hc _ => h.2 th hth c hc
  | env => trivial

/-- A tenant signs up, links its Google account, and logs in with it. -/
def sampleLinked : List (plane sampleSetup).Action :=
  sampleSignup ++ [.spawn (.linkIdentity 1 "google" "code" "verifier" "tenant-1")] ++
    sampleTurns 1 "" 3 ++
    [.spawn (.resolveIdentity "tenant-2" ⟨"google", "sub-1", "a@b", true⟩ none)] ++
    sampleTurns 2 "" 1

/-- The login resolves to the tenant, and the account is linked to it. -/
theorem resolution_owned_sample :
    ∃ (cfg : (plane sampleSetup).Config) (th : (plane sampleSetup).Thread),
      (plane sampleSetup).system.run (.start .empty) sampleLinked = some cfg ∧
      cfg.threads[2]? = some th ∧ th.result = some (.ok (.tenant "tenant-1" true)) ∧
      Owned sampleSetup th.task (.ok (.tenant "tenant-1" true)) cfg.state := by
  have hrun := (plane sampleSetup).system.run_eq_some_runD
    (by decide +kernel :
      ((plane sampleSetup).system.run (.start .empty) sampleLinked).isSome = true)
  obtain ⟨th, hth, hret⟩ := Option.map_eq_some_iff.mp (by decide +kernel :
    ((plane sampleSetup).system.runD (.start .empty) sampleLinked).threads[2]?.map (·.result) =
      some (some (.ok (.tenant "tenant-1" true))))
  exact ⟨_, th, hrun, hth, hret, resolution_owned sampleSetup
    (along_guard_of_fresh (by decide +kernel) (by decide +kernel)) hrun hth hret⟩

/-- The clock shows 0, and Google vouches for another email. -/
def sampleOther : Choice := ⟨⟨0, false, "", []⟩, "", ⟨"google", "sub-1", "c@d", true⟩⟩

/-- A login with a Google account looks it up, a tenant links the account, and the login goes
on. -/
def sampleLinkRace : List (plane sampleSetup).Action :=
  sampleSignup ++
    [.spawn (.resolveIdentity "tenant-2" ⟨"google", "sub-1", "c@d", true⟩ none),
      .step 1 sampleOther, .spawn (.linkIdentity 1 "google" "code" "verifier" "tenant-1")] ++
    List.replicate 3 (.step 2 sampleOther) ++ List.replicate 4 (.step 1 sampleOther)

/-- Two signups for one email look up the password, and then go on one after the other. -/
def sampleSignupRace : List (plane sampleSetup).Action :=
  [.env ⟨"code-1", "a@b", .signup, 100⟩, .env ⟨"code-2", "a@b", .signup, 100⟩,
      .spawn (.passwordSignup "tenant-1" "a@b" "code-1" "password-1"),
      .spawn (.passwordSignup "tenant-2" "a@b" "code-2" "password-2")] ++
    sampleTurns 1 "" 5 ++ sampleTurns 0 "token-1" 13 ++ sampleTurns 1 "token-2" 6

/-- The login resolves to a tenant that does not own the account. The second signup returns a
session although the password of the first one is stored. -/
theorem resolution_owned_counterexample :
    (∃ (cfg : (plane sampleSetup).Config) (th : (plane sampleSetup).Thread),
      sampleLinkRace.all resolvesOnly = true ∧
      (plane sampleSetup).system.run (.start .empty) sampleLinkRace = some cfg ∧
      cfg.threads[1]? = some th ∧
      th.task = .resolveIdentity "tenant-2" ⟨"google", "sub-1", "c@d", true⟩ none ∧
      th.result = some (.ok (.tenant "tenant-2" false)) ∧
      cfg.state.identities.get? ("google", "sub-1") = some ⟨"tenant-1", none, "c@d"⟩) ∧
    ∃ (cfg : (plane sampleSetup).Config) (th : (plane sampleSetup).Thread),
      sampleSignupRace.all resolvesOnly = true ∧
      (plane sampleSetup).system.run (.start .empty) sampleSignupRace = some cfg ∧
      cfg.threads[1]? = some th ∧
      th.task = .passwordSignup "tenant-2" "a@b" "code-2" "password-2" ∧
      th.result = some (.ok (.session "token-2")) ∧
      cfg.state.identities.get? (providerPassword, "a@b") =
        some ⟨"tenant-1", some (sampleHashing.hashPassword "token-1" "password-1"), "a@b"⟩ := by
  constructor
  · have hrun := (plane sampleSetup).system.run_eq_some_runD (by decide +kernel :
      ((plane sampleSetup).system.run (.start .empty) sampleLinkRace).isSome = true)
    obtain ⟨th, hth, hreturned⟩ := Option.map_eq_some_iff.mp (by decide +kernel :
      ((plane sampleSetup).system.runD (.start .empty) sampleLinkRace).threads[1]?.map
        (fun th => (th.task, th.result)) =
          some (.resolveIdentity "tenant-2" ⟨"google", "sub-1", "c@d", true⟩ none,
            some (.ok (.tenant "tenant-2" false))))
    obtain ⟨htask, hret⟩ := Prod.mk.injEq .. ▸ hreturned
    exact ⟨_, th, by decide +kernel, hrun, hth, htask, hret, by decide +kernel⟩
  · have hrun := (plane sampleSetup).system.run_eq_some_runD (by decide +kernel :
      ((plane sampleSetup).system.run (.start .empty) sampleSignupRace).isSome = true)
    obtain ⟨th, hth, hreturned⟩ := Option.map_eq_some_iff.mp (by decide +kernel :
      ((plane sampleSetup).system.runD (.start .empty) sampleSignupRace).threads[1]?.map
        (fun th => (th.task, th.result)) =
          some (.passwordSignup "tenant-2" "a@b" "code-2" "password-2",
            some (.ok (.session "token-2"))))
    obtain ⟨htask, hret⟩ := Prod.mk.injEq .. ▸ hreturned
    exact ⟨_, th, by decide +kernel, hrun, hth, htask, hret, by decide +kernel⟩

end Wardnet.Identities
