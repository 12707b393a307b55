/-
# What a call does to accounts

The identity service works on three tables: tenants, login methods and sessions. `Change` lists
everything that a call of any service can do to them or read from them, with the answer that
goes with it. A call that fails or works on other tables leaves them as they are.
-/

import Wardnet.Authority.Calls
import Wardnet.Authority.License
import Wardnet.Identities.World

namespace Wardnet.Identities

open Base Tenants Prog TenantTable Store Option All
open Authority (Config Database Failure TenantsError VerifiedIdentity ifTenant_eq)
open Enrollment (CodePurpose)

structure Tables where
  tenants : TenantTable
  identities : IdentityTable
  sessions : Store String Session

def Db.tables (s : Db) : Tables := ⟨s.tenants, s.identities, s.sessions⟩

/-- The call and its answer have nothing to do with the tables of accounts. -/
def Call.quiet : (c : Call) → c.Resp → Bool
  | .authority (.findTenant _), .ok _ => false
  | .authority (.findTenantByEmail _), .ok _ => false
  | .authority (.findIdentity ..), .ok _ => false
  | .authority (.createTenant ..), .ok .created => false
  | .authority (.setDeregistered _), .ok _ => false
  | .authority .deleteTombstonedEmpty, .ok _ => false
  | .authority (.insertIdentity ..), .ok _ => false
  | .authority (.deleteSessionsForTenant _), .ok _ => false
  | .authority (.deleteIdentitiesForTenant _), .ok _ => false
  | .updateSecretHash .., .ok _ => false
  | .unlinkGuarded .., .ok .removed => false
  | .createSession .., .ok _ => false
  | .touchAndGetTenant .., .ok _ => false
  | .deleteSession _, .ok _ => false
  | _, _ => true

inductive Change : (c : Call) → c.Resp → Tables → Tables → Prop
  | quiet {c : Call} {r : c.Resp} {t : Tables} (hquiet : c.quiet r = true) : Change c r t t
  | findTenant {id : String} {t : Tables} :
      Change (.authority (.findTenant id)) (.ok (t.tenants.findById id)) t t
  | findTenantByEmail {email : String} {t : Tables} :
      Change (.authority (.findTenantByEmail email))
        (.ok ((t.tenants.findByEmail email).map Prod.fst)) t t
  | findIdentity {provider subject : String} {t : Tables} :
      Change (.authority (.findIdentity provider subject))
        (.ok (t.identities.get? (provider, subject))) t t
  | createTenant {id email : String} {t : Tables} {table : TenantTable}
      (hcreate : t.tenants.create id email = some (.created, table)) :
      Change (.authority (.createTenant id email)) (.ok .created) t { t with tenants := table }
  | setDeregistered {id : String} {t : Tables} (now : Int) :
      Change (.authority (.setDeregistered id)) (.ok (t.tenants.setDeregistered id now).1) t
        { t with tenants := (t.tenants.setDeregistered id now).2 }
  | sweep {t : Tables} {n : ℕ} (ids : List String)
      (htombstoned : ∀ id ∈ ids, (t.tenants.findById id).isSome = true ∧
        t.tenants.isLive id = false) :
      Change (.authority .deleteTombstonedEmpty) (.ok n) t
        ⟨t.tenants.remove ids, t.identities.retain fun _ row => row.tenantId ∉ ids,
          t.sessions.retain fun _ row => row.tenantId ∉ ids⟩
  | insertIdentity {provider subject : String} {identity : TenantIdentity} {t : Tables}
      (hnew : t.identities.get? (provider, subject) = none)
      (hexists : (t.tenants.findById identity.tenantId).isSome = true) :
      Change (.authority (.insertIdentity provider subject identity)) (.ok .created) t
        { t with identities := t.identities.insert (provider, subject) identity }
  | identityExists {provider subject : String} {identity row : TenantIdentity} {t : Tables}
      (hrow : t.identities.get? (provider, subject) = some row) :
      Change (.authority (.insertIdentity provider subject identity)) (.ok .alreadyExists) t t
  | deleteSessionsForTenant {tenantId : String} {t : Tables} {n : ℕ} :
      Change (.authority (.deleteSessionsForTenant tenantId)) (.ok n) t
        { t with sessions := t.sessions.retain fun _ row => !(row.tenantId = tenantId) }
  | deleteIdentitiesForTenant {tenantId : String} {t : Tables} {n : ℕ} :
      Change (.authority (.deleteIdentitiesForTenant tenantId)) (.ok n) t
        { t with identities := t.identities.retain fun _ row => !(row.tenantId = tenantId) }
  | updateSecretHash {provider subject secretHash : String} {t : Tables} :
      Change (.updateSecretHash provider subject secretHash)
        (.ok (t.identities.contains (provider, subject))) t
        { t with identities := t.identities.modify fun key row =>
            if key = (provider, subject) then { row with secretHash := some secretHash } else row }
  | unlinked {tenantId provider : String} {t : Tables} :
      Change (.unlinkGuarded tenantId provider) (.ok .removed) t
        { t with identities :=
            t.identities.retain fun key row => !(row.tenantId = tenantId ∧ key.1 = provider) }
  | createSession {tokenHash : String} {session : Session} {t : Tables}
      (hnew : t.sessions.get? tokenHash = none)
      (hexists : (t.tenants.findById session.tenantId).isSome = true) :
      Change (.createSession tokenHash session) (.ok ()) t
        { t with sessions := t.sessions.insert tokenHash session }
  | touch {tokenHash : String} {now newExpiresAt : Int} {t : Tables} {row : Session}
      (hrow : t.sessions.get? tokenHash = some row) (hnow : now < row.expiresAt)
      (hlive : t.tenants.isLive row.tenantId = true) :
      Change (.touchAndGetTenant tokenHash now newExpiresAt) (.ok (some row.tenantId)) t
        { t with sessions :=
            t.sessions.insert tokenHash { row with expiresAt := newExpiresAt } }
  | notTouched {tokenHash : String} {now newExpiresAt : Int} {t : Tables}
      (hgone : ∀ row, t.sessions.get? tokenHash = some row → now < row.expiresAt →
        t.tenants.isLive row.tenantId = false) :
      Change (.touchAndGetTenant tokenHash now newExpiresAt) (.ok none) t t
  | deleteSession {tokenHash : String} {t : Tables} {found : Bool} :
      Change (.deleteSession tokenHash) (.ok found) t
        { t with sessions := t.sessions.erase tokenHash }

section

variable {t t' : Tables}

theorem Change.of_quiet {c : Call} {r : c.Resp} (h : Change c r t t') (hquiet : c.quiet r = true) :
    t' = t := by
  cases h with
  | quiet => rfl
  | _ => cases hquiet

variable {subject provider tokenHash : String}

theorem Change.of_findIdentity {found : Option TenantIdentity}
    (h : Change (.authority (.findIdentity provider subject)) (.ok found) t t') :
    found = t.identities.get? (provider, subject) ∧ t' = t := by
  cases h with
  | quiet hquiet => cases hquiet
  | findIdentity => exact ⟨rfl, rfl⟩

theorem Change.of_createSession {session : Session}
    (h : Change (.createSession tokenHash session) (.ok ()) t t') :
    t.sessions.get? tokenHash = none ∧
      t' = { t with sessions := t.sessions.insert tokenHash session } := by
  cases h with
  | quiet hquiet => cases hquiet
  | createSession hnew hexists => exact ⟨hnew, rfl⟩

theorem Change.of_findTenant {id : String} {found : Option Tenant}
    (h : Change (.authority (.findTenant id)) (.ok found) t t') :
    found = t.tenants.findById id ∧ t' = t := by
  cases h with
  | quiet hquiet => cases hquiet
  | findTenant => exact ⟨rfl, rfl⟩

theorem Change.of_findTenantByEmail {email : String} {found : Option String}
    (h : Change (.authority (.findTenantByEmail email)) (.ok found) t t') :
    found = (t.tenants.findByEmail email).map Prod.fst ∧ t' = t := by
  cases h with
  | quiet hquiet => cases hquiet
  | findTenantByEmail => exact ⟨rfl, rfl⟩

theorem Change.of_updateSecretHash {secretHash : String} {found : Bool}
    (h : Change (.updateSecretHash provider subject secretHash) (.ok found) t t') :
    found = t.identities.contains (provider, subject) ∧
      t' = { t with identities := t.identities.modify fun key row =>
        if key = (provider, subject) then { row with secretHash := some secretHash }
        else row } := by
  cases h with
  | quiet hquiet => cases hquiet
  | updateSecretHash => exact ⟨rfl, rfl⟩

theorem Change.of_insertIdentity {identity : TenantIdentity} {outcome : InsertIdentityOutcome}
    (h : Change (.authority (.insertIdentity provider subject identity)) (.ok outcome) t t') :
    (outcome = .created ∧ t.identities.get? (provider, subject) = none ∧
        t' = { t with identities := t.identities.insert (provider, subject) identity }) ∨
      (outcome = .alreadyExists ∧ t' = t ∧
        ∃ row, t.identities.get? (provider, subject) = some row) := by
  cases h with
  | quiet hquiet => cases hquiet
  | insertIdentity hnew hexists => exact .inl ⟨rfl, hnew, rfl⟩
  | identityExists hrow => exact .inr ⟨rfl, rfl, _, hrow⟩

theorem Change.of_deleteSessionsForTenant {tenantId : String} {n : ℕ}
    (h : Change (.authority (.deleteSessionsForTenant tenantId)) (.ok n) t t') :
    t' = { t with sessions := t.sessions.retain fun _ row => !(row.tenantId = tenantId) } := by
  cases h with
  | quiet hquiet => cases hquiet
  | deleteSessionsForTenant => rfl

theorem Change.of_touchAndGetTenant {now newExpiresAt : Int} {found : Option String}
    (h : Change (.touchAndGetTenant tokenHash now newExpiresAt) (.ok found) t t') :
    (∃ row, found = some row.tenantId ∧ t.sessions.get? tokenHash = some row ∧
      now < row.expiresAt ∧ t.tenants.isLive row.tenantId = true) ∨
    found = none ∧ ∀ row, t.sessions.get? tokenHash = some row → now < row.expiresAt →
      t.tenants.isLive row.tenantId = false := by
  cases h with
  | quiet hquiet => cases hquiet
  | touch hrow hnow hlive => exact .inl ⟨_, rfl, hrow, hnow, hlive⟩
  | notTouched hgone => exact .inr ⟨rfl, hgone⟩

end

/-! ## Every call is one of them -/

variable {hashing : Hashing} {choice : Choice} {s s' : Db}

variable {c : Call} {r : c.Resp}

theorem quiet_of_refuse (h : Db.refuse c = some r) : c.quiet r = true := by
  cases c with
  | authority c =>
    cases c with
    | utcNow | notifyCatalogResync => cases h
    | _ =>
      cases h
      rfl
  | loginAllowed | newSalt | randomToken | stall => cases h
  | _ =>
    cases h
    rfl

theorem perform_change_authority {c : Authority.Call} {choice : Authority.Choice} {r : c.Resp}
    {d : Database} (h : Database.perform choice c s.toDatabase = some (r, d)) :
    Change (.authority c) r s.tables ({ s with toDatabase := d } : Db).tables := by
  cases c with
  | findTenant =>
    cases h
    exact Change.findTenant (t := s.tables)
  | findTenantByEmail =>
    cases h
    exact Change.findTenantByEmail (t := s.tables)
  | findIdentity =>
    cases h
    exact Change.findIdentity (t := s.tables)
  | createTrial sub =>
    simp only [Database.perform] at h
    split at h
    · rcases ifTenant_eq (some.inj h) with ⟨-, rfl, -⟩ | ⟨rfl, -⟩
      · exact .quiet rfl
      · exact .quiet rfl
    · cases h
      exact .quiet rfl
  | convertTrialToPaid | upsertSubscription =>
    rcases ifTenant_eq (some.inj h) with ⟨-, rfl, -⟩ | ⟨rfl, -⟩
    · exact .quiet rfl
    · exact .quiet rfl
  | listOverdue | listLiveIds =>
    simp only [Database.perform] at h
    split at h
    · cases h
      exact .quiet rfl
    · cases h
  | tenantForSubscription | subscriptionForCustomer =>
    obtain ⟨_, -, hout⟩ := map_eq_some_iff.mp h
    cases hout
    exact .quiet rfl
  | createTenant id email =>
    simp only [Database.perform] at h
    split at h
    · rename_i out hout
      obtain ⟨outcome, table⟩ := out
      cases h
      cases outcome with
      | created => exact .createTenant hout
      | emailTaken =>
        rcases create_cases hout with ⟨-, rfl⟩ | ⟨hcreated, -⟩
        · exact .quiet rfl
        · cases hcreated
    · cases h
      exact .quiet rfl
  | setDeregistered id =>
    cases h
    exact Change.setDeregistered (t := s.tables) choice.now
  | deleteTombstonedEmpty =>
    cases h
    exact Change.sweep (t := s.tables) s.toDatabase.sweepable fun id hid =>
      mem_tombstoned hid
  | registerNetwork =>
    simp only [Database.perform] at h
    split at h
    · rcases ifTenant_eq (some.inj h) with ⟨-, rfl, -⟩ | ⟨rfl, -⟩
      · exact .quiet rfl
      · exact .quiet rfl
    · rcases ifTenant_eq (some.inj h) with ⟨-, rfl, -⟩ | ⟨rfl, -⟩
      · exact .quiet rfl
      · exact .quiet rfl
    · cases h
      exact .quiet rfl
    · cases h
      exact .quiet rfl
  | insertIdentity provider subject identity =>
    simp only [Database.perform, IdentityTable.insertIdentity] at h
    cases hrow : s.identities.get? (provider, subject) with
    | some row =>
      rw [if_pos (contains_eq_true_iff.mpr ⟨row, hrow⟩)] at h
      cases h
      exact Change.identityExists (t := s.tables) hrow
    | none =>
      rw [if_neg (by simp [contains, hrow])] at h
      rcases ifTenant_eq (some.inj h) with ⟨hexists, rfl, rfl⟩ | ⟨rfl, rfl⟩
      · exact Change.insertIdentity (t := s.tables) hrow hexists
      · exact .quiet rfl
  | deleteSessionsForTenant tenantId =>
    cases h
    exact Change.deleteSessionsForTenant (t := s.tables)
  | deleteIdentitiesForTenant tenantId =>
    cases h
    exact Change.deleteIdentitiesForTenant (t := s.tables)
  | _ =>
    cases h
    exact .quiet rfl

/-- Every call is one of the listed changes of the account tables. -/
theorem perform_change (h : Db.perform hashing choice c s = some (r, s')) :
    Change c r s.tables s'.tables := by
  cases c with
  | authority c =>
    obtain ⟨⟨r', d⟩, hperform, hout⟩ := map_eq_some_iff.mp h
    cases hout
    exact perform_change_authority hperform
  | randomToken | exchange =>
    simp only [Db.perform] at h
    split at h
    · cases h
      exact .quiet rfl
    · cases h
  | consumeCode hash purpose now =>
    cases h
    have hsame : (s.consumeCode hash purpose now).2.tables = s.tables := by
      unfold Db.consumeCode
      split
      · rfl
      · rfl
    rw [hsame]
    exact .quiet rfl
  | updateSecretHash provider subject secretHash =>
    cases h
    have hfound : (s.updateSecretHash provider subject secretHash).1 =
        s.identities.contains (provider, subject) := by
      rw [Bool.eq_iff_iff, contains_eq_true_iff]
      simp [Db.updateSecretHash, updateWhere_pos_iff]
    rw [hfound]
    simpa [Db.updateSecretHash, updateWhere, Db.tables] using
      Change.updateSecretHash (t := s.tables)
  | unlinkGuarded tenantId provider =>
    cases h
    unfold Db.unlinkGuarded
    dsimp only
    split
    · exact .quiet rfl
    · split
      · exact .quiet rfl
      · exact Change.unlinked (t := s.tables)
  | createSession tokenHash session =>
    simp only [Db.perform] at h
    split at h
    · cases h
      exact .quiet rfl
    · rename_i hfree
      cases h
      obtain ⟨hnew, hexists⟩ := not_or.mp hfree
      refine Change.createSession (t := s.tables) ?_ ?_
      · simpa [contains, Db.tables] using hnew
      · exact Bool.of_not_eq_false hexists
  | touchAndGetTenant tokenHash now newExpiresAt =>
    cases h
    unfold Db.touchAndGetTenant
    split
    · rename_i hnone
      refine Change.notTouched (t := s.tables) fun row hrow hnow => ?_
      have hfilter := hnone
      rw [show s.sessions.get? tokenHash = some row from hrow, filter_some] at hfilter
      by_contra hlive
      rw [if_pos (decide_eq_true ⟨hnow, Bool.of_not_eq_false hlive⟩)] at hfilter
      cases hfilter
    · rename_i row hsome
      obtain ⟨hrow, hok⟩ := filter_eq_some_iff.mp hsome
      obtain ⟨hnow, hlive⟩ := of_decide_eq_true hok
      exact Change.touch (t := s.tables) hrow hnow hlive
  | deleteSession tokenHash =>
    cases h
    exact Change.deleteSession (t := s.tables)
  | stall => cases h
  | _ =>
    cases h
    exact .quiet rfl

/-- A call does one of the listed things, by itself or where it fails. -/
theorem exec_change (h : Db.exec hashing choice c s = some (r, s')) :
    Change c r s.tables s'.tables := by
  unfold Db.exec at h
  split at h
  · obtain ⟨r', hrefuse, hout⟩ := map_eq_some_iff.mp h
    cases hout
    exact .quiet (quiet_of_refuse hrefuse)
  · exact perform_change h

/-- The calls of the other services have nothing to do with the codes. -/
theorem codes_of_exec {c : Authority.Call} {r : c.Resp}
    (h : Db.exec hashing choice (.authority c) s = some (r, s')) : s'.codes = s.codes := by
  unfold Db.exec at h
  split at h
  · obtain ⟨_, -, hout⟩ := map_eq_some_iff.mp h
    cases hout
    rfl
  · obtain ⟨_, -, hout⟩ := map_eq_some_iff.mp h
    cases hout
    rfl

/-- A burned code is one that was stored. -/
theorem email_of_consumeCode {hash email : String} {purpose : CodePurpose} {now : Int}
    (h : Db.exec hashing choice (.consumeCode hash purpose now) s = some (.ok (some email), s')) :
    ∃ row, s.codes.get? hash = some row ∧ row.email = email := by
  unfold Db.exec at h
  split at h
  · cases h
  · have hburned : (s.consumeCode hash purpose now).1 = some email := by
      injection (some.inj h) with hanswer _
      exact Except.ok.inj hanswer
    unfold Db.consumeCode at hburned
    split at hburned
    · cases hburned
    · rename_i row hrow
      cases hburned
      exact ⟨row, (filter_eq_some_iff.mp hrow).1, rfl⟩

/-! ## A tenant that is closed for good -/

/-- The id belongs to a tenant, or to one that was swept. -/
def Known (tenantId : String) (table : TenantTable) : Prop :=
  (table.findById tenantId).isSome = true ∨ tenantId ∈ table.retired

def Closed (tenantId : String) (table : TenantTable) : Prop :=
  Known tenantId table ∧ table.isLive tenantId = false

theorem Known.ne_of_fresh {tenantId id : String} {table : TenantTable}
    (hknown : Known tenantId table) (hfresh : table.rows.get? id = none ∧ id ∉ table.retired) :
    tenantId ≠ id := by
  rintro rfl
  rcases hknown with hrow | hretired
  · rw [findById, hfresh.1] at hrow
    cases hrow
  · exact hfresh.2 hretired

section

variable {c : Call} {r : c.Resp} {t t' : Tables} {tenantId : String}

theorem Change.known (h : Change c r t t') (hknown : Known tenantId t.tenants) :
    Known tenantId t'.tenants := by
  cases h with
  | createTenant hcreate =>
    rcases create_cases hcreate with ⟨hout, -⟩ | ⟨-, -, hrows⟩
    · cases hout
    · refine hknown.imp (fun hrow => ?_) (fun hretired => ?_)
      · rw [findById, hrows, get?_insert]
        split
        · rfl
        · exact hrow
      · rwa [retired_create hcreate]
  | setDeregistered now =>
    refine hknown.imp (fun hrow => ?_) id
    rwa [isSome_findById_setDeregistered]
  | sweep ids htombstoned =>
    rcases hknown with hrow | hretired
    · by_cases hswept : tenantId ∈ ids
      · exact .inr (List.mem_append_left _ hswept)
      · left
        simpa [findById, remove, hswept] using hrow
    · exact .inr (List.mem_append_right _ hretired)
  | _ => exact hknown

/-- A tenant that is closed does not come back. -/
theorem Change.closed (h : Change c r t t') (hclosed : Closed tenantId t.tenants) :
    Closed tenantId t'.tenants := by
  refine ⟨h.known hclosed.1, ?_⟩
  cases h with
  | createTenant hcreate =>
    rcases create_cases hcreate with ⟨hout, -⟩ | ⟨-, hfresh, hrows⟩
    · cases hout
    · have hne : tenantId ≠ _ := hclosed.1.ne_of_fresh (fresh_of_create hcreate)
      have hdead := hclosed.2
      rwa [isLive, hrows, get?_insert_of_ne _ hne]
  | setDeregistered now => rw [isLive_setDeregistered, hclosed.2, Bool.false_and]
  | sweep ids htombstoned =>
    have hdead := hclosed.2
    simp only [isLive, remove, get?_retain] at hdead ⊢
    cases hrow : t.tenants.rows.get? tenantId with
    | none => rfl
    | some row =>
      rw [hrow] at hdead
      by_cases hswept : tenantId ∈ ids
      · simp [filter_some, hswept]
      · simpa [filter_some, hswept] using hdead
  | _ => exact hclosed.2

end

/-! ## Login methods that stay -/

/-- The call leaves the login methods that are stored as they are. -/
def Call.KeepsIdentities : Call → Prop
  | .authority .deleteTombstonedEmpty | .authority (.deleteIdentitiesForTenant _)
  | .updateSecretHash .. | .unlinkGuarded .. => False
  | _ => True

theorem Change.identity_stays {t t' : Tables} (h : Change c r t t') (hkeeps : c.KeepsIdentities)
    {key : String × String} {row : TenantIdentity} (hrow : t.identities.get? key = some row) :
    t'.identities.get? key = some row := by
  cases h with
  | insertIdentity hnew hexists =>
    rw [get?_insert_of_ne]
    · exact hrow
    · rintro rfl
      rw [hnew] at hrow
      cases hrow
  | sweep | deleteIdentitiesForTenant | updateSecretHash | unlinked => exact hkeeps.elim
  | _ => exact hrow

/-- The calls with which somebody proves who they are: they change no stored login method, and
create, touch or delete no session by its token. -/
def Call.SignsIn : Call → Prop
  | .authority .deleteTombstonedEmpty | .authority (.deleteIdentitiesForTenant _)
  | .updateSecretHash .. | .unlinkGuarded .. | .createSession .. | .touchAndGetTenant ..
  | .deleteSession _ => False
  | _ => True

theorem Call.SignsIn.keepsIdentities (c : Call) (h : c.SignsIn) : c.KeepsIdentities := by
  cases c with
  | authority c =>
    cases c with
    | deleteTombstonedEmpty | deleteIdentitiesForTenant => exact h.elim
    | _ => trivial
  | updateSecretHash | unlinkGuarded => exact h.elim
  | _ => trivial

theorem Call.signsIn_of_resolves (c : Authority.Call) (h : c.Resolves) :
    (Call.authority c).SignsIn := by
  cases c with
  | deleteTombstonedEmpty | deleteIdentitiesForTenant => cases h
  | _ => trivial

/-! ## Which calls an operation issues -/

section

variable {α : Type} {ok : Call → Prop}

theorem all_orInternal {p : Proc (Except Failure α)} (hp : p.All ok) : (orInternal p).run.All ok :=
  hp.bind fun _ => trivial

theorem all_onTenants {p : ExceptT TenantsError Authority.Proc α}
    (hp : p.run.All fun c => ok (.authority c)) : (onTenants p).run.All ok :=
  hp.translate.bind fun _ => trivial

theorem all_burnCode {code : String} {purpose : CodePurpose} (hnow : ok (.authority .utcNow))
    (hconsume : ∀ now, ok (.consumeCode (hashing.hashCode code) purpose now)) :
    (burnCode hashing code purpose).run.All ok := by
  apply exceptBind
  · exact ⟨hnow, fun _ => trivial⟩
  intro now
  apply exceptBind
  · exact ⟨hconsume now, fun _ => trivial⟩
  intro email
  cases email with
  | none | some => trivial

theorem all_createSession {tenantId : String} (hfind : ok (.authority (.findTenant tenantId)))
    (htoken : ok .randomToken) (hnow : ok (.authority .utcNow))
    (hcreate : ∀ tokenHash session, ok (.createSession tokenHash session)) :
    (createSession hashing tenantId).run.All ok := by
  have hopen : (openSession hashing tenantId).run.All ok := by
    apply exceptBind
    · exact ⟨htoken, fun _ => trivial⟩
    intro raw
    apply exceptBind
    · exact ⟨hnow, fun _ => trivial⟩
    intro now
    exact exceptBind ⟨hcreate _ _, fun _ => trivial⟩ fun _ => trivial
  apply exceptBind
  · apply all_onTenants
    exact exceptBind (Authority.all_orInternal ⟨hfind, fun _ => trivial⟩) fun _ => trivial
  intro live
  cases live with
  | true => exact hopen
  | false => trivial

section

variable (hok : ∀ c : Call, c.SignsIn → ok c)

include hok

theorem all_resolveIdentity (config : Config) (id : String) (verified : VerifiedIdentity)
    (secretHash : Option String) : (resolveIdentity config id verified secretHash).run.All ok := by
  have hresolves : ∀ c : Authority.Call, c.Resolves → c.isDeactivation = false →
      ok (.authority c) := fun c h _ => hok _ (Call.signsIn_of_resolves c h)
  exact (Authority.all_resolveIdentity hresolves config id verified secretHash).translate.bind
    fun _ => trivial

theorem all_exchange (providers : List String) (provider code verifier : String) :
    (exchange providers provider code verifier).run.All ok := by
  unfold exchange
  split
  · trivial
  · exact all_orInternal ⟨hok _ trivial, fun _ => trivial⟩

theorem all_linkLoop (tenantId provider subject email : String) (rounds : ℕ) :
    (linkLoop tenantId provider subject email rounds).run.All ok := by
  induction rounds with
  | zero => exact ⟨hok _ trivial, fun never => never.elim⟩
  | succ rounds ih =>
    apply exceptBind
    · exact all_orInternal ⟨hok _ trivial, fun _ => trivial⟩
    intro existing
    cases existing with
    | some existing =>
      dsimp only
      split
      · trivial
      · trivial
    | none =>
      apply exceptBind
      · exact all_orInternal ⟨hok _ trivial, fun _ => trivial⟩
      intro outcome
      cases outcome with
      | created => trivial
      | alreadyExists => exact ih

theorem all_linkIdentity (config : Config) (providers : List String) (rounds : ℕ)
    (provider code verifier tenantId : String) :
    (linkIdentity config providers rounds provider code verifier tenantId).run.All ok := by
  apply exceptBind
  · exact all_exchange hok ..
  intro identity
  split
  · trivial
  apply exceptBind
  · trivial
  intro email
  exact all_linkLoop hok ..

theorem all_upsertPassword (tenantId email hash : String)
    (hupdate : ∀ provider subject secretHash, ok (.updateSecretHash provider subject secretHash)) :
    (upsertPassword tenantId email hash).run.All ok := by
  have hsubmit : ∀ provider subject secretHash,
      (orInternal (ask (.updateSecretHash provider subject secretHash))).run.All ok :=
    fun _ _ _ => all_orInternal ⟨hupdate _ _ _, fun _ => trivial⟩
  apply (hsubmit _ _ _).exceptBind
  intro found
  cases found with
  | true => trivial
  | false =>
    apply exceptBind
    · exact all_orInternal ⟨hok _ trivial, fun _ => trivial⟩
    intro outcome
    cases outcome with
    | created => trivial
    | alreadyExists => exact (hsubmit _ _ _).exceptBind fun _ => trivial

theorem all_deleteSessions (tenantId : String) : (deleteSessions tenantId).run.All ok :=
  exceptBind (all_orInternal ⟨hok _ trivial, fun _ => trivial⟩) fun _ => trivial

theorem all_passwordReset (config : Config) (code newPassword : String)
    (hupdate : ∀ provider subject secretHash, ok (.updateSecretHash provider subject secretHash)) :
    (passwordReset config hashing code newPassword).run.All ok := by
  apply exceptBind
  · trivial
  intro _
  apply exceptBind
  · exact all_burnCode (hok _ trivial) fun _ => hok _ trivial
  intro email
  apply exceptBind
  · exact all_onTenants (Authority.all_findTenantByEmail
      (fun c h _ => hok _ (Call.signsIn_of_resolves c h)) config email)
  intro found
  cases found with
  | none => trivial
  | some tenantId =>
    apply exceptBind
    · exact ⟨hok _ trivial, fun _ => trivial⟩
    intro hash
    exact (all_upsertPassword hok tenantId email hash hupdate).exceptBind fun _ =>
      all_deleteSessions hok tenantId

end

section

variable {after : Option ((c : Call) × c.Resp) → Call → Prop} {last : Option ((c : Call) × c.Resp)}
  (hok : ∀ last c, Call.SignsIn c → after last c)
  (hopen : ∀ tenantId last, (createSession hashing tenantId).run.AllAfter after last)

include hok hopen

theorem after_passwordSignup (config : Config) (id email code password : String) :
    (passwordSignup config hashing id email code password).run.AllAfter after last := by
  refine AllAfter.exceptBind hok trivial fun _ _ => ?_
  refine AllAfter.exceptBind hok (all_burnCode trivial fun _ => trivial) fun codeEmail _ => ?_
  refine AllAfter.exceptBind hok trivial fun email _ => ?_
  split
  · trivial
  refine AllAfter.exceptBind hok (all_orInternal ⟨trivial, fun _ => trivial⟩) fun existing _ => ?_
  split
  · trivial
  refine AllAfter.exceptBind hok ⟨trivial, fun _ => trivial⟩ fun hash _ => ?_
  refine AllAfter.exceptBind hok (all_resolveIdentity (fun _ h => h) ..) ?_
  rintro ⟨tenantId, existed⟩ _
  cases existed with
  | true => trivial
  | false => exact hopen tenantId _

theorem after_oidcCallback (config : Config) (providers : List String)
    (id provider code verifier : String) :
    (oidcCallback config hashing providers id provider code verifier).run.AllAfter after last := by
  refine AllAfter.exceptBind hok (all_exchange (fun _ h => h) ..) fun identity _ => ?_
  refine AllAfter.exceptBind hok (all_resolveIdentity (fun _ h => h) ..) fun out _ => ?_
  exact hopen out.1 _

theorem after_setPasswordAuthenticated (tenantId code newPassword : String)
    (hupdate : ∀ last provider subject hash, after last (.updateSecretHash provider subject hash)) :
    (setPasswordAuthenticated hashing tenantId code newPassword).run.AllAfter after last := by
  refine AllAfter.exceptBind hok trivial fun _ _ => ?_
  refine AllAfter.exceptBind hok (all_orInternal ⟨trivial, fun _ => trivial⟩) fun found _ => ?_
  cases found with
  | none => trivial
  | some tenant =>
    refine AllAfter.exceptBind hok (all_burnCode trivial fun _ => trivial) fun provenEmail _ => ?_
    split
    · trivial
    refine AllAfter.exceptBind hok ⟨trivial, fun _ => trivial⟩ fun hash _ => ?_
    refine AllAfter.exceptBind (fun last _ h => h last) (all_upsertPassword
      (fun c h last => hok last c h) tenantId tenant.email hash fun _ _ _ _ => hupdate _ _ _ _)
        fun _ _ => ?_
    refine AllAfter.exceptBind hok (all_deleteSessions (fun _ h => h) tenantId) fun _ _ => ?_
    exact hopen tenantId _

theorem after_passwordLogin (config : Config) (replica : ℕ) (email password remoteIp : String) :
    (passwordLogin config hashing replica email password remoteIp).run.AllAfter after last := by
  refine AllAfter.exceptBind hok ⟨trivial, fun _ => trivial⟩ fun now _ => ?_
  refine AllAfter.exceptBind hok ⟨trivial, fun _ => trivial⟩ fun allowed _ => ?_
  split
  · trivial
  refine AllAfter.exceptBind hok trivial fun email _ => ?_
  refine AllAfter.exceptBind hok (all_orInternal ⟨trivial, fun _ => trivial⟩) fun found _ => ?_
  cases found with
  | none => trivial
  | some identity =>
    dsimp only
    split
    · exact hopen identity.tenantId _
    · trivial

end

end

def Db.tenantOf (config : Config) (s : Db) (email : String) : Option String := do
  let email ← (Authority.normalizeEmail config email).toOption
  (s.tenants.findByEmail email).map Prod.fst

/-- `find_tenant_by_email` refuses an email that is none, and else asks for its live tenant. -/
theorem run_findTenantByEmail (config : Config) (email : String) :
    (∃ e, (onTenants (Authority.findTenantByEmail config email)).run = .ret (.error e)) ∨
    ∃ normal, (∀ s : Db, s.tenantOf config email = (s.tenants.findByEmail normal).map Prod.fst) ∧
      (onTenants (Authority.findTenantByEmail config email)).run =
        (ask (.authority (.findTenantByEmail normal))).bind fun r =>
          .ret (r.mapError fun _ => IdentitiesError.internal) := by
  unfold Authority.findTenantByEmail Db.tenantOf
  cases Authority.normalizeEmail config email with
  | error e => exact .inl ⟨_, rfl⟩
  | ok normal =>
    refine .inr ⟨normal, fun _ => rfl, congrArg (call _) (funext fun r => ?_)⟩
    cases r with
    | ok | error => rfl

theorem run_tenantIsLive (tenantId : String) : (onTenants (tenantIsLive tenantId)).run =
      (ask (.authority (.findTenant tenantId))).bind fun r =>
        .ret ((r.mapError fun _ => IdentitiesError.internal).map
          fun tenant => tenant.any (·.deregisteredAt = none)) := by
  refine congrArg (call _) (funext fun r => ?_)
  cases r with
  | ok | error => rfl

end Wardnet.Identities
