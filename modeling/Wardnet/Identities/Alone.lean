/-
# Operations that run alone

What the operations of the identity service return and leave behind when nothing is
interleaved and no call fails. Each is given by an equivalence, so that the cases in which an
operation succeeds and those in which it is refused come out of the same computation.
-/

import Wardnet.Authority.Effects
import Wardnet.Identities.World

namespace Wardnet.Identities

open Base Tenants Prog TenantTable
open Authority (Database Config TenantsError Failure normalizeEmail)
open Enrollment (CodePurpose CodeRow)

/-- The readings that the clock may give while an operation runs. -/
structure Clock where
  reads : Int → Prop
  nonempty : ∃ now, reads now

def Clock.any : Clock := ⟨fun _ => True, 0, trivial⟩

def Db.Succeeds (hashing : Hashing) (clock : Clock) (c : Call) (s : Db) (r : c.Resp) (s' : Db) :
    Prop :=
  ∃ choice, clock.reads choice.now ∧ Db.perform hashing choice c s = some (r, s')

def Clock.Succeeds (clock : Clock) (c : Authority.Call) (s : Database) (r : c.Resp)
    (s' : Database) : Prop :=
  ∃ choice, clock.reads choice.now ∧ Database.perform choice c s = some (r, s')

/-- There is a token left whose hash was neither drawn before nor is stored. -/
def Db.CanDraw (hashing : Hashing) (s : Db) : Prop :=
  ∃ raw, s.freshHash (hashing.hashToken raw) = true

def Db.opened (hashing : Hashing) (s : Db) (raw tenantId : String) (now : Int) : Db :=
  { s with
    drawn := hashing.hashToken raw :: s.drawn
    sessions := s.sessions.insert (hashing.hashToken raw) ⟨tenantId, now + sessionTtlSecs, now⟩ }

section

variable {step : (c : Call) → Db → c.Resp → Db → Prop} {s : Db} {α : Type}
  {Q : Except IdentitiesError α → Db → Prop}

theorem total_orInternal {p : Proc (Except Failure α)} : (orInternal p).run.Total step Q s ↔
      p.Total step (fun r t => Q (r.mapError fun _ => .internal) t) s :=
  total_bind

theorem total_liftM {p : Proc α} :
    (liftM p : Service α).run.Total step Q s ↔ p.Total step (fun value t => Q (.ok value) t) s :=
  total_bind

theorem total_const {result : Except IdentitiesError α} :
    (ExceptT.mk (.ret result) : Service α).run.Total step Q s ↔ Q result s := Iff.rfl

end

variable {hashing : Hashing} {clock : Clock} {s : Db} {α : Type}

/-- A procedure of the other services acts on the database alone. -/
theorem total_delegate {p : Authority.Proc α} {Q : α → Db → Prop} :
    (delegate p).Total (Db.Succeeds hashing clock) Q s ↔
      p.Total clock.Succeeds (fun value d => Q value { s with toDatabase := d }) s.toDatabase := by
  have hstep : ∀ (c : Authority.Call) (s : Db) r s',
    Db.Succeeds hashing clock (.authority c) s r s' ↔
      ∃ d, clock.Succeeds c s.toDatabase r d ∧ s' = { s with toDatabase := d } := by
    intro c s r s'
    constructor
    · rintro ⟨choice, hnow, hperform⟩
      obtain ⟨⟨r', d⟩, hd, hout⟩ := Option.map_eq_some_iff.mp hperform
      cases hout
      exact ⟨d, ⟨choice.toChoice, hnow, hd⟩, rfl⟩
    · rintro ⟨d, ⟨choice, hnow, hd⟩, rfl⟩
      exact ⟨⟨choice, "", ⟨"", "", "", false⟩⟩, hnow, by simp [Db.perform, hd]⟩
  induction p generalizing s with
  | ret value => exact Iff.rfl
  | call c next ih =>
    constructor
    · rintro ⟨⟨r, _, hr⟩, hnext⟩
      obtain ⟨d, hd, rfl⟩ := (hstep c s r _).mp hr
      refine ⟨⟨r, d, hd⟩, fun r' d' hr' => ?_⟩
      exact (ih r').mp (hnext r' _ ((hstep c s r' _).mpr ⟨d', hr', rfl⟩))
    · rintro ⟨⟨r, d, hd⟩, hnext⟩
      refine ⟨⟨r, _, (hstep c s r _).mpr ⟨d, hd, rfl⟩⟩, fun r' t hr' => ?_⟩
      obtain ⟨d', hd', rfl⟩ := (hstep c s r' t).mp hr'
      exact (ih r').mpr (hnext r' d' hd')

theorem total_onTenants {p : ExceptT TenantsError Authority.Proc α}
    {Q : Except IdentitiesError α → Db → Prop} :
    (onTenants p).run.Total (Db.Succeeds hashing clock) Q s ↔ p.run.Total clock.Succeeds
        (fun r d => Q (r.mapError .ofTenants) { s with toDatabase := d }) s.toDatabase :=
  total_bind.trans total_delegate

/-! ## Single calls -/

section

theorem total_ask {c : Call} {Q : c.Resp → Db → Prop} {r : c.Resp} {t : Db}
    (hperform : ∀ choice, Db.perform hashing choice c s = some (r, t)) :
    (ask c).Total (Db.Succeeds hashing clock) Q s ↔ Q r t := by
  refine total_call fun r' t' => ?_
  constructor
  · rintro ⟨choice, -, h⟩
    rw [hperform] at h
    cases h
    exact ⟨rfl, rfl⟩
  · rintro ⟨rfl, rfl⟩
    obtain ⟨now, hnow⟩ := clock.nonempty
    exact ⟨⟨⟨now, false, "", []⟩, "", ⟨"", "", "", false⟩⟩, hnow, hperform _⟩

theorem total_issue {c : Authority.Call} {Q : c.Resp → Database → Prop} {r : c.Resp}
    {d d' : Database} (hperform : ∀ choice, Database.perform choice c d = some (r, d')) :
    (Authority.issue c).Total clock.Succeeds Q d ↔ Q r d' := by
  refine total_call fun r' t' => ?_
  constructor
  · rintro ⟨choice, -, h⟩
    rw [hperform] at h
    cases h
    exact ⟨rfl, rfl⟩
  · rintro ⟨rfl, rfl⟩
    obtain ⟨now, hnow⟩ := clock.nonempty
    exact ⟨⟨now, false, "", []⟩, hnow, hperform _⟩

theorem total_utcNow {Q : Int → Db → Prop} :
    utcNow.Total (Db.Succeeds hashing clock) Q s ↔ ∀ now, clock.reads now → Q now s := by
  constructor
  · intro h now hnow
    exact h.2 now s ⟨⟨⟨now, false, "", []⟩, "", ⟨"", "", "", false⟩⟩, hnow, rfl⟩
  · intro h
    obtain ⟨now, hnow⟩ := clock.nonempty
    refine ⟨⟨now, s, ⟨⟨⟨now, false, "", []⟩, "", ⟨"", "", "", false⟩⟩, hnow, rfl⟩⟩, ?_⟩
    rintro now' t ⟨choice, hnow', hperform⟩
    cases hperform
    exact h _ hnow'

theorem total_randomToken {Q : String → Db → Prop} (hdraw : s.CanDraw hashing) :
    (ask .randomToken).Total (Db.Succeeds hashing clock) Q s ↔
      ∀ raw, s.freshHash (hashing.hashToken raw) = true →
        Q raw { s with drawn := hashing.hashToken raw :: s.drawn } := by
  have hstep : ∀ raw t, Db.Succeeds hashing clock .randomToken s raw t ↔
      s.freshHash (hashing.hashToken raw) = true ∧
        t = { s with drawn := hashing.hashToken raw :: s.drawn } := by
    intro raw t
    constructor
    · rintro ⟨choice, -, hperform⟩
      simp only [Db.perform] at hperform
      split at hperform
      · rename_i hfresh
        cases hperform
        exact ⟨hfresh, rfl⟩
      · cases hperform
    · rintro ⟨hfresh, rfl⟩
      obtain ⟨now, hnow⟩ := clock.nonempty
      exact ⟨⟨⟨now, false, "", []⟩, raw, ⟨"", "", "", false⟩⟩, hnow, by simp [Db.perform, hfresh]⟩
  constructor
  · intro h raw hfresh
    exact h.2 raw _ ((hstep raw _).mpr ⟨hfresh, rfl⟩)
  · intro h
    obtain ⟨raw, hfresh⟩ := hdraw
    refine ⟨⟨raw, _, (hstep raw _).mpr ⟨hfresh, rfl⟩⟩, fun raw' t hraw' => ?_⟩
    obtain ⟨hfresh', rfl⟩ := (hstep raw' t).mp hraw'
    exact h raw' hfresh'

end

/-! ## Sessions and logins -/

section

variable {tenantId : String} {Q : Except IdentitiesError String → Db → Prop}

theorem total_tenantIsLive {d : Database} {Q : Except TenantsError Bool → Database → Prop} :
    (tenantIsLive tenantId).run.Total clock.Succeeds Q d ↔
      Q (.ok (d.tenants.isLive tenantId)) d := by
  refine total_bind.trans (total_bind.trans ?_)
  exact total_issue (c := .findTenant tenantId) (r := Except.ok (d.tenants.findById tenantId))
    fun _ => rfl

/-- A session is opened for a live tenant, and refused to all others. -/
theorem total_createSession (hdraw : s.CanDraw hashing) :
    (createSession hashing tenantId).run.Total (Db.Succeeds hashing clock) Q s ↔
      if s.tenants.isLive tenantId = true then
        ∀ raw now, s.freshHash (hashing.hashToken raw) = true → clock.reads now →
          Q (.ok raw) (s.opened hashing raw tenantId now)
      else Q (.error (.unauthorized "account is closed")) s := by
  unfold createSession
  rw [total_exceptBind, total_onTenants, total_tenantIsLive]
  cases hlive : s.tenants.isLive tenantId with
  | false => exact Iff.rfl
  | true =>
    have hexists : s.tenantExists tenantId = true := isSome_findById_of_isLive hlive
    have hcreated : ∀ raw, s.freshHash (hashing.hashToken raw) = true → ∀ (now : Int) choice,
        Db.perform hashing choice
          (.createSession (hashing.hashToken raw) ⟨tenantId, now + sessionTtlSecs, now⟩)
          { s with drawn := hashing.hashToken raw :: s.drawn } =
        some (.ok (), s.opened hashing raw tenantId now) := by
      intro raw hfresh now choice
      have hunused : s.sessions.contains (hashing.hashToken raw) = false :=
        (of_decide_eq_true hfresh).2
      simp only [Db.perform, hunused]
      rw [if_neg (by simpa [Database.tenantExists, Option.isSome_iff_ne_none] using hexists)]
      rfl
    simp only [Except.mapError, total_bindCont_ok, Bool.not_true, Bool.false_eq_true,
      if_false, if_true, openSession, total_exceptBind, total_liftM, total_randomToken hdraw,
      total_utcNow, total_orInternal]
    refine forall_congr' fun raw => ?_
    constructor
    · intro h now hfresh hnow
      exact (total_ask (hcreated raw hfresh now)).mp (h hfresh now hnow)
    · intro h hfresh now hnow
      exact (total_ask (hcreated raw hfresh now)).mpr (h now hfresh hnow)

/-- The session that an operation has returned is stored for the tenant. -/
def Opens (hashing : Hashing) (tenantId : String) (result : Except IdentitiesError String)
    (s : Db) : Prop :=
  ∃ raw row, result = .ok raw ∧ s.sessions.get? (hashing.hashToken raw) = some row ∧
    row.tenantId = tenantId

theorem opens_opened (s : Db) (raw tenantId : String) (now : Int) :
    Opens hashing tenantId (.ok raw) (s.opened hashing raw tenantId now) :=
  ⟨raw, _, rfl, Store.get?_insert_self .., rfl⟩

def Throttled (result : Except IdentitiesError String) : Prop :=
  result = .error (.rateLimited "too many login attempts; try again later")

/-- A login with the password of a live tenant opens a session, unless it is throttled. -/
theorem total_passwordLogin {config : Config} {replica : ℕ} {email given password remoteIp : String}
    {identity : TenantIdentity} (hgiven : normalizeEmail config given = .ok email)
    (hrow : s.identities.get? (providerPassword, email) = some identity)
    (hverify : identity.secretHash.any (hashing.verifyPassword · password) = true)
    (hlive : s.tenants.isLive identity.tenantId = true) (hdraw : s.CanDraw hashing) :
    (passwordLogin config hashing replica given password remoteIp).run.Total
      (Db.Succeeds hashing clock)
      (fun result s' => ¬ Throttled result → Opens hashing identity.tenantId result s') s := by
  unfold passwordLogin
  simp only [total_exceptBind, total_liftM, total_utcNow, total_bindCont_ok]
  intro now _
  refine (total_ask fun _ => rfl).mpr ?_
  cases hallowed : ((s.attempts replica).allowed remoteIp now).1 with
  | false => exact fun h => absurd rfl h
  | true =>
    have hnormal : normalized config given = .ok email := by
      rw [normalized, hgiven]
      rfl
    simp only [total_bindCont_ok, Bool.not_true, Bool.false_eq_true, if_false, total_const,
      total_exceptBind, hnormal, findIdentity, total_orInternal]
    refine (total_ask fun _ => rfl).mpr ?_
    simp only [hrow, Except.mapError, total_bindCont_ok, hverify, if_true]
    refine (total_createSession ?_).mpr ?_
    · exact hdraw
    rw [if_pos hlive]
    intro raw now' _ _ _
    exact opens_opened _ _ _ _

/-! ## Signups -/

section

open Authority (findTenantByEmail registerTenant publish orTenantsError)

variable {step : (c : Authority.Call) → Database → c.Resp → Database → Prop} {config : Config}
  {d : Database} {id email : String}

section

variable (hemail : normalizeEmail config email = .ok email)
include hemail

end

end

def Db.burned (s : Db) (hash : String) (row : CodeRow) (now : Int) : Db :=
  { s with codes := s.codes.insert hash { row with usedAt := some now } }

section

variable {config : Config} {row : CodeRow} {id given code password : String}

end

end

end Wardnet.Identities
