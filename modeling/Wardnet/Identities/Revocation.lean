/-
# Sessions of an old password

A reset stores the hash of the new password and then deletes the sessions of the tenant. A login
reads the hash, checks the password and stores a session, in three calls. A login that has read
the old hash and stores its session after the reset has deleted the sessions leaves a session of
the old password behind. Where no login is under way with another hash when the sessions are
deleted, all sessions of the tenant that are left were opened with the new one.
-/

import Wardnet.Identities.Effects

namespace Wardnet.Identities

open Base Base.World Tenants Outline List Option Tables Wp
open Authority (Config Failure TenantsError normalizeEmail)

variable {setup : Setup} {email tenantId : String}

/-! ## What the calls of a task tell -/

/-- The lookup of the password of an email, and the login method it has found. -/
def passwordFound (setup : Setup) (email : String) (row : TenantIdentity) : (plane setup).Event :=
  ⟨.authority (.findIdentity providerPassword email), .ok (some row)⟩

/-- A call that has stored the hash of a password for an email. -/
inductive Stores (setup : Setup) (email hash : String) : (plane setup).Event → Prop
  | updated : Stores setup email hash ⟨.updateSecretHash providerPassword email hash, .ok true⟩
  | inserted (tenantId : String) : Stores setup email hash
      ⟨.authority (.insertIdentity providerPassword email ⟨tenantId, some hash, email⟩),
        .ok .created⟩

inductive Creates (setup : Setup) (tokenHash : String) : (plane setup).Event → Prop
  | created (session : Session) : Creates setup tokenHash ⟨.createSession tokenHash session, .ok ()⟩

def Task.LogsIn (config : Config) (email : String) : Task → Prop
  | .passwordLogin _ given _ _ => normalizeEmail config given = .ok email
  | _ => False

def Call.resets : Call → Bool
  | .consumeCode .. | .updateSecretHash .. | .authority (.insertIdentity ..)
  | .authority (.deleteSessionsForTenant _) => true
  | _ => false

/-- The calls that leave login methods and sessions alone. -/
def Call.inert : Call → Bool
  | .authority .utcNow | .authority (.findTenant _) | .authority (.findTenantByEmail _)
  | .authority (.findIdentity ..) | .loginAllowed .. | .newSalt | .randomToken
  | .consumeCode .. => true
  | _ => false

theorem Change.of_inert {c : Call} {r : c.Resp} {t t' : Tables} (h : Change c r t t')
    (hinert : c.inert = true) : t' = t := by
  cases h with
  | quiet | findTenant | findTenantByEmail | findIdentity => rfl
  | _ => cases hinert

/-! ## The outline -/

inductive Stage
  | other
  /-- A login has found its password to be right. -/
  | holding (row : TenantIdentity)
  | opened (row : TenantIdentity) (tokenHash : String)
  /-- The reset has found no login method. -/
  | absent
  | written (hash : String)
  /-- The reset has deleted the sessions. -/
  | revoked (hash : String)

def Stage.ofReset : Stage → Bool
  | .absent | .written _ | .revoked _ => true
  | .other | .holding _ | .opened .. => false

def Db.StoresHash (s : Db) (email hash : String) : Prop :=
  ∃ row, s.identities.get? (providerPassword, email) = some row ∧ row.secretHash = some hash

def Stage.row : Stage → Option TenantIdentity
  | .holding row | .opened row _ => some row
  | .other | .absent | .written _ | .revoked _ => none

def Stage.hash : Stage → Option String
  | .written hash | .revoked hash => some hash
  | .other | .holding _ | .opened .. | .absent => none

def Stage.isHolding : Stage → Bool
  | .holding _ => true
  | _ => false

/-- Once the sessions of the tenant are deleted, those that are there were opened with the stored
hash, and so are those to come. The tenant is the live one of the email. -/
structure Revoking (config : Config) (email tenantId : String) (s : Db) (stages : Set Stage) :
    Prop where
  tenant : s.tenantOf config email = some tenantId
  absent : .absent ∈ stages → s.identities.get? (providerPassword, email) = none
  stored : ∀ {stage hash}, stage ∈ stages → stage.hash = some hash → s.StoresHash email hash
  holding : ∀ {hash row}, .revoked hash ∈ stages → .holding row ∈ stages →
    row.secretHash = some hash
  sessions : ∀ {hash tokenHash session}, .revoked hash ∈ stages →
    s.sessions.get? tokenHash = some session → session.tenantId = tenantId →
    ∃ row, .opened row tokenHash ∈ stages ∧ row.secretHash = some hash

/-- What the calls of task number `j` have to do with its stage. Task number `i` is the reset. -/
structure Fits (setup : Setup) (email : String) (i j : ℕ) (stage : Stage)
    (log : List (plane setup).Event) : Prop where
  reset : stage.ofReset = true → j = i
  found : ∀ row, stage.row = some row → passwordFound setup email row ∈ log
  created : ∀ row tokenHash, stage = .opened row tokenHash → ∃ e ∈ log, Creates setup tokenHash e
  stored : ∀ hash, stage.hash = some hash → ∃ e ∈ log, Stores setup email hash e

def revoking (setup : Setup) (email tenantId : String) (i : ℕ) : Outline (plane setup) Stage where
  Inv := Revoking setup.config email tenantId
  Sees j stage _ log pending := Fits setup email i j stage log ∧
    (stage.isHolding = true → pending ≠ none) ∧ ∀ c ∈ pending, Call.resets c = true → j = i
  Permits s _ rest c _ :=
    (Call.resets c = true → ∀ stage ∈ rest, stage.ofReset = false) ∧
    (∀ hash purpose now, c = .consumeCode hash purpose now →
      ∀ row, s.codes.get? hash = some row → row.email = email) ∧
    (∀ tenantId, c = .authority (.deleteSessionsForTenant tenantId) → ∀ row, .holding row ∈ rest →
      (s.identities.get? (providerPassword, email)).bind (·.secretHash) = row.secretHash)

section

variable {i j : ℕ} {stage : Stage} {log : List (plane setup).Event}

theorem Fits.start : Fits setup email i j .other [] where
  reset h := by cases h
  found _ h := by cases h
  created _ _ h := by cases h
  stored _ h := by cases h

theorem Fits.append (h : Fits setup email i j stage log) (e : (plane setup).Event) :
    Fits setup email i j stage (log ++ [e]) where
  reset := h.reset
  found row hrow := mem_append_left _ (h.found row hrow)
  created row tokenHash hstage := by
    obtain ⟨e', he', hcreates⟩ := h.created row tokenHash hstage
    exact ⟨e', mem_append_left _ he', hcreates⟩
  stored hash hhash := by
    obtain ⟨e', he', hstores⟩ := h.stored hash hhash
    exact ⟨e', mem_append_left _ he', hstores⟩

/-- A task can always be said to have come nowhere. -/
theorem Fits.other : Fits setup email i j .other log where
  reset hreset := by cases hreset
  found _ hrow := by cases hrow
  created _ _ hopened := by cases hopened
  stored _ hhash := by cases hhash

theorem Fits.holds {row : TenantIdentity} :
    Fits setup email i j (.holding row) (log ++ [passwordFound setup email row]) where
  reset hreset := by cases hreset
  found row' hrow := by
    cases hrow
    exact mem_append_right _ (mem_singleton_self _)
  created _ _ hopened := by cases hopened
  stored _ hhash := by cases hhash

theorem Fits.opens {row : TenantIdentity} {tokenHash : String} {e : (plane setup).Event}
    (h : Fits setup email i j (.holding row) (log ++ [e])) (he : Creates setup tokenHash e) :
    Fits setup email i j (.opened row tokenHash) (log ++ [e]) where
  reset hreset := by cases hreset
  found := h.found
  created _ _ hopened := by
    cases hopened
    exact ⟨e, mem_append_right _ (mem_singleton_self _), he⟩
  stored _ hhash := by cases hhash

/-- The reset comes to a stage of its own. -/
theorem Fits.advance (hrow : stage.row = none)
    (hstored : ∀ hash, stage.hash = some hash → ∃ e ∈ log, Stores setup email hash e) :
    Fits setup email i i stage log where
  reset _ := rfl
  found row hrow' := by
    rw [hrow] at hrow'
    cases hrow'
  created row tokenHash hopened := by
    rw [hopened] at hrow
    cases hrow
  stored := hstored

end

/-! ## Moves of the invariant -/

section

variable {config : Config} {s s' : Db} {rest : Set Stage}

theorem tenantOf_congr (h : s'.tenants = s.tenants) :
    s'.tenantOf config email = s.tenantOf config email := by
  rw [Db.tenantOf, Db.tenantOf, h]

theorem Revoking.same {stages : Set Stage} (h : Revoking config email tenantId s stages)
    (htables : s'.tables = s.tables) : Revoking config email tenantId s' stages := by
  have hidentities : s'.identities = s.identities := congrArg identities htables
  have hsessions : s'.sessions = s.sessions := congrArg Tables.sessions htables
  refine ⟨?_, fun habsent => ?_, fun hstage hhash => ?_, h.holding, fun hrevoked hsession => ?_⟩
  · rw [tenantOf_congr (congrArg tenants htables)]
    exact h.tenant
  · rw [hidentities]
    exact h.absent habsent
  · unfold Db.StoresHash
    rw [hidentities]
    exact h.stored hstage hhash
  · rw [hsessions] at hsession
    exact h.sessions hrevoked hsession

theorem Revoking.join {stages : Set Stage} (h : Revoking config email tenantId s stages) :
    Revoking config email tenantId s (insert .other stages) where
  tenant := h.tenant
  absent habsent := h.absent (habsent.resolve_left fun heq => by cases heq)
  stored hstage hhash := by
    rcases hstage with rfl | hmem
    · cases hhash
    · exact h.stored hmem hhash
  holding hrevoked hholding := h.holding (hrevoked.resolve_left fun heq => by cases heq)
    (hholding.resolve_left fun heq => by cases heq)
  sessions hrevoked hsession htenant := by
    obtain ⟨row, hopened, hhash⟩ :=
      h.sessions (hrevoked.resolve_left fun heq => by cases heq) hsession htenant
    exact ⟨row, Set.mem_insert_of_mem _ hopened, hhash⟩

/-- A login moves on: it may take up the hash that is stored, and open a session with the hash
that it holds. -/
theorem Revoking.move {stage stage' : Stage}
    (h : Revoking config email tenantId s (insert stage rest))
    (htenants : s'.tenants = s.tenants) (hidentities : s'.identities = s.identities)
    (hlogin : stage'.ofReset = false)
    (hopened : ∀ row tokenHash, stage ≠ .opened row tokenHash)
    (hholds : ∀ row, stage' = .holding row → s.identities.get? (providerPassword, email) = some row)
    (hsessions : ∀ tokenHash session, s'.sessions.get? tokenHash = some session →
      s.sessions.get? tokenHash = some session ∨
        ∃ row, stage = .holding row ∧ stage' = .opened row tokenHash) :
    Revoking config email tenantId s' (insert stage' rest) := by
  -- What is said of the reset was said of it before.
  have hreset : ∀ {x : Stage}, x ∈ insert stage' rest → x.ofReset = true →
      x ∈ insert stage rest := by
    rintro x (rfl | hmem) hx
    · rw [hlogin] at hx
      cases hx
    · exact Set.mem_insert_of_mem _ hmem
  refine ⟨?_, fun habsent => ?_, fun {x hash} hx hhash => ?_, fun {hash row} hrevoked hrow => ?_,
    fun {hash tokenHash session} hrevoked hsession htenant => ?_⟩
  · rw [tenantOf_congr htenants]
    exact h.tenant
  · rw [hidentities]
    exact h.absent (hreset habsent rfl)
  · unfold Db.StoresHash
    rw [hidentities]
    refine h.stored (hreset hx ?_) hhash
    cases x with
    | written | revoked => rfl
    | _ => cases hhash
  · rcases hrow with heq | hmem
    · obtain ⟨row', hrow', hhash⟩ := h.stored (hreset hrevoked rfl) rfl
      cases (hholds row heq.symm).symm.trans hrow'
      exact hhash
    · exact h.holding (hreset hrevoked rfl) (Set.mem_insert_of_mem _ hmem)
  · rcases hsessions tokenHash session hsession with hold | ⟨row, rfl, rfl⟩
    · obtain ⟨row, hrow, hhash⟩ := h.sessions (hreset hrevoked rfl) hold htenant
      rcases hrow with heq | hmem
      · exact absurd heq.symm (hopened _ _)
      · exact ⟨row, Set.mem_insert_of_mem _ hmem, hhash⟩
    · exact ⟨row, Set.mem_insert _ _, h.holding (hreset hrevoked rfl) (Set.mem_insert _ _)⟩

/-- A task may be said to have come nowhere, unless it has opened a session. -/
theorem Revoking.forget {stage : Stage} (h : Revoking config email tenantId s (insert stage rest))
    (hopened : ∀ row tokenHash, stage ≠ .opened row tokenHash) :
    Revoking config email tenantId s (insert .other rest) :=
  h.move rfl rfl rfl hopened nofun fun _ _ hsession => .inl hsession

theorem Revoking.advance {stage : Stage} (htenant : s.tenantOf config email = some tenantId)
    (hrest : ∀ x ∈ rest, Stage.ofReset x = false)
    (habsent : stage = .absent → s.identities.get? (providerPassword, email) = none)
    (hstored : ∀ hash, stage.hash = some hash → s.StoresHash email hash)
    (hrevoked : ∀ hash, stage = .revoked hash →
      (∀ row, .holding row ∈ rest → row.secretHash = some hash) ∧
        ∀ tokenHash session, s.sessions.get? tokenHash = some session → session.tenantId ≠ tenantId)
    (hreset : stage.ofReset = true) : Revoking config email tenantId s (insert stage rest) := by
  have hmine : ∀ {x : Stage}, x ∈ insert stage rest → x.ofReset = true → x = stage := by
    rintro x (rfl | hmem) hx
    · rfl
    · rw [hrest x hmem] at hx
      cases hx
  refine ⟨htenant, fun hx => habsent (hmine hx rfl).symm, fun {x hash} hx hhash => ?_,
    fun {hash row} hx hrow => ?_, fun {hash tokenHash session} hx hsession howner => ?_⟩
  · have hofReset : x.ofReset = true := by
      cases x with
      | written | revoked => rfl
      | _ => cases hhash
    rw [hmine hx hofReset] at hhash
    exact hstored hash hhash
  · rcases hrow with heq | hmem
    · rw [← heq] at hreset
      cases hreset
    · exact (hrevoked hash (hmine hx rfl).symm).1 row hmem
  · exact absurd howner ((hrevoked hash (hmine hx rfl).symm).2 tokenHash session hsession)

end

/-! ## Logins -/

section

variable {i j : ℕ} {task : Task} {stage : Stage} {log : List (plane setup).Event} {α : Type}

theorem wp_inert {c : Call} {Q : Stage → List (plane setup).Event → c.Resp → Prop}
    (hinert : c.inert = true) (hresets : c.resets = false)
    (h : Fits setup email i j stage log)
    (hQ : ∀ r, Fits setup email i j stage (log ++ [⟨c, r⟩]) → Q stage (log ++ [⟨c, r⟩]) r) :
    (revoking setup email tenantId i).Wp j task Q stage log (ask c) := by
  refine ⟨⟨h, fun _ => some_ne_none c, ?_⟩, fun s rest choice r s' hinv _ hexec => ?_⟩
  · rintro _ ⟨⟩ hreset
    rw [hresets] at hreset
    cases hreset
  · have htables := (exec_change hexec).of_inert hinert
    exact ⟨stage, Revoking.same hinv htables, hQ r (h.append _)⟩

def Rests (setup : Setup) (email : String) (i j : ℕ) (stage : Stage)
    (log : List (plane setup).Event) : Prop :=
  Fits setup email i j stage log ∧ stage.isHolding = false

theorem wp_tenantIsLive {row : TenantIdentity}
    {Q : Stage → List (plane setup).Event → Except IdentitiesError Bool → Prop}
    (h : Fits setup email i j (.holding row) log)
    (hlive : ∀ log', Fits setup email i j (.holding row) log' → Q (.holding row) log' (.ok true))
    (hother : ∀ log' out, out ≠ .ok true → Q .other log' out) :
    (revoking setup email tenantId i).Wp j task Q (.holding row) log
      (onTenants (tenantIsLive row.tenantId)).run := by
  rw [run_tenantIsLive]
  refine ⟨⟨h, fun _ => some_ne_none _, ?_⟩, fun s rest choice r s' hinv _ hexec => ?_⟩
  · rintro _ ⟨⟩ hreset
    cases hreset
  have hinv' := Revoking.same hinv ((exec_change hexec).of_inert rfl)
  have h' := h.append ⟨.authority (.findTenant row.tenantId), r⟩
  by_cases hanswer : ((r.mapError fun _ => IdentitiesError.internal).map
      fun tenant => tenant.any (·.deregisteredAt = none)) = .ok true
  · refine ⟨.holding row, hinv', ?_⟩
    change Q _ _ _
    rw [hanswer]
    exact hlive _ h'
  · refine ⟨.other, hinv'.forget fun _ _ heq => ?_, hother _ _ hanswer⟩
    cases heq

/-- A login that holds the stored hash opens its session, or gives up. -/
theorem wp_createSession {row : TenantIdentity} (h : Fits setup email i j (.holding row) log) :
    (revoking setup email tenantId i).Wp j task (fun stage log _ => Rests setup email i j stage log)
      (.holding row) log (createSession setup.hashing row.tenantId).run := by
  apply exceptBind
  apply wp_tenantIsLive h
  · intro log h
    apply exceptLift
    refine wp_inert rfl rfl h fun raw h => ?_
    apply exceptLift
    refine wp_inert rfl rfl h fun now h => ?_
    refine ⟨⟨h, fun _ => some_ne_none _, ?_⟩, fun s rest choice r s' hinv _ hexec => ?_⟩
    · rintro _ ⟨⟩ hreset
      cases hreset
    have h' := h.append
      ⟨.createSession (setup.hashing.hashToken raw) ⟨row.tenantId, now + sessionTtlSecs, now⟩, r⟩
    cases r with
    | error e =>
      have hinv' := Revoking.same hinv ((exec_change hexec).of_quiet rfl)
      exact ⟨.other, hinv'.forget fun _ _ heq => (by cases heq), .other, rfl⟩
    | ok =>
      obtain ⟨-, htables⟩ := (exec_change hexec).of_createSession
      refine ⟨.opened row (setup.hashing.hashToken raw), ?_, h'.opens (.created _), rfl⟩
      refine Revoking.move hinv (congrArg tenants htables) (congrArg identities htables) rfl nofun
        nofun fun tokenHash session hsession => ?_
      have hsessions : s'.sessions = s.sessions.insert (setup.hashing.hashToken raw)
          ⟨row.tenantId, now + sessionTtlSecs, now⟩ := congrArg sessions htables
      rw [hsessions] at hsession
      rcases Store.get?_of_insert hsession with ⟨rfl, -⟩ | ⟨-, hsession⟩
      · exact .inr ⟨row, rfl, rfl⟩
      · exact .inl hsession
  · intro log out hout
    cases out with
    | error e => exact ⟨.other, rfl⟩
    | ok live =>
      cases live with
      | true => exact absurd rfl hout
      | false => exact ⟨.other, rfl⟩

/-- A login opens its session only after it has found its password to be right. -/
theorem wp_passwordLogin {replica : ℕ} {given password remoteIp : String}
    (hgiven : normalizeEmail setup.config given = .ok email) :
    (revoking setup email tenantId i).Wp j task (fun stage log _ => Rests setup email i j stage log)
      .other [] (passwordLogin setup.config setup.hashing replica given password remoteIp).run := by
  have hnormal : normalized setup.config given = .ok email := by
    rw [normalized, hgiven]
    rfl
  apply exceptLift
  refine wp_inert rfl rfl Fits.start fun now h => ?_
  apply exceptLift
  refine wp_inert rfl rfl h fun allowed h => ?_
  cases allowed with
  | false => exact ⟨h, rfl⟩
  | true =>
    rw [hnormal]
    refine ⟨⟨h, fun _ => some_ne_none _, ?_⟩, fun s rest choice r s' hinv _ hexec => ?_⟩
    · rintro _ ⟨⟩ hreset
      cases hreset
    have htables := (exec_change hexec).of_inert rfl
    have hinv' := Revoking.same hinv htables
    cases r with
    | error e => exact ⟨.other, hinv', .other, rfl⟩
    | ok identity =>
      cases identity with
      | none => exact ⟨.other, hinv', .other, rfl⟩
      | some row =>
        by_cases hverify : row.secretHash.any (setup.hashing.verifyPassword · password) = true
        · obtain ⟨hrow, -⟩ := (exec_change hexec).of_findIdentity
          refine ⟨.holding row, ?_, ?_⟩
          · refine hinv'.move rfl rfl rfl nofun (fun _ heq => ?_) fun _ _ hsession => .inl hsession
            cases heq
            exact (congrArg (Store.get? · _) (congrArg identities htables)).trans hrow.symm
          · change (revoking setup email tenantId i).Wp j task _ (.holding row) _ (if
              row.secretHash.any (setup.hashing.verifyPassword · password) = true then
              createSession setup.hashing row.tenantId else
              throw (.unauthorized "invalid email or password")).run
            rw [if_pos hverify]
            exact wp_createSession .holds
        · refine ⟨.other, hinv', ?_⟩
          change (revoking setup email tenantId i).Wp j task _ .other _ (if
            row.secretHash.any (setup.hashing.verifyPassword · password) = true then
            createSession setup.hashing row.tenantId else
            throw (.unauthorized "invalid email or password")).run
          rw [if_neg hverify]
          exact ⟨.other, rfl⟩

end

/-! ## The reset -/

section

variable {i : ℕ} {task : Task} {log : List (plane setup).Event} {α : Type}

theorem wp_burnCode {code : String} {purpose : Enrollment.CodePurpose}
    {Q : Stage → List (plane setup).Event → Except IdentitiesError String → Prop}
    (hok : ∀ log', Q .other log' (.ok email)) (herror : ∀ log' e, Q .other log' (.error e)) :
    (revoking setup email tenantId i).Wp i task Q .other log
      (burnCode setup.hashing code purpose).run := by
  apply exceptLift
  refine wp_inert rfl rfl .other fun now _ => ?_
  refine ⟨⟨.other, fun _ => some_ne_none _, fun _ _ _ => rfl⟩,
    fun s rest choice r s' hinv hpermits hexec => ?_⟩
  refine ⟨.other, Revoking.same hinv ((exec_change hexec).of_inert rfl), ?_⟩
  cases r with
  | error e => exact herror _ _
  | ok burned =>
    cases burned with
    | none => exact herror _ _
    | some email' =>
      obtain ⟨row, hrow, rfl⟩ := email_of_consumeCode hexec
      obtain rfl := hpermits.2.1 _ _ _ rfl row hrow
      exact hok _

/-- The tenant that is found is the one that the invariant names. -/
theorem wp_findTenantByEmail
    {Q : Stage → List (plane setup).Event → Except IdentitiesError (Option String) → Prop}
    (hok : ∀ log', Q .other log' (.ok (some tenantId)))
    (herror : ∀ log' e, Q .other log' (.error e)) :
    (revoking setup email tenantId i).Wp i task Q .other log
      (onTenants (Authority.findTenantByEmail setup.config email)).run := by
  rcases run_findTenantByEmail setup.config email with ⟨e, hrefused⟩ | ⟨normal, htenant, hasked⟩
  · rw [hrefused]
    exact herror _ _
  · rw [hasked]
    refine ⟨⟨.other, fun _ => some_ne_none _, fun _ _ _ => rfl⟩,
      fun s rest choice r s' hinv _ hexec => ?_⟩
    refine ⟨.other, Revoking.same hinv ((exec_change hexec).of_inert rfl), ?_⟩
    cases r with
    | error e => exact herror _ _
    | ok found =>
      obtain rfl : found = some tenantId := by
        rw [← Revoking.tenant hinv, htenant]
        exact (exec_change hexec).of_findTenantByEmail.1
      exact hok _

def Upserts (setup : Setup) (email hash : String) (i : ℕ) (stage : Stage)
    (log : List (plane setup).Event) (out : Except IdentitiesError Unit) : Prop :=
  Fits setup email i i stage log ∧ stage = if out = .ok () then .written hash else .other

theorem wp_insertPassword {hash : String} :
    (revoking setup email tenantId i).Wp i task (Upserts setup email hash i) .absent log
      (insertPassword tenantId email hash).run := by
  refine ⟨⟨.advance rfl fun _ heq => (by cases heq), fun _ => some_ne_none _, fun _ _ _ => rfl⟩,
    fun s rest choice r s' hinv hpermits hexec => ?_⟩
  cases r with
  | error e =>
    have hinv' := Revoking.same hinv ((exec_change hexec).of_quiet rfl)
    exact ⟨.other, hinv'.forget fun _ _ heq => (by cases heq), .other, rfl⟩
  | ok outcome =>
    rcases (exec_change hexec).of_insertIdentity with ⟨rfl, -, htables⟩ | ⟨rfl, -, row, hrow⟩
    · have hstores : s'.StoresHash email hash := by
        have hidentities : s'.identities = s.identities.insert (providerPassword, email)
          ⟨tenantId, some hash, email⟩ := congrArg identities htables
        exact ⟨_, by rw [hidentities, Store.get?_insert_self], rfl⟩
      have htenant := (tenantOf_congr (congrArg tenants htables)).trans (Revoking.tenant hinv)
      refine ⟨.written hash, Revoking.advance htenant (hpermits.1 rfl) nofun
        (fun _ heq => some.inj heq ▸ hstores) nofun rfl, .advance rfl ?_, rfl⟩
      rintro _ ⟨⟩
      exact ⟨_, mem_append_right _ (mem_singleton_self _), .inserted tenantId⟩
    · -- Nobody else links the login method.
      cases (Revoking.absent hinv (Set.mem_insert _ _)).symm.trans hrow

theorem wp_upsertPassword {hash : String} :
    (revoking setup email tenantId i).Wp i task (Upserts setup email hash i) .other log
      (upsertPassword tenantId email hash).run := by
  refine ⟨⟨.other, fun _ => some_ne_none _, fun _ _ _ => rfl⟩,
    fun s rest choice r s' hinv hpermits hexec => ?_⟩
  cases r with
  | error e =>
    exact ⟨.other, Revoking.same hinv ((exec_change hexec).of_quiet rfl), .other, rfl⟩
  | ok updated =>
    obtain ⟨hfound, htables⟩ := (exec_change hexec).of_updateSecretHash
    have htenant := (tenantOf_congr (congrArg tenants htables)).trans (Revoking.tenant hinv)
    have hget : s'.identities.get? (providerPassword, email) =
        (s.identities.get? (providerPassword, email)).map
          fun row => { row with secretHash := some hash } := by
      have hidentities := congrArg identities htables
      simp only [Db.tables] at hidentities
      simp [hidentities]
    cases updated with
    | true =>
      obtain ⟨row, hrow⟩ := Store.contains_eq_true_iff.mp hfound.symm
      have hstores : s'.StoresHash email hash := by
        refine ⟨{ row with secretHash := some hash }, ?_, rfl⟩
        rw [hget, show s.identities.get? (providerPassword, email) = some row from hrow]
        rfl
      refine ⟨.written hash, Revoking.advance htenant (hpermits.1 rfl) (by simp)
        (fun _ heq => some.inj heq ▸ hstores) (by simp) rfl, .advance rfl ?_, rfl⟩
      rintro _ ⟨⟩
      exact ⟨_, mem_append_right _ (mem_singleton_self _), .updated⟩
    | false =>
      have hnone : s'.identities.get? (providerPassword, email) = none := by
        rw [hget]
        have habsent : s.identities.get? (providerPassword, email) = none := by
          simpa [Store.contains, Db.tables] using hfound.symm
        rw [habsent]
        rfl
      exact ⟨.absent, Revoking.advance htenant (hpermits.1 rfl) (fun _ => hnone)
        (by rintro _ ⟨⟩) (by simp) rfl, wp_insertPassword⟩

/-- Where a task ends: a reset that has returned has deleted the sessions. -/
def Ends (setup : Setup) (email : String) (i : ℕ) (stage : Stage) (log : List (plane setup).Event)
    (out : Except IdentitiesError Unit) : Prop :=
  Rests setup email i i stage log ∧ (out = .ok () → ∃ hash, stage = .revoked hash)

theorem wp_deleteSessions {hash : String} (h : Fits setup email i i (.written hash) log) :
    (revoking setup email tenantId i).Wp i task (Ends setup email i) (.written hash) log
      (deleteSessions tenantId).run := by
  refine ⟨⟨h, fun _ => some_ne_none _, fun _ _ _ => rfl⟩,
    fun s rest choice r s' hinv hpermits hexec => ?_⟩
  have h' := h.append ⟨.authority (.deleteSessionsForTenant tenantId), r⟩
  cases r with
  | error e =>
    exact ⟨.written hash, Revoking.same hinv ((exec_change hexec).of_quiet rfl), ⟨h', rfl⟩,
      fun hok => by cases hok⟩
  | ok n =>
    have htables := (exec_change hexec).of_deleteSessionsForTenant
    have hidentities : s'.identities = s.identities := congrArg identities htables
    have hsessions : s'.sessions = s.sessions.retain fun _ row => !(row.tenantId = tenantId) :=
      congrArg sessions htables
    have hstored : s.StoresHash email hash := Revoking.stored hinv (Set.mem_insert _ _) rfl
    have htenant := (tenantOf_congr (congrArg tenants htables)).trans (Revoking.tenant hinv)
    refine ⟨.revoked hash, Revoking.advance htenant (hpermits.1 rfl) nofun ?_ ?_ rfl,
      ⟨.advance rfl h'.stored, rfl⟩, fun _ => ⟨hash, rfl⟩⟩
    · rintro _ ⟨⟩
      unfold Db.StoresHash
      rwa [hidentities]
    · rintro _ ⟨⟩
      constructor
      · intro row hrow
        obtain ⟨row', hrow', hhash⟩ := hstored
        rw [← hpermits.2.2 tenantId rfl row hrow, hrow']
        exact hhash
      · intro tokenHash session hsession
        rw [hsessions, Store.get?_retain] at hsession
        have hkept := (filter_eq_some_iff.mp hsession).2
        simpa using hkept

/-- A reset that succeeds has deleted the sessions. -/
theorem wp_passwordReset {code newPassword : String} :
    (revoking setup email tenantId i).Wp i task (Ends setup email i) .other []
      (passwordReset setup.config setup.hashing code newPassword).run := by
  have hfail : ∀ log e, Ends setup email i .other log (.error e) :=
    fun log e => ⟨⟨.other, rfl⟩, fun hok => by cases hok⟩
  apply Wp.exceptBind
  cases checkPassword newPassword with
  | error e => exact hfail _ _
  | ok =>
    apply Wp.exceptBind
    refine wp_burnCode (fun log => ?_) hfail
    apply Wp.exceptBind
    refine wp_findTenantByEmail (fun log => ?_) hfail
    apply Wp.exceptLift
    apply Wp.bind
    refine wp_inert rfl rfl .other fun salt _ => ?_
    apply Wp.exceptBind
    refine wp_upsertPassword.mono ?_
    rintro stage log r ⟨h, hstage⟩
    cases r with
    | error e =>
      rw [hstage, if_neg (by rintro ⟨⟩)]
      exact hfail _ _
    | ok =>
      rw [hstage, if_pos rfl] at h ⊢
      exact wp_deleteSessions h

end

/-! ## Runs -/

/-- Task number `i` is a reset, and all others log in with the email. -/
structure Roles (setup : Setup) (email : String) (i : ℕ) (cfg : (plane setup).Config) : Prop where
  reset : ∀ th, cfg.threads[i]? = some th → ∃ code newPassword,
    th.task = .passwordReset code newPassword
  logins : ∀ j th, cfg.threads[j]? = some th → j ≠ i → th.task.LogsIn setup.config email

/-- If the call burns a code, it is one for the email. -/
def BurnsCodeFor (email : String) (s : Db) : Call → Prop
  | .consumeCode hash _ _ => ∀ row ∈ s.codes.get? hash, row.email = email
  | _ => True

instance (email : String) (s : Db) : DecidablePred (BurnsCodeFor email s)
  | .consumeCode _ _ _ => inferInstanceAs (Decidable (∀ _, _))
  | .authority _ | .loginAllowed .. | .newSalt | .randomToken | .exchange .. | .updateSecretHash ..
  | .unlinkGuarded .. | .createSession .. | .touchAndGetTenant .. | .deleteSession _ | .stall =>
    isTrue trivial

def Call.revokes : Call → Bool
  | .authority (.deleteSessionsForTenant _) => true
  | _ => false

def foundRow (setup : Setup) (email : String) : (plane setup).Event → Option TenantIdentity
  | ⟨.authority (.findIdentity provider subject), .ok found⟩ =>
    if provider = providerPassword ∧ subject = email then found else none
  | _ => none

/-- If the task is under way and has looked the password up, it has found the hash that is stored
now. -/
def UpToDate (setup : Setup) (email : String) (s : Db) (th : (plane setup).Thread) : Prop :=
  th.done = false → ∀ e ∈ th.log, ∀ row ∈ foundRow setup email e,
    (s.identities.get? (providerPassword, email)).bind (·.secretHash) = row.secretHash

instance (s : Db) (th : (plane setup).Thread) : Decidable (UpToDate setup email s th) :=
  inferInstanceAs (Decidable (∀ _, _))

/-- When sessions are deleted, no task is under way with another hash than the one stored now. -/
def Undisturbed (setup : Setup) (email : String) (cfg : (plane setup).Config) :
    (plane setup).Action → Prop
  | .step i _ => ∀ th ∈ cfg.threads[i]?, ∀ c ∈ th.pending, Call.revokes c = true →
      ∀ th' ∈ cfg.threads, UpToDate setup email cfg.state th'
  | .spawn _ | .env _ => True

instance (cfg : (plane setup).Config) : DecidablePred (Undisturbed setup email cfg)
  | .step _ _ => inferInstanceAs (Decidable (∀ _, _))
  | .spawn _ | .env _ => isTrue trivial

theorem Roles.of_step {i : ℕ} {cfg cfg' : (plane setup).Config} {a : (plane setup).Action}
    (hstep : (plane setup).system.step cfg a = some cfg') (h : Roles setup email i cfg') :
    Roles setup email i cfg where
  reset th hth := by
    obtain ⟨th', hth', htask⟩ := Config.task_of_step hstep hth
    rw [← htask]
    exact h.reset th' hth'
  logins j th hth hj := by
    obtain ⟨th', hth', htask⟩ := Config.task_of_step hstep hth
    rw [← htask]
    exact h.logins j th' hth' hj

/-- The tasks have their roles, the reset burns a code for the email, and no login is under way with
another hash when it deletes the sessions. -/
def resetGuard (setup : Setup) (email : String) (i : ℕ) (cfg : (plane setup).Config)
    (a : (plane setup).Action) : Prop :=
  (Roles setup email i cfg ∧ ∀ cfg', (plane setup).system.step cfg a = some cfg' →
    Roles setup email i cfg') ∧
  cfg.Pending (BurnsCodeFor email) a ∧ Undisturbed setup email cfg a

/-- A task that has returned `done` is a reset that has deleted the sessions. -/
def Finished (stage : Stage) (value : Except IdentitiesError Answer) : Prop :=
  value = .ok .done → ∃ hash, stage = .revoked hash

theorem Rests.sees {i j : ℕ} {stage : Stage} {task : Task} {log : List (plane setup).Event}
    (h : Rests setup email i j stage log) :
    (revoking setup email tenantId i).Sees j stage task log none := by
  refine ⟨h.1, fun hholding => ?_, fun _ hc => by cases hc⟩
  rw [h.2] at hholding
  cases hholding

/-- The reset and the logins keep the invariant. -/
theorem sound_revoking (setup : Setup) (email tenantId : String) (i : ℕ) :
    (revoking setup email tenantId i).Sound Finished (resetGuard setup email i) where
  spawn := by
    intro cfg task stages hguard hinv
    have hroles := hguard.1.2 _ rfl
    have hnew : (cfg.threads ++ [⟨task, [], Task.body setup task⟩])[cfg.threads.length]? =
        some ⟨task, [], Task.body setup task⟩ := getElem?_concat_length
    refine ⟨.other, ?_, Revoking.join hinv⟩
    by_cases hlast : cfg.threads.length = i
    · obtain ⟨code, newPassword, rfl⟩ := hroles.reset _ (hlast ▸ hnew)
      rw [hlast]
      refine Wp.bind (wp_passwordReset.mono fun stage log out h => ⟨h.1.sees, fun hdone => h.2 ?_⟩)
      cases out with
      | ok => rfl
      | error => cases hdone
    · have hlogin := hroles.logins _ _ hnew hlast
      cases task with
      | passwordLogin replica given password remoteIp =>
        refine Wp.bind ((wp_passwordLogin hlogin).mono fun stage log out h =>
          ⟨h.sees, fun hdone => ?_⟩)
        cases out with
        | ok | error => cases hdone
      | _ => exact hlogin.elim
  env := by
    intro cfg issue s' stages _ hinv henv
    obtain ⟨codes, rfl⟩ := Issue.apply_eq_some henv
    exact Revoking.same hinv rfl
  permits := by
    intro cfg j choice th c next stage rest hguard hth hprog hsees hrest
    have hpending : c ∈ th.pending := by simp [Thread.pending, hprog]
    refine ⟨fun hresets x hx => ?_, ?_, ?_⟩
    · obtain rfl := hsees.2.2 c rfl hresets
      obtain ⟨k, th', -, hsees', hne⟩ := hrest x hx
      by_contra hreset
      exact hne (hsees'.1.reset (Bool.of_not_eq_false hreset))
    · rintro hash purpose now rfl row hrow
      exact hguard.2.1 th hth _ hpending row hrow
    · rintro tenantId rfl row hrow
      obtain ⟨k, th', hth', hsees', -⟩ := hrest _ hrow
      refine hguard.2.2 th hth _ hpending rfl th' (mem_of_getElem? hth') ?_ _
        (hsees'.1.found row rfl) row ?_
      · simpa [Thread.done, isSome_iff_ne_none] using hsees'.2.1 rfl
      · exact if_pos ⟨rfl, rfl⟩

/-- In every run of a reset for the email of a live tenant with any number of logins for it in which
no login is under way with another hash when the reset deletes the sessions of the tenant: once the
reset has returned, the hash that it has stored is still there, and every session of the tenant was
opened by a login that has found this hash. -/
theorem reset_revokes (setup : Setup) (email : String) {s : Db} {acts : List (plane setup).Action}
    {cfg : (plane setup).Config} {i : ℕ} {reset : (plane setup).Thread} {tenantId : String}
    (htenant : s.tenantOf setup.config email = some tenantId)
    (hrun : (plane setup).system.run (.start s) acts = some cfg)
    (hroles : Roles setup email i cfg) (hreset : cfg.threads[i]? = some reset)
    (hcode : (plane setup).system.Along (Config.Pending (BurnsCodeFor email)) (.start s) acts)
    (hundisturbed : (plane setup).system.Along (Undisturbed setup email) (.start s) acts)
    (hdone : reset.result = some (.ok .done)) :
    ∃ hash, (∃ e ∈ reset.log, Stores setup email hash e) ∧ cfg.state.StoresHash email hash ∧
      ∀ tokenHash session, cfg.state.sessions.get? tokenHash = some session →
        session.tenantId = tenantId →
          ∃ (j : ℕ) (login : (plane setup).Thread) (row : TenantIdentity),
            cfg.threads[j]? = some login ∧ passwordFound setup email row ∈ login.log ∧
            (∃ e ∈ login.log, Creates setup tokenHash e) ∧ row.secretHash = some hash := by
  have hstart : Revoking setup.config email tenantId s ∅ :=
    ⟨htenant, fun h => h.elim, fun h => h.elim, fun h => h.elim, fun h => h.elim⟩
  have : Inhabited Stage := ⟨.other⟩
  have hroles' := ((plane setup).system.along_of_backward
    (fun _ _ _ hstep h => Roles.of_step hstep h) hrun hroles).2
  obtain ⟨note, hfollows, hinv⟩ := (sound_revoking setup email tenantId i).run
    (annotates_start hstart) (hroles'.and _ (hcode.and _ hundisturbed)) hrun
  obtain ⟨hash, hstage⟩ := (hfollows i reset hreset).fin (Thread.result_eq_some.mp hdone) rfl
  have hsees := (hfollows i reset hreset).sees
  rw [hstage] at hsees
  have hmem : Stage.revoked hash ∈ {g | ∃ i < cfg.threads.length, note i = g} :=
    ⟨i, (List.getElem?_eq_some_iff.mp hreset).1, hstage⟩
  refine ⟨hash, hsees.1.stored hash rfl, Revoking.stored hinv hmem rfl,
    fun tokenHash session hsession hsame => ?_⟩
  obtain ⟨row, ⟨j, hj, hopened⟩, hhash⟩ := Revoking.sessions hinv hmem hsession hsame
  have hlogin := (hfollows j _ (List.getElem?_eq_getElem hj)).sees
  rw [hopened] at hlogin
  exact ⟨j, _, row, List.getElem?_eq_getElem hj, hlogin.1.found row rfl,
    hlogin.1.created row tokenHash rfl, hhash⟩

/-! ## A login before, after and around a reset -/

def sampleTenant : Db := ((plane sampleSetup).system.runD (.start .empty) sampleForgotten).state

/-- A login, a reset and a login with the new password, one after the other. -/
def sampleOrderly : List (plane sampleSetup).Action :=
  [.spawn (.passwordLogin 0 "a@b" "password-1" "10.0.0.1")] ++ sampleTurns 0 "token-2" 7 ++
    [.spawn (.passwordReset "code-2" "password-2")] ++ sampleTurns 1 "" 6 ++
    [.spawn (.passwordLogin 0 "a@b" "password-2" "10.0.0.1")] ++ sampleTurns 2 "token-3" 7

/-- Only the session of the last login is left. -/
theorem reset_revokes_sample :
    ∃ cfg hash, (plane sampleSetup).system.run (.start sampleTenant) sampleOrderly = some cfg ∧
      cfg.state.StoresHash "a@b" hash ∧
      ∀ tokenHash session, cfg.state.sessions.get? tokenHash = some session →
        session.tenantId = "tenant-1" →
          ∃ (j : ℕ) (login : (plane sampleSetup).Thread) (row : TenantIdentity),
            cfg.threads[j]? = some login ∧ passwordFound sampleSetup "a@b" row ∈ login.log ∧
            (∃ e ∈ login.log, Creates sampleSetup tokenHash e) ∧ row.secretHash = some hash := by
  have hrun := (plane sampleSetup).system.run_eq_some_runD (by decide +kernel :
    ((plane sampleSetup).system.run (.start sampleTenant) sampleOrderly).isSome = true)
  have hthreads : ((plane sampleSetup).system.runD (.start sampleTenant) sampleOrderly).threads.map
      (fun th => (th.task, th.result)) =
      [(.passwordLogin 0 "a@b" "password-1" "10.0.0.1", some (.ok (.session "token-2"))),
        (.passwordReset "code-2" "password-2", some (.ok .done)),
        (.passwordLogin 0 "a@b" "password-2" "10.0.0.1", some (.ok (.session "token-3")))] := by
    decide +kernel
  obtain ⟨first, reset, last, hthree⟩ : ∃ first reset last, ((plane sampleSetup).system.runD
      (.start sampleTenant) sampleOrderly).threads = [first, reset, last] := by
    rw [← length_eq_three, ← length_map, hthreads]
    rfl
  rw [hthree] at hthreads
  obtain ⟨⟨hfirst, -⟩, ⟨hreset, hdone⟩, hlast, -⟩ :
      (first.task = .passwordLogin 0 "a@b" "password-1" "10.0.0.1" ∧
        first.result = some (.ok (.session "token-2"))) ∧
      (reset.task = .passwordReset "code-2" "password-2" ∧ reset.result = some (.ok .done)) ∧
      last.task = .passwordLogin 0 "a@b" "password-2" "10.0.0.1" ∧
        last.result = some (.ok (.session "token-3")) := by simpa using hthreads
  have hgiven : normalizeEmail sampleSetup.config "a@b" = .ok "a@b" := by decide +kernel
  have hroles : Roles sampleSetup "a@b" 1
      ((plane sampleSetup).system.runD (.start sampleTenant) sampleOrderly) := by
    refine ⟨fun th hth => ?_, fun j th hth hj => ?_⟩
    · rw [hthree] at hth
      cases hth
      exact ⟨_, _, hreset⟩
    · rw [hthree] at hth
      rcases j with - | - | - | j
      · cases hth
        rw [hfirst]
        exact hgiven
      · exact absurd rfl hj
      · cases hth
        rw [hlast]
        exact hgiven
      · cases hth
  obtain ⟨hash, -, hstores, hopened⟩ := reset_revokes sampleSetup "a@b"
    (by decide +kernel : sampleTenant.tenantOf sampleSetup.config "a@b" = some "tenant-1") hrun
    hroles (by rw [hthree]; rfl) (by decide +kernel) (by decide +kernel) hdone
  exact ⟨_, hash, hrun, hstores, hopened⟩

/-- A login has found its password to be right when the reset begins, and opens its session when
the reset is over. -/
def sampleRace : List (plane sampleSetup).Action :=
  [.spawn (.passwordLogin 0 "a@b" "password-1" "10.0.0.1")] ++ sampleTurns 0 "" 3 ++
    [.spawn (.passwordReset "code-2" "password-2")] ++ sampleTurns 1 "" 6 ++
    sampleTurns 0 "token-2" 4

/-- The session that was opened with the old password can still be exchanged. -/
theorem reset_revokes_counterexample :
    ∃ (cfg : (plane sampleSetup).Config) (login reset : (plane sampleSetup).Thread)
      (row : TenantIdentity) (claims : Auth.Claims) (s' : Db),
      (plane sampleSetup).system.run (.start sampleTenant) sampleRace = some cfg ∧
      cfg.threads = [login, reset] ∧
      login.task = .passwordLogin 0 "a@b" "password-1" "10.0.0.1" ∧
      login.result = some (.ok (.session "token-2")) ∧
      reset.task = .passwordReset "code-2" "password-2" ∧ reset.result = some (.ok .done) ∧
      row ∈ login.log.filterMap (foundRow sampleSetup "a@b") ∧
      cfg.state.StoresHash "a@b" "password-2" ∧ row.secretHash ≠ some "password-2" ∧
      (exchangeSession sampleHashing 300 "token-2").run.Runs (Db.Step sampleHashing) cfg.state
        (.ok claims) s' ∧
      claims.tid = "tenant-1" := by
  have hrun := (plane sampleSetup).system.run_eq_some_runD (by decide +kernel :
    ((plane sampleSetup).system.run (.start sampleTenant) sampleRace).isSome = true)
  have hthreads : ((plane sampleSetup).system.runD (.start sampleTenant) sampleRace).threads.map
      (fun th => (th.task, th.result, th.log.filterMap (foundRow sampleSetup "a@b"))) =
      [(.passwordLogin 0 "a@b" "password-1" "10.0.0.1", some (.ok (.session "token-2")),
          [⟨"tenant-1", some "password-1", "a@b"⟩]),
        (.passwordReset "code-2" "password-2", some (.ok .done), [])] := by decide +kernel
  obtain ⟨login, reset, hpair⟩ : ∃ login reset, ((plane sampleSetup).system.runD
      (.start sampleTenant) sampleRace).threads = [login, reset] := by
    rw [← length_eq_two, ← length_map, hthreads]
    rfl
  rw [hpair] at hthreads
  obtain ⟨⟨hlogin, hopened, hfound⟩, hreset, hdone, -⟩ :
      (login.task = .passwordLogin 0 "a@b" "password-1" "10.0.0.1" ∧
        login.result = some (.ok (.session "token-2")) ∧
        login.log.filterMap (foundRow sampleSetup "a@b") =
          [⟨"tenant-1", some "password-1", "a@b"⟩]) ∧
      reset.task = .passwordReset "code-2" "password-2" ∧ reset.result = some (.ok .done) ∧
        reset.log.filterMap (foundRow sampleSetup "a@b") = [] := by simpa using hthreads
  have hexchange : ((exchangeSession sampleHashing 300 "token-2").run.runWith
      (Db.exec sampleHashing (sampleChoice ""))
      ((plane sampleSetup).system.runD (.start sampleTenant) sampleRace).state).map
        (fun out => out.1) = some (.ok ((userSpec "tenant-1").claims 0 300)) := by decide +kernel
  obtain ⟨⟨_, s'⟩, hruns, rfl⟩ := map_eq_some_iff.mp hexchange
  refine ⟨_, login, reset, _, _, s', hrun, hpair, hlogin, hopened, hreset, hdone,
    by rw [hfound]; exact mem_singleton_self _, ?_, by decide,
    Prog.runs_of_runWith _ (fun _ _ _ _ h => ⟨_, h⟩) hruns, rfl⟩
  obtain ⟨row, hrow, hhash⟩ := map_eq_some_iff.mp (by decide +kernel :
    (((plane sampleSetup).system.runD (.start sampleTenant) sampleRace).state.identities.get?
      (providerPassword, "a@b")).map (·.secretHash) = some (some "password-2"))
  exact ⟨row, hrow, hhash⟩

end Wardnet.Identities
