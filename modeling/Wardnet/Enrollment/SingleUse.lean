/-
# Codes are used once

A code is used up when its row is stamped, and a row is stamped by one statement or by the
commit of the transaction that holds it. Both need a row that is not stamped, so no code is
used twice; what else they ask of the row is what the code was issued for.
-/

import Wardnet.Enrollment.Codes

namespace Wardnet.Enrollment

open Base Tenants Outline Store Option Db Wp CodeRow List
open Authority (Config TenantsError DomainEvent Failure normalizeEmail)

variable {config : Config} {hashCode : String → String}

/-- The task has used the code: an enroll has returned a tenant, or a consume an email. -/
def Uses (th : (plane config hashCode).Thread) (code : String) : Prop :=
  (∃ publicKey tenantId, th.task = .enroll code publicKey ∧
    th.prog = .ret (.ok (.enrolled tenantId))) ∨
  ∃ purpose email, th.task = .consumeCode code purpose ∧
    th.prog = .ret (.ok (.consumed (some email)))

/-- The tenant and the purpose for which a task issues a code. -/
def Task.scope : Task → Option (Option String × CodePurpose)
  | .issueSignupCode _ _ purpose => some (none, purpose)
  | .issueTenantCode tenantId => some (some tenantId, .enrollment)
  | .enroll .. | .consumeCode .. => none

/-- A task for this tenant and purpose has drawn the code and has inserted a row with this
expiry, which was answered `r`. -/
def Issues (th : (plane config hashCode).Thread) (code : String) (tenantId : Option String)
    (purpose : CodePurpose) (expiresAt : Int) (r : Except Failure Unit) : Prop :=
  th.task.scope = some (tenantId, purpose) ∧ ⟨.generateCode, code⟩ ∈ th.log ∧
    ∃ row, ⟨.issueCode (hashCode code) row, r⟩ ∈ th.log ∧ row.expiresAt = expiresAt

/-- A code with this tenant, purpose and expiry was used before its expiry, by the flow of its
purpose, and for its tenant. -/
structure UsedAsIssued (th : (plane config hashCode).Thread) (tenantId : Option String)
    (purpose : CodePurpose) (expiresAt : Int) : Prop where
  before_expiry : ∃ now, ⟨.utcNow, now⟩ ∈ th.log ∧ now < expiresAt
  by_enroll : ∀ code publicKey, th.task = .enroll code publicKey → purpose = .enrollment
  by_consume : ∀ code purpose', th.task = .consumeCode code purpose' →
    purpose = purpose' ∧ tenantId = none
  for_tenant : ∀ id, tenantId = some id → th.prog = .ret (.ok (.enrolled id))

/-- The tenant of the code was found missing or deregistered. -/
def Rejected (log : List (plane config hashCode).Event) : Prop :=
  ∃ x id live, ⟨.tenantLive x id, .ok live⟩ ∈ log ∧ live ≠ some true

def Db.Unused (s : Db) (hash : String) : Prop :=
  (∃ row, s.codes.get? hash = some row ∧ row.usedAt = none) ∧
    ∀ x d, s.drafts.get? x = some d → d.burns hash = false

/-- Codes are used once, and as they were issued. -/
structure SingleUse (cfg : (plane config hashCode).Config) : Prop where
  /-- Two uses of one code are the same. -/
  once : ∀ {i j : ℕ} {th th' code}, cfg.threads[i]? = some th → cfg.threads[j]? = some th' →
    Uses th code → Uses th' code → i = j
  /-- A use is in accord with every task that was told that it has issued the code. -/
  issued : ∀ {th th' code tenantId purpose expiresAt}, th ∈ cfg.threads → th' ∈ cfg.threads →
    Issues th' code tenantId purpose expiresAt (.ok ()) → Uses th code →
      UsedAsIssued th tenantId purpose expiresAt
  /-- What is used was issued. -/
  origin : ∀ {th code}, th ∈ cfg.threads → Uses th code → ∃ th' ∈ cfg.threads,
    ∃ tenantId purpose expiresAt r, Issues th' code tenantId purpose expiresAt r ∧
      UsedAsIssued th tenantId purpose expiresAt
  /-- With the code of a tenant, a daemon is bound to that tenant only. -/
  binds : ∀ {i th e cfg' th' code publicKey id purpose expiresAt}, cfg.Performs i th e cfg' →
    th.task = .enroll code publicKey → th' ∈ cfg.threads →
    Issues th' code (some id) purpose expiresAt (.ok ()) →
      cfg'.state.pending = cfg.state.pending ∨
        ∃ expiresAt', cfg'.state.pending = cfg.state.pending.insert publicKey ⟨id, expiresAt'⟩
  /-- An enroll that is turned away because of the tenant leaves the code. -/
  rejected : ∀ {i th e cfg' th' code publicKey message}, cfg.Performs i th e cfg' →
    cfg'.threads[i]? = some th' → th'.task = .enroll code publicKey → Rejected th'.log →
    th'.prog = .ret (.error (.badCode message)) → cfg'.state.Unused (hashCode code)

/-! ## What a call does -/

section

variable {choice : Choice} {s s' : Db}

variable {c : Call} {d : Draft} {now : Int} {email : String} {r : c.Resp}

/-- A call fails without an effect, or takes effect and may lose its answer. -/
theorem Db.exec_cases (hexec : Db.exec choice c s = some (r, s')) :
    (Db.refuse c = some r ∧ s' = s) ∨ ∃ r', Db.perform choice c s = some (r', s') ∧
      (r = r' ∨ c.losesAnswer = true ∧ Db.refuse c = some r) := by
  unfold exec at hexec
  split at hexec
  · obtain ⟨r₀, hrefuse, hout⟩ := bind_eq_some_iff.mp hexec
    split at hout
    · rename_i happlied
      obtain ⟨⟨r', t⟩, hperform, heq⟩ := map_eq_some_iff.mp hout
      cases heq
      simp only [Bool.and_eq_true] at happlied
      exact .inr ⟨r', hperform, .inr ⟨happlied.2, hrefuse⟩⟩
    · cases hout
      exact .inl ⟨hrefuse, rfl⟩
  · exact .inr ⟨r, hexec, .inl rfl⟩

def Call.quiet : Call → Bool
  | .utcNow | .newUuid | .generateCode | .countCodeRequests .. | .logCodeRequest .. | .sendCode ..
  | .findTenant _ | .publish _ => true
  | _ => false

structure Db.Same (s s' : Db) : Prop where
  codes : s'.codes = s.codes
  pending : s'.pending = s.pending
  next : s'.next = s.next
  drafts : s'.drafts = s.drafts

theorem Db.Same.refl (s : Db) : s.Same s := ⟨rfl, rfl, rfl, rfl⟩

theorem Db.same_of_perform (hc : c.quiet = true) (hperform : Db.perform choice c s = some (r, s')) :
    s.Same s' := by
  cases c with
  | generateCode =>
    simp only [perform] at hperform
    split at hperform
    · cases hperform
      exact .refl s
    · cases hperform
  | utcNow | newUuid | countCodeRequests | logCodeRequest | sendCode | findTenant | publish =>
    cases hperform
    exact ⟨rfl, rfl, rfl, rfl⟩
  | _ => cases hc

theorem Db.same_of_exec (hc : c.quiet = true) (hexec : Db.exec choice c s = some (r, s')) :
    s.Same s' := by
  rcases exec_cases hexec with ⟨-, rfl⟩ | ⟨r', hperform, -⟩
  · exact .refl _
  · exact same_of_perform hc hperform

def Db.Writes (s : Db) (x : ℕ) (d d' : Draft) (s' : Db) : Prop :=
  s.drafts.get? x = some d ∧ s' = { s with drafts := s.drafts.insert x d' }

theorem Db.Writes.eq_self {x : ℕ} (h : s.Writes x d d s') : s' = s := by
  rw [h.2, insert_eq_self h.1]

/-- A statement of a transaction fails and leaves everything, or rewrites the draft. -/
theorem Db.inTransaction_cases {α : Type} {x : ℕ}
    {statement : Draft → Option (Except Failure α × Draft)} {r : Except Failure α} {e : Failure}
    (h : (some (.error e) = some r ∧ s' = s) ∨ s.inTransaction x statement = some (r, s')) :
    ((∃ e, r = .error e) ∧ s' = s) ∨ ∃ d d', s.Writes x d d' s' ∧ statement d = some (r, d') := by
  rcases h with ⟨hrefuse, rfl⟩ | h
  · cases hrefuse
    exact .inl ⟨⟨_, rfl⟩, rfl⟩
  unfold inTransaction at h
  split at h
  · cases h
    exact .inl ⟨⟨_, rfl⟩, rfl⟩
  · rename_i d hd
    obtain ⟨⟨r', d'⟩, hstatement, heq⟩ := map_eq_some_iff.mp h
    cases heq
    exact .inr ⟨d, d', ⟨hd, rfl⟩, hstatement⟩

theorem Db.heldByOther_eq_false {x : Option ℕ} {held : Draft → Bool}
    (h : ¬ s.heldByOther x held = true) {y : ℕ} (hd : s.drafts.get? y = some d) (hne : some y ≠ x) :
    held d = false := by
  by_contra hheld
  apply h
  have hmem : (y, d) ∈ s.drafts.select fun y d => some y ≠ x ∧ held d = true :=
    mem_select_iff.mpr ⟨hd, by simpa [hne] using hheld⟩
  simpa [heldByOther] using ne_nil_of_mem hmem

/-- A call whose answer does not get lost. -/
theorem Db.exec_eq_some (hc : c.losesAnswer = false) (hexec : Db.exec choice c s = some (r, s')) :
    (Db.refuse c = some r ∧ s' = s) ∨ Db.perform choice c s = some (r, s') := by
  rcases exec_cases hexec with hrefuse | ⟨r', hperform, rfl | ⟨hlost, -⟩⟩
  · exact .inl hrefuse
  · exact .inr hperform
  · rw [hc] at hlost
    cases hlost

theorem Db.exec_begin {r : Except Failure ℕ} (hexec : Db.exec choice .begin s = some (r, s')) :
    ((∃ e, r = .error e) ∧ s' = s) ∨ r = .ok s.next ∧
      s' = { s with next := s.next + 1, drafts := s.drafts.insert s.next .empty } := by
  rcases exec_eq_some rfl hexec with ⟨hrefuse, rfl⟩ | hperform
  · cases hrefuse
    exact .inl ⟨⟨_, rfl⟩, rfl⟩
  · cases hperform
    exact .inr ⟨rfl, rfl⟩

variable {x : ℕ}

/-- The row meets the condition of the enroll flow, and no other transaction holds it. -/
theorem Db.exec_burn {hash : String} {r : Except Failure (Option (String × Option String))}
    (hexec : Db.exec choice (.burn x hash now) s = some (r, s')) :
    (((∃ e, r = .error e) ∨ r = .ok none) ∧ s' = s) ∨ ∃ d row, s.codes.get? hash = some row ∧
      row.usable now = true ∧ row.purpose = .enrollment ∧
      (∀ y d', s.drafts.get? y = some d' → y ≠ x → d'.burns hash = false) ∧
      r = .ok (some (row.email, row.tenantId)) ∧
      s.Writes x d { d with burned := some (hash, { row with usedAt := some now }) } s' := by
  rcases inTransaction_cases (exec_eq_some rfl hexec) with ⟨hr, rfl⟩ |
    ⟨d, d', hwrites, hstatement⟩
  · exact .inl ⟨.inl hr, rfl⟩
  split at hstatement
  · cases hstatement
    exact .inl ⟨.inr rfl, hwrites.eq_self⟩
  · rename_i row hfilter
    obtain ⟨hrow, hcond⟩ := filter_eq_some_iff.mp hfilter
    simp only [decide_eq_true_eq] at hcond
    split at hstatement
    · cases hstatement
    · rename_i hfree
      cases hstatement
      refine .inr ⟨d, row, hrow, hcond.1, hcond.2, fun y d' hd' hne => ?_, rfl, hwrites⟩
      exact heldByOther_eq_false hfree hd' fun heq => hne (some.inj heq)

theorem Db.exec_tenantLive {id : String} {r : Except Failure (Option Bool)}
    (hexec : Db.exec choice (.tenantLive x id) s = some (r, s')) : s' = s := by
  rcases inTransaction_cases (exec_eq_some rfl hexec) with ⟨-, rfl⟩ |
    ⟨d, d', hwrites, hstatement⟩
  · rfl
  · cases hstatement
    exact hwrites.eq_self

theorem Db.exec_selectTenant {r : Except Failure String}
    (hexec : Db.exec choice (.selectTenant x email) s = some (r, s')) : s' = s := by
  rcases inTransaction_cases (exec_eq_some rfl hexec) with ⟨-, rfl⟩ |
    ⟨d, d', hwrites, hstatement⟩
  · rfl
  · split at hstatement
    · cases hstatement
      exact hwrites.eq_self
    · cases hstatement
      exact hwrites.eq_self

theorem Db.exec_insertTenant {id : String} {r : Except Failure (Option String)}
    (hexec : Db.exec choice (.insertTenant x id email) s = some (r, s')) :
    s' = s ∨ ∃ d, s.Writes x d { d with tenant := some (id, email) } s' := by
  rcases inTransaction_cases (exec_eq_some rfl hexec) with ⟨-, rfl⟩ |
    ⟨d, d', hwrites, hstatement⟩
  · exact .inl rfl
  split at hstatement
  · cases hstatement
  split at hstatement
  · cases hstatement
    exact .inl hwrites.eq_self
  split at hstatement
  · cases hstatement
    exact .inl hwrites.eq_self
  · cases hstatement
    exact .inr ⟨d, hwrites⟩

theorem Db.exec_upsertPending {publicKey : String} {row : PendingRow} {r : Except Failure Unit}
    (hexec : Db.exec choice (.upsertPending x publicKey row) s = some (r, s')) :
    ((∃ e, r = .error e) ∧ s' = s) ∨
      ∃ d, s.Writes x d { d with pending := some (publicKey, row) } s' := by
  rcases inTransaction_cases (exec_eq_some rfl hexec) with ⟨hr, rfl⟩ |
    ⟨d, d', hwrites, hstatement⟩
  · exact .inl ⟨hr, rfl⟩
  split at hstatement
  · cases hstatement
  split at hstatement
  · cases hstatement
    exact .inr ⟨d, hwrites⟩
  · cases hstatement
    exact .inl ⟨⟨_, rfl⟩, hwrites.eq_self⟩

/-- A failure whose answer gets lost is answered by a failure. -/
theorem exists_error {α : Type} {p : Prop} {e e' : Failure} {r : Except Failure α}
    (hr : r = .error e ∨ p ∧ some (.error e') = some r) : ∃ e, r = .error e := by
  rcases hr with rfl | ⟨-, hrefuse⟩
  · exact ⟨_, rfl⟩
  · cases hrefuse
    exact ⟨_, rfl⟩

/-- A commit takes place, whatever is answered, or fails. -/
theorem Db.exec_commit {r : Except Failure Unit}
    (hexec : Db.exec choice (.commit x) s = some (r, s')) :
    ((∃ e, r = .error e) ∧ s' = s) ∨
      ∃ d, s.drafts.get? x = some d ∧ s' = (s.applyDraft d).close x := by
  rcases exec_cases hexec with ⟨hrefuse, rfl⟩ | ⟨r', hperform, hr⟩
  · cases hrefuse
    exact .inl ⟨⟨_, rfl⟩, rfl⟩
  simp only [perform] at hperform
  split at hperform
  · cases hperform
    exact .inl ⟨exists_error hr, rfl⟩
  · rename_i d hd
    cases hperform
    exact .inr ⟨d, hd, rfl⟩

/-- A rollback that is answered ends an open transaction. -/
theorem Db.exec_rollback {r : Except Failure Unit}
    (hexec : Db.exec choice (.rollback x) s = some (r, s')) :
    (s' = s ∨ s' = s.close x) ∧
      ((∃ e, r = .error e) ∨ r = .ok () ∧ s' = s.close x ∧ ∃ d, s.drafts.get? x = some d) := by
  rcases exec_cases hexec with ⟨hrefuse, rfl⟩ | ⟨r', hperform, hr⟩
  · cases hrefuse
    exact ⟨.inl rfl, .inl ⟨_, rfl⟩⟩
  simp only [perform] at hperform
  split at hperform
  · cases hperform
    exact ⟨.inl rfl, .inl (exists_error hr)⟩
  · rename_i d hd
    cases hperform
    refine ⟨.inr rfl, ?_⟩
    rcases hr with rfl | ⟨-, hrefuse⟩
    · exact .inr ⟨rfl, rfl, d, hd⟩
    · cases hrefuse
      exact .inl ⟨_, rfl⟩

theorem Db.exec_drop {r : Unit} (hexec : Db.exec choice (.drop x) s = some (r, s')) :
    s' = s.close x := by
  rcases exec_eq_some rfl hexec with ⟨hrefuse, -⟩ | hperform
  · cases hrefuse
  · cases hperform
    rfl

variable {hash : String}

/-- A row is inserted under a new hash only. -/
theorem Db.exec_issueCode {row : CodeRow} {r : Except Failure Unit}
    (hexec : Db.exec choice (.issueCode hash row) s = some (r, s')) :
    ((∃ e, r = .error e) ∧ s' = s) ∨
      s.codes.get? hash = none ∧ s' = { s with codes := s.codes.insert hash row } := by
  rcases exec_cases hexec with ⟨hrefuse, rfl⟩ | ⟨r', hperform, hr⟩
  · cases hrefuse
    exact .inl ⟨⟨_, rfl⟩, rfl⟩
  simp only [perform] at hperform
  split at hperform
  · cases hperform
    exact .inl ⟨exists_error hr, rfl⟩
  · rename_i hfree
    cases hperform
    refine .inr ⟨?_, rfl⟩
    by_contra hsome
    exact hfree (.inl (isSome_iff_ne_none.mpr hsome))

/-- A row is consumed that meets the condition of that flow and that no transaction holds. -/
structure Db.Consumes (s : Db) (hash : String) (purpose : CodePurpose) (now : Int) (row : CodeRow)
    (s' : Db) : Prop where
  row_eq : s.codes.get? hash = some row
  usable : row.usable now = true
  purpose_eq : row.purpose = purpose
  tenantId_eq : row.tenantId = none
  free : ∀ y d, s.drafts.get? y = some d → d.burns hash = false
  state_eq : s' = { s with codes := s.codes.insert hash { row with usedAt := some now } }

theorem Db.exec_consumeCode {purpose : CodePurpose} {r : Except Failure (Option String)}
    (hexec : Db.exec choice (.consumeCode hash purpose now) s = some (r, s')) :
    ((∀ email, r ≠ .ok (some email)) ∧ s' = s) ∨ ∃ row, s.Consumes hash purpose now row s' := by
  rcases exec_cases hexec with ⟨hrefuse, rfl⟩ | ⟨r', hperform, hr⟩
  · cases hrefuse
    exact .inl ⟨nofun, rfl⟩
  simp only [perform] at hperform
  split at hperform
  · cases hperform
    refine .inl ⟨fun email heq => ?_, rfl⟩
    subst heq
    rcases hr with h | ⟨-, h⟩
    · cases h
    · cases h
  · rename_i row hfilter
    obtain ⟨hrow, hcond⟩ := filter_eq_some_iff.mp hfilter
    simp only [decide_eq_true_eq] at hcond
    split at hperform
    · cases hperform
    · rename_i hfree
      cases hperform
      refine .inr ⟨row, hrow, hcond.1, hcond.2.1, hcond.2.2, fun y d hd => ?_, rfl⟩
      exact heldByOther_eq_false hfree hd nofun

end

/-! ## The tables -/

def CodeRow.asIssued (row : CodeRow) : CodeRow := { row with usedAt := none }

theorem CodeRow.asIssued_eq_self {row : CodeRow} (h : row.usedAt = none) : row.asIssued = row := by
  rw [asIssued, ← h]

/-- An open transaction holds only rows that are not stamped, and no two hold the same one. -/
structure Db.Ok (s : Db) : Prop where
  lt : ∀ {x d}, s.drafts.get? x = some d → x < s.next
  burned : ∀ {x d hash row}, s.drafts.get? x = some d → d.burned = some (hash, row) →
    s.codes.get? hash = some row.asIssued
  locked : ∀ {x y d d' hash row row'}, s.drafts.get? x = some d → s.drafts.get? y = some d' →
    d.burned = some (hash, row) → d'.burned = some (hash, row') → x = y

/-- Codes are added, and rows that are not stamped may be stamped. -/
structure Db.Grows (s s' : Db) : Prop where
  used : ∀ {hash row}, s.codes.get? hash = some row → row.usedAt ≠ none →
    s'.codes.get? hash = some row
  issued : ∀ {hash row}, s.codes.get? hash = some row → ∃ row', s'.codes.get? hash = some row' ∧
    row'.asIssued = row.asIssued
  origin : ∀ {hash row}, s'.codes.get? hash = some row → s.codes.get? hash ≠ none →
    ∃ row', s.codes.get? hash = some row' ∧ row'.asIssued = row.asIssued

section

variable {s s' : Db} {x : ℕ} {d d' : Draft} {hash : String} {row : CodeRow}

theorem Db.Grows.of_codes_eq (h : s'.codes = s.codes) : s.Grows s' where
  used hrow _ := by rwa [h]
  issued hrow := ⟨_, by rwa [h], rfl⟩
  origin hrow _ := ⟨_, by rwa [← h], rfl⟩

/-- The row of a code is inserted or stamped. -/
theorem Db.Grows.of_insert (hcodes : s'.codes = s.codes.insert hash row)
    (hrow : s.codes.get? hash = none ∨ s.codes.get? hash = some row.asIssued) : s.Grows s' := by
  have hold : ∀ {row'}, s.codes.get? hash = some row' → row' = row.asIssued := by
    intro row' hget
    rcases hrow with hnone | hissued
    · rw [hnone] at hget
      cases hget
    · exact some.inj (hget.symm.trans hissued)
  refine ⟨fun {hash' row'} hget hused => ?_, fun {hash' row'} hget => ?_,
    fun {hash' row'} hget hsome => ?_⟩
  · rw [hcodes, get?_insert_of_ne]
    · exact hget
    · rintro rfl
      obtain rfl := hold hget
      exact hused rfl
  · rw [hcodes, get?_insert]
    split
    · rename_i heq
      subst heq
      obtain rfl := hold hget
      exact ⟨row, rfl, rfl⟩
    · exact ⟨row', hget, rfl⟩
  · rw [hcodes] at hget
    rcases get?_of_insert hget with ⟨rfl, rfl⟩ | ⟨-, hget⟩
    · exact ⟨_, hrow.resolve_left hsome, rfl⟩
    · exact ⟨row', hget, rfl⟩

theorem Db.Ok.shrink (h : s.Ok) (hcodes : s'.codes = s.codes) (hnext : s'.next = s.next)
    (hdrafts : ∀ {y d}, s'.drafts.get? y = some d → s.drafts.get? y = some d) : s'.Ok where
  lt hd := by
    rw [hnext]
    exact h.lt (hdrafts hd)
  burned hd hburned := by
    rw [hcodes]
    exact h.burned (hdrafts hd) hburned
  locked hd hd' := h.locked (hdrafts hd) (hdrafts hd')

theorem Db.get?_close {y : ℕ} {d : Draft} (h : (s.close x).drafts.get? y = some d) :
    s.drafts.get? y = some d ∧ y ≠ x :=
  (get?_of_erase h).symm

theorem Db.Ok.close (h : s.Ok) (x : ℕ) : (s.close x).Ok :=
  h.shrink rfl rfl fun hd => (get?_close hd).1

/-- A transaction writes or begins, and the row that it then holds is free. -/
theorem Db.Ok.insertDraft (h : s.Ok) (hcodes : s'.codes = s.codes)
    (hdrafts : s'.drafts = s.drafts.insert x d') (hnext : s.next ≤ s'.next) (hlt : x < s'.next)
    (hburned : ∀ {hash row}, d'.burned = some (hash, row) → s.codes.get? hash = some row.asIssued ∧
      ∀ {y d₀ row₀}, s.drafts.get? y = some d₀ → y ≠ x → d₀.burned ≠ some (hash, row₀)) :
    s'.Ok := by
  have hcases : ∀ {y d₀}, s'.drafts.get? y = some d₀ →
      y = x ∧ d₀ = d' ∨ y ≠ x ∧ s.drafts.get? y = some d₀ := by
    rw [hdrafts]
    exact get?_of_insert
  refine ⟨fun hget => ?_, fun hget hrow => ?_, fun hget hget' hrow hrow' => ?_⟩
  · rcases hcases hget with ⟨rfl, -⟩ | ⟨-, hd₀⟩
    · exact hlt
    · exact (h.lt hd₀).trans_le hnext
  · rw [hcodes]
    rcases hcases hget with ⟨-, rfl⟩ | ⟨-, hd₀⟩
    · exact (hburned hrow).1
    · exact h.burned hd₀ hrow
  · rcases hcases hget with ⟨rfl, rfl⟩ | ⟨hne, hd₀⟩
    · rcases hcases hget' with ⟨rfl, -⟩ | ⟨hne, hd₁⟩
      · rfl
      · exact absurd hrow' ((hburned hrow).2 hd₁ hne)
    · rcases hcases hget' with ⟨rfl, rfl⟩ | ⟨-, hd₁⟩
      · exact absurd hrow ((hburned hrow').2 hd₀ hne)
      · exact h.locked hd₀ hd₁ hrow hrow'

/-- A transaction writes, and keeps the row that it holds. -/
theorem Db.Ok.write (h : s.Ok) (hwrites : s.Writes x d d' s') (hburned : d'.burned = d.burned) :
    s'.Ok := by
  obtain ⟨hd, rfl⟩ := hwrites
  refine h.insertDraft rfl rfl le_rfl (h.lt hd) fun hrow => ?_
  rw [hburned] at hrow
  exact ⟨h.burned hd hrow, fun hd₀ hne hrow₀ => hne (h.locked hd₀ hd hrow₀ hrow)⟩

/-- A row is inserted or stamped that no transaction holds. -/
theorem Db.Ok.insertCode (h : s.Ok) (hcodes : s'.codes = s.codes.insert hash row)
    (hnext : s'.next = s.next) (hdrafts : s'.drafts = s.drafts)
    (hfree : ∀ y d row, s.drafts.get? y = some d → d.burned ≠ some (hash, row)) : s'.Ok where
  lt hd := by
    rw [hnext]
    exact h.lt (hdrafts ▸ hd)
  burned {y d₀ hash' row'} hd hburned := by
    rw [hdrafts] at hd
    rw [hcodes, get?_insert_of_ne]
    · exact h.burned hd hburned
    · rintro rfl
      exact hfree _ _ _ hd hburned
  locked hd hd' := by
    rw [hdrafts] at hd hd'
    exact h.locked hd hd'

theorem Db.codes_commit {entry : String × CodeRow} (hburned : d.burned = some entry) :
    ((s.applyDraft d).close x).codes = s.codes.insert entry.1 entry.2 := by
  simp [applyDraft, close, hburned]

theorem Db.Ok.commit (h : s.Ok) (hd : s.drafts.get? x = some d) :
    ((s.applyDraft d).close x).Ok := by
  have hclosed := h.close x
  cases hburned : d.burned with
  | none =>
    refine hclosed.shrink ?_ rfl id
    simp [Db.applyDraft, Db.close, hburned]
  | some entry =>
    refine hclosed.insertCode (Db.codes_commit hburned) rfl rfl ?_
    intro y d' row hd' hrow
    obtain ⟨hd', hne⟩ := Db.get?_close hd'
    exact hne (h.locked hd' hd hrow hburned)

end

/-! ## What is kept of a task -/

/-- The row that a task has issued, its transaction with what that has written, the row that it
has stamped, and whether it has given up its transaction. -/
structure Note where
  index : ℕ
  issued : Option (String × CodeRow)
  tx : Option (ℕ × Draft)
  used : Option (String × CodeRow)
  refused : Bool

def Note.fresh (i : ℕ) : Note := ⟨i, none, none, none, false⟩

/-- The tables are as the task has left them. -/
structure Note.Valid (n : Note) (s : Db) : Prop where
  tx : ∀ {x d}, n.tx = some (x, d) → x < s.next ∧ ∀ d', s.drafts.get? x = some d' → d' = d
  issued : ∀ {hash row}, n.issued = some (hash, row) → ∃ row', s.codes.get? hash = some row' ∧
    row'.asIssued = row
  used : ∀ {hash row}, n.used = some (hash, row) → s.codes.get? hash = some row ∧
    row.usedAt ≠ none

/-- Every code was issued by a task, and no two tasks have stamped the same one. -/
structure CodesInv (s : Db) (notes : Set Note) : Prop where
  ok : s.Ok
  valid : ∀ n ∈ notes, n.Valid s
  apart : ∀ {m n x d d'}, m ∈ notes → n ∈ notes → m.tx = some (x, d) → n.tx = some (x, d') →
    m.index = n.index
  once : ∀ {m n hash row row'}, m ∈ notes → n ∈ notes → m.used = some (hash, row) →
    n.used = some (hash, row') → m.index = n.index
  origin : ∀ {hash row}, s.codes.get? hash = some row →
    ∃ n ∈ notes, n.issued = some (hash, row.asIssued)

section

variable {s s' : Db} {rest : Set Note} {n n' : Note} {x : ℕ} {d d' : Draft}

theorem Note.Valid.mono (h : n.Valid s) (hgrows : s.Grows s') (hnext : s.next ≤ s'.next)
    (hdrafts : ∀ {x d d'}, n.tx = some (x, d) → s'.drafts.get? x = some d' →
      s.drafts.get? x = some d') : n.Valid s' where
  tx htx := ⟨(h.tx htx).1.trans_le hnext, fun d' hd' => (h.tx htx).2 d' (hdrafts htx hd')⟩
  issued hissued := by
    obtain ⟨row₀, hrow₀, rfl⟩ := h.issued hissued
    exact hgrows.issued hrow₀
  used hused := ⟨hgrows.used (h.used hused).1 (h.used hused).2, (h.used hused).2⟩

section

variable (h : CodesInv s (insert n rest))
include h

/-- The transaction of a task is not the one of another. -/
theorem CodesInv.other (hrest : ∀ m ∈ rest, m.index ≠ n.index) (htx : n.tx = some (x, d)) {m : Note}
    (hm : m ∈ rest) {y : ℕ} (hmtx : m.tx = some (y, d')) :
    y ≠ x := by
  rintro rfl
  exact hrest m hm (h.apart (.inr hm) (.inl rfl) hmtx htx)

/-- What one task may do to the codes, with what is kept of the others. -/
theorem CodesInv.move (hindex : n'.index = n.index) (hok : s'.Ok) (hgrows : s.Grows s')
    (hnext : s.next ≤ s'.next)
    (hdrafts : ∀ m ∈ rest, ∀ {x d d'}, m.tx = some (x, d) → s'.drafts.get? x = some d' →
      s.drafts.get? x = some d') (hvalid : n'.Valid s')
    (htx : ∀ {x d}, n'.tx = some (x, d) → (∃ d', n.tx = some (x, d')) ∨ x = s.next)
    (hissued : ∀ {entry}, n.issued = some entry → n'.issued = some entry)
    (hnew : ∀ {hash row}, s'.codes.get? hash = some row → s.codes.get? hash = none → n'.issued =
      some (hash, row.asIssued))
    (hused : ∀ {hash row}, n'.used = some (hash, row) → n.used = some (hash, row) ∨ s.codes.get?
      hash = some row.asIssued) :
    CodesInv s' (insert n' rest) := by
  have hapart : ∀ {m x d d'}, m ∈ rest → m.tx = some (x, d) → n'.tx = some (x, d') →
      m.index = n'.index := by
    intro m x d d' hm hmtx hntx
    rw [hindex]
    rcases htx hntx with ⟨d₀, hold⟩ | rfl
    · exact h.apart (.inr hm) (.inl rfl) hmtx hold
    · exact absurd ((h.valid m (.inr hm)).tx hmtx).1 (Nat.lt_irrefl _)
  have honce : ∀ {m hash row row'}, m ∈ rest → m.used = some (hash, row) →
      n'.used = some (hash, row') → m.index = n'.index := by
    intro m hash row row' hm hmused hnused
    rw [hindex]
    rcases hused hnused with hold | hunused
    · exact h.once (.inr hm) (.inl rfl) hmused hold
    · obtain ⟨hrow, hstamp⟩ := (h.valid m (.inr hm)).used hmused
      rw [hunused] at hrow
      cases hrow
      exact absurd rfl hstamp
  refine ⟨hok, ?_, ?_, ?_, ?_⟩
  · rintro m (rfl | hm)
    · exact hvalid
    · exact (h.valid m (.inr hm)).mono hgrows hnext (hdrafts m hm)
  · rintro m m' x d d' (rfl | hm) (rfl | hm') hmtx hmtx'
    · rfl
    · exact (hapart hm' hmtx' hmtx).symm
    · exact hapart hm hmtx hmtx'
    · exact h.apart (.inr hm) (.inr hm') hmtx hmtx'
  · rintro m m' hash row row' (rfl | hm) (rfl | hm') hmused hmused'
    · rfl
    · exact (honce hm' hmused' hmused).symm
    · exact honce hm hmused hmused'
    · exact h.once (.inr hm) (.inr hm') hmused hmused'
  · intro hash row hrow
    by_cases hold : s.codes.get? hash = none
    · exact ⟨n', .inl rfl, hnew hrow hold⟩
    · obtain ⟨row₀, hrow₀, heq⟩ := hgrows.origin hrow hold
      obtain ⟨m, hm | hm, hmissued⟩ := h.origin hrow₀
      · subst hm
        exact ⟨n', .inl rfl, by rw [← heq]; exact hissued hmissued⟩
      · exact ⟨m, .inr hm, by rw [← heq]; exact hmissued⟩

theorem CodesInv.keep (hok : s'.Ok) (hcodes : s'.codes = s.codes) (hnext : s.next ≤ s'.next)
    (hdrafts : ∀ m ∈ rest, ∀ {x d d'}, m.tx = some (x, d) → s'.drafts.get? x = some d' →
      s.drafts.get? x = some d') {tx : Option (ℕ × Draft)} (refused : Bool)
    (hvalid : ∀ {x d}, tx = some (x, d) → x < s'.next ∧ ∀ d', s'.drafts.get? x = some d' → d' = d)
    (htx : ∀ {x d}, tx = some (x, d) → (∃ d', n.tx = some (x, d')) ∨ x = s.next) :
    CodesInv s' (insert { n with tx, refused } rest) := by
  apply h.move
  · rfl
  · exact hok
  · exact .of_codes_eq hcodes
  · exact hnext
  · exact hdrafts
  · obtain ⟨-, hissued, hused⟩ := h.valid n (.inl rfl)
    refine ⟨hvalid, ?_, ?_⟩
    · rw [hcodes]
      exact hissued
    · rw [hcodes]
      exact hused
  · exact htx
  · exact id
  · intro hash row hrow hnone
    rw [hcodes, hnone] at hrow
    cases hrow
  · exact .inl

theorem CodesInv.same (hsame : s.Same s') : CodesInv s' (insert n rest) := by
  have hdrafts : ∀ {x d}, s'.drafts.get? x = some d → s.drafts.get? x = some d := by
    intro x d hd
    rwa [← hsame.drafts]
  refine h.keep (h.ok.shrink hsame.codes hsame.next hdrafts) hsame.codes hsame.next.ge
    (fun _ _ _ _ _ _ => hdrafts) n.refused ?_ fun htx => .inl ⟨_, htx⟩
  intro x d htx
  obtain ⟨hlt, heq⟩ := (h.valid n (.inl rfl)).tx htx
  exact ⟨hlt.trans_eq hsame.next.symm, fun d' hd' => heq d' (hdrafts hd')⟩

theorem CodesInv.begin :
    CodesInv { s with next := s.next + 1, drafts := s.drafts.insert s.next .empty }
      (insert { n with tx := some (s.next, .empty) } rest) := by
  have hok : Db.Ok { s with next := s.next + 1, drafts := s.drafts.insert s.next .empty } :=
    h.ok.insertDraft rfl rfl (Nat.le_succ _) (Nat.lt_succ_self _) nofun
  refine h.keep hok rfl (Nat.le_succ _) ?_ n.refused ?_ ?_
  · intro m hm x d d' hmtx hd'
    have hne : x ≠ s.next := ((h.valid m (.inr hm)).tx hmtx).1.ne
    rwa [get?_insert_of_ne _ hne] at hd'
  · rintro _ _ ⟨⟩
    refine ⟨Nat.lt_succ_self _, fun d' hd' => ?_⟩
    rw [get?_insert_self] at hd'
    exact (some.inj hd').symm
  · rintro _ _ ⟨⟩
    exact .inr rfl

theorem CodesInv.write (hrest : ∀ m ∈ rest, m.index ≠ n.index) (htx : n.tx = some (x, d))
    (hwrites : s.Writes x d d' s') (hok : s'.Ok) :
    CodesInv s' (insert { n with tx := some (x, d') } rest) := by
  obtain ⟨hd, rfl⟩ := hwrites
  refine h.keep hok rfl le_rfl ?_ n.refused ?_ ?_
  · intro m hm y d₀ d₁ hmtx hd₁
    rwa [get?_insert_of_ne _ (h.other hrest htx hm hmtx)] at hd₁
  · rintro _ _ ⟨⟩
    refine ⟨((h.valid n (.inl rfl)).tx htx).1, fun d₀ hd₀ => ?_⟩
    rw [get?_insert_self] at hd₀
    exact (some.inj hd₀).symm
  · rintro _ _ ⟨⟩
    exact .inl ⟨d, htx⟩

theorem CodesInv.close (x : ℕ) (refused : Bool) :
    CodesInv (s.close x) (insert { n with refused } rest) := by
  refine h.keep (h.ok.close x) rfl le_rfl (fun _ _ _ _ _ _ hd => (get?_close hd).1) refused ?_
    fun htx => .inl ⟨_, htx⟩
  intro y d htx
  obtain ⟨hlt, heq⟩ := (h.valid n (.inl rfl)).tx htx
  exact ⟨hlt, fun d' hd' => heq d' (get?_close hd').1⟩

end

variable {hash : String} {row : CodeRow}

theorem CodesInv.issue (h : CodesInv s (insert n rest)) (hnone : s.codes.get? hash = none)
    (hissued : n.issued = none) (hrow : row.usedAt = none) :
    CodesInv { s with codes := s.codes.insert hash row }
      (insert { n with issued := some (hash, row) } rest) := by
  have hgrows : s.Grows { s with codes := s.codes.insert hash row } := .of_insert rfl (.inl hnone)
  have hvalid := (h.valid n (.inl rfl)).mono hgrows le_rfl fun _ hd => hd
  apply h.move
  · rfl
  · refine h.ok.insertCode rfl rfl rfl fun y d row' hd hburned => ?_
    have hsome := h.ok.burned hd hburned
    rw [hnone] at hsome
    cases hsome
  · exact hgrows
  · exact le_rfl
  · exact fun _ _ _ _ _ _ hd => hd
  · refine ⟨hvalid.tx, ?_, hvalid.used⟩
    rintro _ _ ⟨⟩
    exact ⟨row, get?_insert_self .., asIssued_eq_self hrow⟩
  · exact fun htx => .inl ⟨_, htx⟩
  · intro entry hsome
    rw [hissued] at hsome
    cases hsome
  · intro hash' row' hget hold
    rcases get?_of_insert hget with ⟨rfl, rfl⟩ | ⟨-, hget⟩
    · rw [asIssued_eq_self hrow]
    · rw [hold] at hget
      cases hget
  · exact .inl

theorem CodesInv.stamp (h : CodesInv s (insert n rest)) (hok : s'.Ok)
    (hcodes : s'.codes = s.codes.insert hash row) (hnext : s'.next = s.next)
    (hdrafts : ∀ {y d}, s'.drafts.get? y = some d → s.drafts.get? y = some d)
    (hissued : s.codes.get? hash = some row.asIssued) (hrow : row.usedAt ≠ none) :
    CodesInv s' (insert { n with used := some (hash, row) } rest) := by
  have hgrows : s.Grows s' := .of_insert hcodes (.inr hissued)
  have hvalid := (h.valid n (.inl rfl)).mono hgrows hnext.ge fun _ => hdrafts
  apply h.move
  · rfl
  · exact hok
  · exact hgrows
  · exact hnext.ge
  · exact fun _ _ _ _ _ _ => hdrafts
  · refine ⟨hvalid.tx, hvalid.issued, ?_⟩
    rintro _ _ ⟨⟩
    exact ⟨by rw [hcodes, get?_insert_self], hrow⟩
  · exact fun htx => .inl ⟨_, htx⟩
  · exact id
  · intro hash' row' hget hnone
    rw [hcodes] at hget
    rcases get?_of_insert hget with ⟨rfl, -⟩ | ⟨-, hget⟩
    · rw [hnone] at hissued
      cases hissued
    · rw [hnone] at hget
      cases hget
  · rintro _ _ ⟨⟩
    exact .inr hissued

end

/-! ## The outline -/

/-- The row, as it is stamped, is one that the task may stamp. -/
def Task.Accepts (hashCode : String → String) (entry : String × CodeRow) : Task → Prop
  | .enroll code _ => entry.1 = hashCode code ∧ entry.2.purpose = .enrollment
  | .consumeCode code purpose =>
    entry.1 = hashCode code ∧ entry.2.purpose = purpose ∧ entry.2.tenantId = none
  | .issueSignupCode .. | .issueTenantCode _ => False

/-- The task stamps the row with the time that it has read, before the expiry. -/
def Stamps (task : Task) (log : List (plane config hashCode).Event) (entry : String × CodeRow) :
    Prop :=
  task.Accepts hashCode entry ∧
    ∃ now, ⟨.utcNow, now⟩ ∈ log ∧ entry.2.usedAt = some now ∧ now < entry.2.expiresAt

structure Draft.Fits (d : Draft) (task : Task) (log : List (plane config hashCode).Event) :
    Prop where
  burned : ∀ {entry}, d.burned = some entry → Stamps task log entry
  pending : ∀ {publicKey row}, d.pending = some (publicKey, row) →
    (∃ code, task = .enroll code publicKey) ∧
      ∃ entry, d.burned = some entry ∧ ∀ id, entry.2.tenantId = some id → id = row.tenantId

/-- What is kept of a task is what it has done. -/
structure Note.Fits (n : Note) (task : Task) (log : List (plane config hashCode).Event) :
    Prop where
  issues : ∀ {hash row}, ⟨.issueCode hash row, .ok ()⟩ ∈ log → n.issued = some (hash, row)
  issued : ∀ {hash row}, n.issued = some (hash, row) →
    task.scope = some (row.tenantId, row.purpose) ∧
      ∃ code r, hash = hashCode code ∧ ⟨.generateCode, code⟩ ∈ log ∧ ⟨.issueCode hash row, r⟩ ∈ log
  draft : ∀ {x d}, n.tx = some (x, d) → d.Fits task log
  used : ∀ {entry}, n.used = some entry → Stamps task log entry

structure Note.Ends (n : Note) (log : List (plane config hashCode).Event) (pending : Option Call) :
    Prop where
  commits : ∀ {x}, pending = some (.commit x) → ∃ d, n.tx = some (x, d)
  rejected : Rejected log → ∀ {x}, pending = some (.rollback x) →
    ∃ d entry, n.tx = some (x, d) ∧ d.burned = some entry
  refused : n.refused = true → ∃ x, log.getLast? = some ⟨.rollback x, .ok ()⟩

variable (config hashCode) in
def stamping : Outline (plane config hashCode) Note where
  Inv := CodesInv
  Sees i n task log pending := n.index = i ∧ n.Fits task log ∧ n.Ends log pending
  Permits _ n rest _ _ := ∀ m ∈ rest, m.index ≠ n.index

section

variable {task : Task} {log : List (plane config hashCode).Event} {n : Note}

theorem Stamps.append {entry : String × CodeRow} (h : Stamps task log entry)
    (e : (plane config hashCode).Event) : Stamps task (log ++ [e]) entry := by
  obtain ⟨haccepts, now, hnow, hstamp⟩ := h
  exact ⟨haccepts, now, mem_append_left _ hnow, hstamp⟩

theorem Draft.Fits.append {d : Draft} (h : d.Fits task log) (e : (plane config hashCode).Event) :
    d.Fits task (log ++ [e]) where
  burned hburned := (h.burned hburned).append e
  pending := h.pending

def Call.issues : Call → Bool
  | .issueCode .. => true
  | _ => false

theorem Note.Fits.append (h : n.Fits task log) {c : Call} (hc : c.issues = false) (r : c.Resp) :
    n.Fits task (log ++ [⟨c, r⟩]) where
  issues hmem := by
    rcases mem_append.mp hmem with hold | hnew
    · exact h.issues hold
    · cases mem_singleton.mp hnew
      cases hc
  issued hissued := by
    obtain ⟨hscope, code, r', hhash, hcode, hinsert⟩ := h.issued hissued
    exact ⟨hscope, code, r', hhash, mem_append_left _ hcode, mem_append_left _ hinsert⟩
  draft htx := (h.draft htx).append _
  used hused := (h.used hused).append _

theorem not_rejected_nil : ¬ Rejected ([] : List (plane config hashCode).Event) := by
  rintro ⟨_, _, _, hmem, -⟩
  cases hmem

def Call.asksTenant : Call → Bool
  | .tenantLive .. => true
  | _ => false

theorem not_rejected_append (h : ¬ Rejected log) {c : Call} (hc : c.asksTenant = false)
    (r : c.Resp) : ¬ Rejected (log ++ [⟨c, r⟩]) := by
  rintro ⟨x, id, live, hmem, hlive⟩
  rcases mem_append.mp hmem with hold | hnew
  · exact h ⟨x, id, live, hold, hlive⟩
  · cases mem_singleton.mp hnew
    cases hc

end

/-! ## Procedures -/

structure Finished (n : Note) (value : Except TenantsError Answer) : Prop where
  enrolled : ∀ tenantId, value = .ok (.enrolled tenantId) → ∃ entry, n.used = some entry ∧
    ∀ id, entry.2.tenantId = some id → id = tenantId
  consumed : ∀ email, value = .ok (.consumed (some email)) → ∃ entry, n.used = some entry
  refused : ∀ message, value = .error (.badCode message) → n.refused = true

structure Note.At (n : Note) (i : ℕ) (task : Task) (log : List (plane config hashCode).Event) :
    Prop where
  index : n.index = i
  refused : n.refused = false
  fits : n.Fits task log

section

variable {i : ℕ} {task : Task} {log : List (plane config hashCode).Event} {n : Note}

variable {c : Call} {email newTenantId : String} {purpose : CodePurpose}

theorem Note.At.append (h : n.At i task log) (hc : c.issues = false) (r : c.Resp) :
    n.At i task (log ++ [⟨c, r⟩]) :=
  ⟨h.index, h.refused, h.fits.append hc r⟩

def Call.ends : Call → Bool
  | .commit _ | .rollback _ => true
  | _ => false

/-- A task at work may perform a call if the end of its transaction finds that transaction. -/
theorem Note.At.sees_end {pending : Option Call} (h : n.At i task log)
    (hcommits : ∀ {x}, pending = some (.commit x) → ∃ d, n.tx = some (x, d))
    (hrejected : Rejected log → ∀ {x}, pending = some (.rollback x) →
      ∃ d entry, n.tx = some (x, d) ∧ d.burned = some entry) :
    (stamping config hashCode).Sees i n task log pending :=
  ⟨h.index, h.fits, hcommits, hrejected, fun hrefused => nomatch h.refused.symm.trans hrefused⟩

theorem Note.At.sees (h : n.At i task log) (hc : c.ends = false) :
    (stamping config hashCode).Sees i n task log (some c) := by
  refine h.sees_end ?_ ?_
  · rintro _ ⟨⟩
    cases hc
  · rintro - _ ⟨⟩
    cases hc

theorem Note.At.sees_none (h : n.At i task log) :
    (stamping config hashCode).Sees i n task log none :=
  h.sees_end nofun nofun

/-- A task that returns without having used a code or having been told that it is bad. -/
theorem Note.At.finishes (h : n.At i task log) {value : Except TenantsError Answer}
    (henrolled : ∀ tenantId, value ≠ .ok (.enrolled tenantId))
    (hconsumed : ∀ email, value ≠ .ok (.consumed (some email)))
    (hbadCode : ∀ message, value ≠ .error (.badCode message)) :
    (stamping config hashCode).Sees i n task log none ∧ Finished n value :=
  ⟨h.sees_none, fun id heq => absurd heq (henrolled id),
    fun email heq => absurd heq (hconsumed email), fun message heq => absurd heq (hbadCode message)⟩

theorem wp_quiet {Q : Note → List (plane config hashCode).Event → c.Resp → Prop}
    (hc : c.quiet = true) (h : n.At i task log)
    (hQ : ∀ r, n.At i task (log ++ [⟨c, r⟩]) → Q n (log ++ [⟨c, r⟩]) r) :
    (stamping config hashCode).Wp i task Q n log (ask c) := by
  have hends : c.ends = false := by
    cases c <;> first | rfl | cases hc
  have hissues : c.issues = false := by
    cases c <;> first | rfl | cases hc
  refine ⟨h.sees hends, fun s rest choice r s' hinv _ hexec => ?_⟩
  exact ⟨n, hinv.same (same_of_exec hc hexec), hQ r (h.append hissues r)⟩

theorem wp_orInternal {α : Type} {p : Proc (Except Failure α)}
    {Q : Note → List (plane config hashCode).Event → Except TenantsError α → Prop}
    (h : (stamping config hashCode).Wp i task
      (fun n log r => Q n log (r.mapError fun _ => TenantsError.internal)) n log p) :
    (stamping config hashCode).Wp i task Q n log (orInternal p).run :=
  bind h

/-- A task that issues a code is never told that a code is bad. -/
def IssuesAt (i : ℕ) (task : Task) {α : Type} (n : Note)
    (log : List (plane config hashCode).Event) (out : Except TenantsError α) : Prop :=
  n.At i task log ∧ ∀ message, out ≠ .error (.badCode message)

theorem IssuesAt.internal {α : Type} (h : n.At i task log) :
    IssuesAt i task n log (.error .internal : Except TenantsError α) :=
  ⟨h, nofun⟩

theorem wp_issueFresh {tenantId : Option String} (h : (Note.fresh i).At i task log)
    (hscope : task.scope = some (tenantId, purpose)) :
    (stamping config hashCode).Wp i task (IssuesAt i task) (.fresh i) log
      (issueFresh hashCode email tenantId purpose).run := by
  apply exceptLift
  apply wp_quiet rfl h
  intro code h
  apply exceptLift
  apply wp_quiet rfl h
  intro now h
  apply exceptBind
  apply wp_orInternal
  refine ⟨h.sees rfl, fun s rest choice r s' hinv _ hexec => ?_⟩
  -- The row is there if the insert succeeds, and may be there if it fails.
  have hfits : ∀ r, Note.Fits { Note.fresh i with issued := some (hashCode code,
      ⟨email, tenantId, purpose, now + codeTtlSecs, none⟩) } task (((log ++
        [⟨.generateCode, code⟩]) ++ [⟨.utcNow, now⟩]) ++ [⟨.issueCode (hashCode code)
          ⟨email, tenantId, purpose, now + codeTtlSecs, none⟩, r⟩]) := by
    intro r
    refine ⟨?_, ?_, nofun, nofun⟩
    · intro hash row hmem
      rcases mem_append.mp hmem with hold | hnew
      · cases h.fits.issues hold
      · cases mem_singleton.mp hnew
        rfl
    · rintro _ _ ⟨⟩
      exact ⟨hscope, code, r, rfl, by simp, by simp⟩
  rcases exec_issueCode hexec with ⟨⟨e, rfl⟩, rfl⟩ | ⟨hnone, rfl⟩
  · refine ⟨_, hinv, IssuesAt.internal ⟨rfl, rfl, ?_⟩⟩
    refine ⟨?_, nofun, nofun, nofun⟩
    intro hash row hmem
    rcases mem_append.mp hmem with hold | hnew
    · exact h.fits.issues hold
    · cases mem_singleton.mp hnew
  · refine ⟨_, hinv.issue hnone rfl rfl, ?_⟩
    have hat : Note.At _ i task _ := ⟨rfl, rfl, hfits r⟩
    cases r with
    | error e => exact IssuesAt.internal hat
    | ok _ =>
      apply exceptBind
      apply wp_orInternal
      apply wp_quiet rfl hat
      intro r hat
      cases r with
      | error e => exact IssuesAt.internal hat
      | ok _ => exact ⟨hat, nofun⟩

theorem fits_fresh : (Note.fresh i).Fits task ([] : List (plane config hashCode).Event) :=
  ⟨nofun, nofun, nofun, nofun⟩

theorem at_fresh : (Note.fresh i).At i task ([] : List (plane config hashCode).Event) :=
  ⟨rfl, rfl, fits_fresh⟩

theorem follows_issue {p : ExceptT TenantsError Proc String}
    (h : (stamping config hashCode).Wp i task (IssuesAt i task) (.fresh i) [] p.run) :
    (stamping config hashCode).Follows Finished i (.fresh i) ⟨task, [], answer .code p⟩ := by
  apply Wp.bind
  apply h.mono
  rintro n log out ⟨hat, hout⟩
  cases out with
  | ok code => exact hat.finishes nofun nofun nofun
  | error e =>
    refine hat.finishes nofun nofun fun message heq => hout message ?_
    cases heq
    rfl

theorem follows_issueSignupCode {remoteIp : String} :
    (stamping config hashCode).Follows Finished i (.fresh i)
      ⟨.issueSignupCode email remoteIp purpose, [],
        answer .code (issueSignupCode config hashCode email remoteIp purpose)⟩ := by
  apply follows_issue
  apply exceptBind
  have hnormalize : ∀ message, normalizeEmail config email ≠ .error (.badCode message) := by
    intro message
    unfold normalizeEmail
    dsimp only
    split
    · rintro ⟨⟩
    · rintro ⟨⟩
  cases hemail : normalizeEmail config email with
  | error e =>
    refine ⟨at_fresh, fun message heq => hnormalize message ?_⟩
    rw [hemail, heq]
  | ok email =>
    apply exceptLift
    apply wp_quiet rfl at_fresh
    intro now h
    apply exceptBind
    apply wp_orInternal
    apply wp_quiet rfl h
    intro r h
    cases r with
    | error e => exact IssuesAt.internal h
    | ok count =>
      dsimp only [Except.mapError]
      split
      · exact ⟨h, nofun⟩
      · apply exceptLift
        apply wp_quiet rfl h
        intro createdAt h
        apply exceptBind
        apply wp_orInternal
        apply wp_quiet rfl h
        intro r h
        cases r with
        | error e => exact IssuesAt.internal h
        | ok _ => exact wp_issueFresh h rfl

theorem follows_issueTenantCode {tenantId : String} :
    (stamping config hashCode).Follows Finished i (.fresh i)
      ⟨.issueTenantCode tenantId, [], answer .code (issueTenantCode hashCode tenantId)⟩ := by
  apply follows_issue
  apply exceptBind
  apply wp_orInternal
  apply wp_quiet rfl at_fresh
  intro r h
  cases r with
  | error e => exact IssuesAt.internal h
  | ok found =>
    cases found with
    | none => exact ⟨h, nofun⟩
    | some tenant =>
      dsimp only [Except.mapError]
      split
      · exact ⟨h, nofun⟩
      · exact wp_issueFresh h rfl

/-- A row that is stamped was not stamped before. -/
theorem CodeRow.asIssued_stamp {row : CodeRow} {now : Int} (h : row.usable now = true) :
    CodeRow.asIssued { row with usedAt := some now } = row ∧ now < row.expiresAt := by
  simp only [usable, decide_eq_true_eq] at h
  refine ⟨?_, h.2⟩
  rw [asIssued, ← h.1]

theorem follows_consumeCode {code : String} :
    (stamping config hashCode).Follows Finished i (.fresh i)
      ⟨.consumeCode code purpose, [], answer .consumed (consumeCode hashCode code purpose)⟩ := by
  apply Wp.bind
  apply Wp.exceptLift
  apply wp_quiet rfl at_fresh
  intro now h
  apply wp_orInternal
  refine ⟨h.sees rfl, fun s rest choice r s' hinv _ hexec => ?_⟩
  have hat := h.append (c := .consumeCode (hashCode code) purpose now) rfl r
  rcases exec_consumeCode hexec with ⟨hr, rfl⟩ | ⟨row, hconsumes⟩
  · refine ⟨_, hinv, ?_⟩
    cases r with
    | error e => exact hat.finishes nofun nofun nofun
    | ok consumed =>
      refine hat.finishes nofun (fun email heq => hr email ?_) nofun
      cases heq
      rfl
  · obtain ⟨hrow, husable, hpurpose, htenant, hfree, hstate⟩ := hconsumes
    obtain ⟨hissued, hlt⟩ := asIssued_stamp husable
    have hcodes : s'.codes = s.codes.insert (hashCode code) { row with usedAt := some now } := by
      rw [hstate]
    have hdrafts : s'.drafts = s.drafts := by
      rw [hstate]
    have hnext : s'.next = s.next := by
      rw [hstate]
    have hok : s'.Ok := by
      refine hinv.ok.insertCode hcodes hnext hdrafts fun y d row' hd hburned => ?_
      have hburns := hfree y d hd
      simp [Draft.burns, hburned] at hburns
    refine ⟨_, hinv.stamp hok hcodes hnext (fun hd => by rwa [← hdrafts]) (by rwa [hissued])
      nofun, ?_⟩
    obtain ⟨-, -, hissues, hissued, hdraft, -⟩ := hat
    refine ⟨Note.At.sees_none ⟨rfl, rfl, hissues, hissued, hdraft, ?_⟩, ?_⟩
    · rintro _ ⟨⟩
      exact ⟨⟨rfl, hpurpose, htenant⟩, now, by simp, rfl, hlt⟩
    · cases r with
      | ok email => exact ⟨nofun, fun _ _ => ⟨_, rfl⟩, nofun⟩
      | error e => exact ⟨nofun, nofun, nofun⟩

/-! ## The transaction of an enroll -/

/-- How a transaction is left: it has stamped a row, it was given up, or it has failed. -/
structure Note.Leaves (n : Note) (i : ℕ) (task : Task) (log : List (plane config hashCode).Event)
    (out : Except Failure EnrollOutcome) : Prop where
  index : n.index = i
  fits : n.Fits task log
  enrolled : ∀ tenantId created, out = .ok (.enrolled tenantId created) → n.refused = false ∧
    ∃ entry, n.used = some entry ∧ ∀ id, entry.2.tenantId = some id → id = tenantId
  badCode : out = .ok .badCode → n.refused = true ∧
    ∃ x, log.getLast? = some ⟨.rollback x, .ok ()⟩
  failed : ∀ e, out = .error e → n.refused = false

theorem Note.At.leaves (h : n.At i task log) (e : Failure) : n.Leaves i task log (.error e) :=
  ⟨h.index, h.fits, nofun, nofun, fun _ _ => h.refused⟩

theorem wp_reject {x : ℕ} (h : n.At i task log)
    (hrejected : Rejected log → ∃ d entry, n.tx = some (x, d) ∧ d.burned = some entry) :
    (stamping config hashCode).Wp i task (·.Leaves i task) n log
      (reject x).run := by
  apply exceptBind
  refine ⟨h.sees_end ?_ ?_, fun s rest choice r s' hinv _ hexec => ?_⟩
  · rintro _ ⟨⟩
  · rintro hlog _ ⟨⟩
    exact hrejected hlog
  have hat := h.append (c := .rollback x) rfl r
  obtain ⟨hstate, ⟨e, rfl⟩ | ⟨rfl, rfl, -⟩⟩ := exec_rollback hexec
  · refine ⟨n, ?_, hat.leaves e⟩
    rcases hstate with rfl | rfl
    · exact hinv
    · exact hinv.close x n.refused
  · refine ⟨_, hinv.close x true, ⟨hat.index, ?_, ?_, ?_, ?_⟩⟩
    · exact ⟨hat.fits.issues, hat.fits.issued, hat.fits.draft, hat.fits.used⟩
    · rintro _ _ ⟨⟩
    · exact fun _ => ⟨rfl, x, getLast?_concat⟩
    · rintro _ ⟨⟩

def Note.Burns (n : Note) (x : ℕ) (entry : String × CodeRow) : Prop :=
  ∃ d, n.tx = some (x, d) ∧ d.burned = some entry

theorem Note.At.setDraft (h : n.At i task log) (x : ℕ) {d : Draft} (hd : d.Fits task log) :
    Note.At { n with tx := some (x, d) } i task log := by
  refine ⟨h.index, h.refused, h.fits.issues, h.fits.issued, ?_, h.fits.used⟩
  rintro _ _ ⟨⟩
  exact hd

theorem wp_resolveTenant {x : ℕ} {entry : String × CodeRow} (h : n.At i task log)
    (hburns : n.Burns x entry) :
    (stamping config hashCode).Wp i task (fun n log out => n.At i task log ∧ n.Burns x entry ∧
        ∀ tenantId created, out = .ok (some (tenantId, created)) →
          ∀ id, entry.2.tenantId = some id → id = tenantId) n log
      (resolveTenant x newTenantId email entry.2.tenantId).run := by
  cases htenant : entry.2.tenantId with
  | some id =>
    apply exceptBind
    refine ⟨h.sees rfl, fun s rest choice r s' hinv _ hexec => ?_⟩
    obtain rfl := exec_tenantLive hexec
    refine ⟨n, hinv, ?_⟩
    have hat := h.append (c := .tenantLive x id) rfl r
    cases r with
    | error e => exact ⟨hat, hburns, nofun⟩
    | ok live =>
      refine ⟨hat, hburns, fun tenantId created heq => ?_⟩
      split at heq
      · cases heq
        rintro _ ⟨⟩
        rfl
      · cases heq
  | none =>
    apply exceptBind
    refine ⟨h.sees rfl, fun s rest choice r s' hinv hrest hexec => ?_⟩
    obtain ⟨d, htx, hburned⟩ := hburns
    have hat := h.append (c := .insertTenant x newTenantId email) rfl r
    have hstep : ∃ n', CodesInv s' (insert n' rest) ∧
        n'.At i task (log ++ [⟨.insertTenant x newTenantId email, r⟩]) ∧ n'.Burns x entry := by
      rcases exec_insertTenant hexec with rfl | ⟨d₀, hwrites⟩
      · exact ⟨n, hinv, hat, d, htx, hburned⟩
      · obtain rfl := ((hinv.valid n (.inl rfl)).tx htx).2 d₀ hwrites.1
        have hok := hinv.ok.write hwrites rfl
        have hdraft := hat.fits.draft htx
        exact ⟨_, hinv.write hrest htx hwrites hok, hat.setDraft x ⟨hdraft.burned, hdraft.pending⟩,
          _, rfl, hburned⟩
    obtain ⟨n', hinv', hat', hburns'⟩ := hstep
    refine ⟨n', hinv', ?_⟩
    cases r with
    | error e => exact ⟨hat', hburns', nofun⟩
    | ok inserted =>
      cases inserted with
      | some id => exact ⟨hat', hburns', nofun⟩
      | none =>
        apply exceptBind
        refine ⟨hat'.sees rfl, fun s rest choice r s' hinv _ hexec => ?_⟩
        obtain rfl := exec_selectTenant hexec
        refine ⟨n', hinv, ?_⟩
        have hat := hat'.append (c := .selectTenant x email) rfl r
        cases r with
        | error | ok => exact ⟨hat, hburns', nofun⟩

variable {x : ℕ} {entry : String × CodeRow} {code publicKey tenantId : String} {now : Int}

/-- The commit stamps the row that the transaction holds. -/
theorem wp_commit {created : Bool} (h : n.At i task log) (hburns : n.Burns x entry)
    (htenant : ∀ id, entry.2.tenantId = some id → id = tenantId) :
    (stamping config hashCode).Wp i task (·.Leaves i task) n log
      (attempt (ask (.commit x)) >>= fun _ => pure (.enrolled tenantId created)).run := by
  obtain ⟨d, htx, hburned⟩ := hburns
  apply exceptBind
  refine ⟨h.sees_end ?_ ?_, fun s rest choice r s' hinv _ hexec => ?_⟩
  · rintro _ ⟨⟩
    exact ⟨d, htx⟩
  · rintro - _ ⟨⟩
  have hat := h.append (c := .commit x) rfl r
  rcases exec_commit hexec with ⟨⟨e, rfl⟩, rfl⟩ | ⟨d', hd', rfl⟩
  · exact ⟨n, hinv, hat.leaves e⟩
  obtain rfl := ((hinv.valid n (.inl rfl)).tx htx).2 d' hd'
  have hstamps := (h.fits.draft htx).burned hburned
  have hused : entry.2.usedAt ≠ none := by
    obtain ⟨-, now, -, hstamp, -⟩ := hstamps
    rw [hstamp]
    exact some_ne_none now
  refine ⟨_, hinv.stamp (hinv.ok.commit hd') (codes_commit hburned) rfl
    (fun hd => (get?_close hd).1) (hinv.ok.burned hd' hburned) hused, ?_⟩
  have hat' : Note.At { n with used := some entry } i task (log ++ [⟨.commit x, r⟩]) := by
    refine ⟨hat.index, hat.refused, hat.fits.issues, hat.fits.issued, hat.fits.draft, ?_⟩
    rintro _ ⟨⟩
    exact hstamps.append _
  cases r with
  | error e => exact hat'.leaves e
  | ok _ =>
    refine ⟨hat'.index, hat'.fits, ?_, nofun, nofun⟩
    rintro _ _ ⟨⟩
    exact ⟨hat'.refused, entry, rfl, htenant⟩

theorem wp_bind {created : Bool} {expiresAt : Int} (htask : task = .enroll code publicKey)
    (h : n.At i task log) (hburns : n.Burns x entry)
    (htenant : ∀ id, entry.2.tenantId = some id → id = tenantId) :
    (stamping config hashCode).Wp i task (·.Leaves i task) n log
      (attempt (ask (.upsertPending x publicKey ⟨tenantId, expiresAt⟩)) >>= fun _ =>
        attempt (ask (.commit x)) >>= fun _ => pure (.enrolled tenantId created)).run := by
  obtain ⟨d, htx, hburned⟩ := hburns
  apply exceptBind
  refine ⟨h.sees rfl, fun s rest choice r s' hinv hrest hexec => ?_⟩
  have hat := h.append (c := .upsertPending x publicKey ⟨tenantId, expiresAt⟩) rfl r
  rcases exec_upsertPending hexec with ⟨⟨e, rfl⟩, rfl⟩ | ⟨d', hwrites⟩
  · exact ⟨n, hinv, hat.leaves e⟩
  obtain rfl := ((hinv.valid n (.inl rfl)).tx htx).2 d' hwrites.1
  have hok := hinv.ok.write hwrites rfl
  refine ⟨_, hinv.write hrest htx hwrites hok, ?_⟩
  have hdraft : Draft.Fits { d' with pending := some (publicKey, ⟨tenantId, expiresAt⟩) } task
      (log ++ [⟨.upsertPending x publicKey ⟨tenantId, expiresAt⟩, r⟩]) := by
    refine ⟨(hat.fits.draft htx).burned, ?_⟩
    rintro _ _ ⟨⟩
    exact ⟨⟨code, htask⟩, entry, hburned, htenant⟩
  have hat' := hat.setDraft x hdraft
  cases r with
  | error e => exact hat'.leaves e
  | ok _ => exact wp_commit hat' ⟨_, rfl, hburned⟩ htenant

/-- The saga stamps the row of its code, gives its transaction up, or fails. -/
theorem wp_saga (htask : task = .enroll code publicKey) (h : n.At i task log)
    (htx : n.tx = some (x, .empty)) (hnow : ⟨.utcNow, now⟩ ∈ log) (hlog : ¬ Rejected log) :
    (stamping config hashCode).Wp i task (·.Leaves i task) n log
      (saga x (hashCode code) publicKey newTenantId now).run := by
  apply exceptBind
  refine ⟨h.sees rfl, fun s rest choice r s' hinv hrest hexec => ?_⟩
  have hat := h.append (c := .burn x (hashCode code) now) rfl r
  rcases exec_burn hexec with ⟨⟨e, rfl⟩ | rfl, rfl⟩ |
    ⟨d, row, hrow, husable, hpurpose, hfree, rfl, hwrites⟩
  · exact ⟨n, hinv, hat.leaves e⟩
  · exact ⟨n, hinv, wp_reject hat fun hrejected =>
      absurd hrejected (not_rejected_append hlog rfl _)⟩
  obtain rfl := ((hinv.valid n (.inl rfl)).tx htx).2 d hwrites.1
  obtain ⟨hissued, hlt⟩ := asIssued_stamp husable
  have hok : s'.Ok := by
    obtain ⟨hd, rfl⟩ := hwrites
    refine hinv.ok.insertDraft rfl rfl le_rfl (hinv.ok.lt hd) ?_
    rintro _ _ ⟨⟩
    refine ⟨by rwa [hissued], fun hd hne hburned => ?_⟩
    have hburns := hfree _ _ hd hne
    simp [Draft.burns, hburned] at hburns
  refine ⟨_, hinv.write hrest htx hwrites hok, ?_⟩
  have hdraft : Draft.Fits ⟨some (hashCode code, { row with usedAt := some now }), none, none⟩ task
      (log ++ [⟨.burn x (hashCode code) now, .ok (some (row.email, row.tenantId))⟩]) := by
    refine ⟨?_, nofun⟩
    rintro _ ⟨⟩
    refine ⟨?_, now, mem_append_left _ hnow, rfl, hlt⟩
    rw [htask]
    exact ⟨rfl, hpurpose⟩
  apply exceptBind
  apply (wp_resolveTenant (hat.setDraft x hdraft) ⟨_, rfl, rfl⟩).mono
  rintro n log out ⟨hat, hburns, htenant⟩
  cases out with
  | error e => exact hat.leaves e
  | ok resolved =>
    cases resolved with
    | none =>
      refine wp_reject hat fun _ => ?_
      obtain ⟨d, htx, hburned⟩ := hburns
      exact ⟨d, _, htx, hburned⟩
    | some found => exact wp_bind htask hat hburns (htenant found.1 found.2 rfl)

theorem wp_runSaga (htask : task = .enroll code publicKey) (h : (Note.fresh i).At i task log)
    (hnow : ⟨.utcNow, now⟩ ∈ log) (hlog : ¬ Rejected log) :
    (stamping config hashCode).Wp i task (·.Leaves i task) (.fresh i) log
      (runSaga (hashCode code) publicKey newTenantId now).run := by
  apply Wp.exceptBind
  refine ⟨h.sees rfl, fun s rest choice r s' hinv _ hexec => ?_⟩
  have hat := h.append (c := .begin) rfl r
  rcases exec_begin hexec with ⟨⟨e, rfl⟩, rfl⟩ | ⟨rfl, rfl⟩
  · exact ⟨_, hinv, hat.leaves e⟩
  refine ⟨_, hinv.begin, ?_⟩
  have hdraft : Draft.Fits .empty task (log ++ [⟨.begin, .ok s.next⟩]) :=
    ⟨nofun, nofun⟩
  apply Wp.bind
  apply (wp_saga htask (hat.setDraft s.next hdraft) rfl (mem_append_left _ hnow)
    (not_rejected_append hlog rfl _)).mono
  intro n log out hleaves
  cases out with
  | ok outcome => exact hleaves
  | error e =>
    have hat : n.At i task log := ⟨hleaves.index, hleaves.failed e rfl, hleaves.fits⟩
    refine ⟨hat.sees rfl, fun t rest choice r t' hinv _ hexec => ?_⟩
    obtain rfl := exec_drop hexec
    have hat' := hat.append (c := .drop s.next) rfl r
    exact ⟨n, hinv.close s.next n.refused, hat'.leaves e⟩

theorem follows_enroll : (stamping config hashCode).Follows Finished i (.fresh i)
      ⟨.enroll code publicKey, [], answer .enrolled (enroll hashCode code publicKey)⟩ := by
  apply Wp.bind
  unfold enroll
  dsimp only
  split
  · exact at_fresh.finishes nofun nofun nofun
  apply Wp.exceptLift
  apply wp_quiet rfl at_fresh
  intro newTenantId h
  apply Wp.exceptLift
  apply wp_quiet rfl h
  intro now h
  have hnil : ¬ Rejected ([] : List (plane config hashCode).Event) := not_rejected_nil
  have hlog := not_rejected_append (c := .utcNow)
    (not_rejected_append (c := .newUuid) hnil rfl newTenantId) rfl now
  apply Wp.exceptBind
  apply wp_orInternal
  apply (wp_runSaga rfl h (by simp) hlog).mono
  intro n log out hleaves
  cases out with
  | error e =>
    have hat : n.At i _ log := ⟨hleaves.index, hleaves.failed e rfl, hleaves.fits⟩
    exact hat.finishes nofun nofun nofun
  | ok outcome =>
    cases outcome with
    | badCode =>
      obtain ⟨hrefused, hlast⟩ := hleaves.badCode rfl
      exact ⟨⟨hleaves.index, hleaves.fits, nofun, nofun, fun _ => hlast⟩, nofun, nofun,
        fun _ _ => hrefused⟩
    | enrolled tenantId created =>
      obtain ⟨hrefused, hused⟩ := hleaves.enrolled tenantId created rfl
      have hat : n.At i _ log := ⟨hleaves.index, hrefused, hleaves.fits⟩
      have hdone : Finished n (.ok (.enrolled tenantId)) := by
        refine ⟨?_, nofun, nofun⟩
        rintro _ ⟨⟩
        exact hused
      cases created with
      | false => exact ⟨hat.sees_none, hdone⟩
      | true =>
        apply Wp.exceptLift
        apply wp_quiet rfl hat
        intro r hat
        exact ⟨hat.sees_none, hdone⟩

end

/-! ## Whole runs -/

theorem CodesInv.fresh {s : Db} {notes : Set Note} (h : CodesInv s notes) (i : ℕ) :
    CodesInv s (insert (.fresh i) notes) where
  ok := h.ok
  valid := by
    rintro n (rfl | hn)
    · exact ⟨nofun, nofun, nofun⟩
    · exact h.valid n hn
  apart := by
    rintro m n x d d' (rfl | hm) (rfl | hn) hmtx hntx
    · rfl
    · cases hmtx
    · cases hntx
    · exact h.apart hm hn hmtx hntx
  once := by
    rintro m n hash row row' (rfl | hm) (rfl | hn) hmused hnused
    · rfl
    · cases hmused
    · cases hnused
    · exact h.once hm hn hmused hnused
  origin hrow := by
    obtain ⟨n, hn, hissued⟩ := h.origin hrow
    exact ⟨n, .inr hn, hissued⟩

def Db.Start (s : Db) : Prop := s.codes = ∅ ∧ s.drafts = ∅

theorem Db.Start.inv {s : Db} (h : s.Start) : CodesInv s ∅ := by
  obtain ⟨hcodes, hdrafts⟩ := h
  have hclosed : ∀ {x d}, s.drafts.get? x ≠ some d := by
    rw [hdrafts]
    exact nofun
  refine ⟨⟨(absurd · hclosed), (absurd · hclosed), (absurd · hclosed)⟩, (fun _ hn => hn.elim),
    (fun hm => hm.elim), (fun hm => hm.elim), fun hrow => ?_⟩
  rw [hcodes] at hrow
  cases hrow

theorem CodesInv.env {s s' : Db} {notes : Set Note} (h : CodesInv s notes) {e : Env}
    (henv : e.apply s = some s') : CodesInv s' notes := by
  have hkeep : s'.codes = s.codes ∧ s'.next = s.next ∧
      ∀ {x d}, s'.drafts.get? x = some d → s.drafts.get? x = some d := by
    cases e with
    | deregister tenantId now =>
      cases henv
      exact ⟨rfl, rfl, id⟩
    | abort x =>
      cases henv
      exact ⟨rfl, rfl, fun hd => (get?_close hd).1⟩
  obtain ⟨hcodes, hnext, hdrafts⟩ := hkeep
  refine ⟨h.ok.shrink hcodes hnext hdrafts, fun n hn => ?_, h.apart, h.once, fun hrow => ?_⟩
  · exact (h.valid n hn).mono (.of_codes_eq hcodes) hnext.ge fun _ => hdrafts
  · rw [hcodes] at hrow
    exact h.origin hrow

theorem sound_stamping : (stamping config hashCode).Sound Finished fun _ _ => True where
  spawn cfg task notes _ hinv := by
    refine ⟨.fresh cfg.threads.length, ?_, hinv.fresh _⟩
    cases task with
    | issueSignupCode email remoteIp purpose => exact follows_issueSignupCode
    | issueTenantCode tenantId => exact follows_issueTenantCode
    | enroll code publicKey => exact follows_enroll
    | consumeCode code purpose => exact follows_consumeCode
  env cfg e s' notes _ hinv henv := CodesInv.env hinv henv
  permits cfg i choice th c next n rest _ _ _ hsees hothers := by
    intro m hm heq
    obtain ⟨j, th', -, hsees', hne⟩ := hothers m hm
    exact hne (hsees'.1.symm.trans (heq.trans hsees.1))

theorem Db.pending_of_inTransaction {α : Type} {s s' : Db} {x : ℕ} {r : Except Failure α}
    {statement : Draft → Option (Except Failure α × Draft)}
    (h : s.inTransaction x statement = some (r, s')) : s'.pending = s.pending := by
  rcases inTransaction_cases (e := .failed) (.inr h) with ⟨-, rfl⟩ | ⟨d, d', ⟨-, rfl⟩, -⟩
  · rfl
  · rfl

/-- Only a commit binds a daemon. -/
theorem Db.pending_of_exec {choice : Choice} {c : Call} {s s' : Db} {r : c.Resp}
    (hexec : Db.exec choice c s = some (r, s')) :
    s'.pending = s.pending ∨ ∃ x d publicKey row, c = .commit x ∧ s.drafts.get? x = some d ∧
      d.pending = some (publicKey, row) ∧ s'.pending = s.pending.insert publicKey row := by
  by_cases hc : c.quiet = true
  · exact .inl (same_of_exec hc hexec).pending
  rcases exec_cases hexec with ⟨-, rfl⟩ | ⟨r', hperform, -⟩
  · exact .inl rfl
  cases c with
  | burn | tenantLive | insertTenant | selectTenant | upsertPending =>
    exact .inl (pending_of_inTransaction hperform)
  | begin | drop =>
    cases hperform
    exact .inl rfl
  | issueCode =>
    rcases exec_issueCode hexec with ⟨-, rfl⟩ | ⟨-, rfl⟩
    · exact .inl rfl
    · exact .inl rfl
  | rollback =>
    obtain ⟨rfl | rfl, -⟩ := exec_rollback hexec
    · exact .inl rfl
    · exact .inl rfl
  | consumeCode =>
    rcases exec_consumeCode hexec with ⟨-, rfl⟩ | ⟨row, hconsumes⟩
    · exact .inl rfl
    · exact .inl (by rw [hconsumes.state_eq])
  | commit x =>
    rcases exec_commit hexec with ⟨-, rfl⟩ | ⟨d, hd, rfl⟩
    · exact .inl rfl
    · cases hpending : d.pending with
      | none =>
        refine .inl ?_
        simp [close, applyDraft, hpending]
      | some entry =>
        refine .inr ⟨x, d, entry.1, entry.2, rfl, hd, hpending, ?_⟩
        simp [close, applyDraft, hpending]
  | _ => exact absurd rfl hc

section

variable {i : ℕ} {n : Note} {th : (plane config hashCode).Thread} {code : String}

/-- A task that has used a code has stamped its row. -/
theorem exists_used (hfollows : (stamping config hashCode).Follows Finished i n th)
    (huses : Uses th code) : ∃ row, n.used = some (hashCode code, row) ∧
      UsedAsIssued th row.tenantId row.purpose row.expiresAt := by
  have hsees := hfollows.sees
  rcases huses with ⟨publicKey, tenantId, htask, hret⟩ | ⟨purpose, email, htask, hret⟩
  · obtain ⟨⟨hash, row⟩, hused, htenant⟩ := (hfollows.fin hret).enrolled tenantId rfl
    obtain ⟨haccepts, now, hnow, -, hlt⟩ := hsees.2.1.used hused
    rw [htask] at haccepts
    obtain ⟨rfl, hpurpose⟩ := haccepts
    refine ⟨row, hused, ⟨now, hnow, hlt⟩, fun _ _ _ => hpurpose, fun _ _ heq => ?_,
      fun id hid => ?_⟩
    · rw [htask] at heq
      cases heq
    · rw [hret, htenant id hid]
  · obtain ⟨⟨hash, row⟩, hused⟩ := (hfollows.fin hret).consumed email rfl
    obtain ⟨haccepts, now, hnow, -, hlt⟩ := hsees.2.1.used hused
    rw [htask] at haccepts
    obtain ⟨rfl, hpurpose, htenant⟩ := haccepts
    refine ⟨row, hused, ⟨now, hnow, hlt⟩, fun _ _ heq => ?_, fun _ _ heq => ?_, fun id hid => ?_⟩
    · rw [htask] at heq
      cases heq
    · rw [htask] at heq
      cases heq
      exact ⟨hpurpose, htenant⟩
    · rw [htenant] at hid
      cases hid

/-- A task that was told that it has issued a code has issued it. -/
theorem exists_issued (hfollows : (stamping config hashCode).Follows Finished i n th)
    {tenantId : Option String} {purpose : CodePurpose} {expiresAt : Int}
    (hissues : Issues th code tenantId purpose expiresAt (.ok ())) :
    ∃ row, n.issued = some (hashCode code, row) ∧ row.tenantId = tenantId ∧ row.purpose = purpose ∧
      row.expiresAt = expiresAt := by
  obtain ⟨hscope, -, row, hinsert, hexpires⟩ := hissues
  have hfits := hfollows.sees.2.1
  have hissued := hfits.issues hinsert
  obtain ⟨hscope', -⟩ := hfits.issued hissued
  rw [hscope] at hscope'
  cases hscope'
  exact ⟨row, hissued, rfl, rfl, hexpires⟩

end

section

variable {cfg cfg' : (plane config hashCode).Config} {note : ℕ → Note}

variable {th th' : (plane config hashCode).Thread} {code publicKey : String} {purpose : CodePurpose}
  {expiresAt : Int} {i : ℕ}

section

variable (hnote : (stamping config hashCode).Annotates Finished note cfg)
include hnote

theorem valid_note (hth : cfg.threads[i]? = some th) : (note i).Valid cfg.state :=
  hnote.2.valid _ ⟨i, (List.getElem?_eq_some_iff.mp hth).1, rfl⟩

/-- The row of a code that was issued is as it was issued. -/
theorem issued_row {j : ℕ} (hth' : cfg.threads[j]? = some th') {tenantId : Option String}
    (hissues : Issues th' code tenantId purpose expiresAt (.ok ())) {row : CodeRow}
    (hrow : cfg.state.codes.get? (hashCode code) = some row) :
    row.tenantId = tenantId ∧ row.purpose = purpose ∧ row.expiresAt = expiresAt := by
  obtain ⟨row₀, hissued, htenant, hpurpose, hexpires⟩ := exists_issued (hnote.1 j th' hth') hissues
  obtain ⟨row', hrow', rfl⟩ := (valid_note hnote hth').issued hissued
  obtain rfl := some.inj (hrow'.symm.trans hrow)
  exact ⟨htenant, hpurpose, hexpires⟩

theorem binds_of_annotates {e : (plane config hashCode).Event}
    (hperforms : cfg.Performs i th e cfg') {id : String} (htask : th.task = .enroll code publicKey)
    (hth' : th' ∈ cfg.threads) (hissues : Issues th' code (some id) purpose expiresAt (.ok ())) :
    cfg'.state.pending = cfg.state.pending ∨
      ∃ expiresAt', cfg'.state.pending = cfg.state.pending.insert publicKey ⟨id, expiresAt'⟩ := by
  obtain ⟨choice, next, hth, hprog, hexec, -⟩ := hperforms
  obtain ⟨j, hj, rfl⟩ := mem_iff_getElem.mp hth'
  rcases pending_of_exec hexec with hsame | ⟨x, d, publicKey', row, hcall, hd, hpending, hinsert⟩
  · exact .inl hsame
  obtain ⟨-, hfits, hends⟩ := (hnote.1 i th hth).sees
  obtain ⟨d', htx⟩ := hends.commits (x := x) (by rw [World.Thread.pending, hprog, ← hcall])
  obtain rfl := ((valid_note hnote hth).tx htx).2 d hd
  obtain ⟨⟨code', htask'⟩, entry, hburned, htenant⟩ := (hfits.draft htx).pending hpending
  rw [htask] at htask'
  cases htask'
  obtain ⟨haccepts, -⟩ := (hfits.draft htx).burned hburned
  rw [htask] at haccepts
  have hrow := hnote.2.ok.burned hd hburned
  rw [haccepts.1] at hrow
  obtain ⟨hid, -⟩ := issued_row hnote (List.getElem?_eq_some_iff.mpr ⟨hj, rfl⟩) hissues hrow
  refine .inr ⟨row.expiresAt, ?_⟩
  rw [hinsert, htenant id hid]

theorem unused_of_annotates {x : ℕ} (hperforms : cfg.Performs i th ⟨.rollback x, .ok ()⟩ cfg')
    (htask : th.task = .enroll code publicKey) (hrejected : Rejected th.log) :
    cfg'.state.Unused (hashCode code) := by
  obtain ⟨choice, next, hth, hprog, hexec, -⟩ := hperforms
  obtain ⟨-, hfits, hends⟩ := (hnote.1 i th hth).sees
  obtain ⟨d, entry, htx, hburned⟩ := hends.rejected hrejected (x := x) (by
    rw [World.Thread.pending, hprog])
  obtain ⟨haccepts, -⟩ := (hfits.draft htx).burned hburned
  rw [htask] at haccepts
  obtain ⟨-, ⟨e, he⟩ | ⟨-, hclose, d', hd'⟩⟩ := exec_rollback hexec
  · cases he
  obtain rfl := ((valid_note hnote hth).tx htx).2 d' hd'
  have hrow := hnote.2.ok.burned hd' hburned
  rw [hclose, ← haccepts.1]
  refine ⟨⟨entry.2.asIssued, hrow, rfl⟩, fun y d'' hd'' => ?_⟩
  obtain ⟨hold, hne⟩ := get?_close hd''
  by_contra hburns
  obtain ⟨⟨hash, row⟩, hburned', heq⟩ := (any_eq_true _ _).mp (Bool.not_eq_false _ ▸ hburns)
  obtain rfl : hash = entry.1 := by simpa using heq
  exact hne (hnote.2.ok.locked hold hd' hburned' hburned)

end

end

/-- Over every interleaving, each code is used at most once, before its expiry, by the flow of
its purpose and for its tenant only; an enroll that is turned away leaves it unused. -/
theorem codes_single_use (hinjective : Function.Injective hashCode) {s : Db} (hstart : s.Start)
    {acts : List (plane config hashCode).Action} {cfg : (plane config hashCode).Config}
    (hrun : (plane config hashCode).system.run (.start s) acts = some cfg) : SingleUse cfg := by
  have : Inhabited Note := ⟨.fresh 0⟩
  have hannotated : ∀ {acts cfg}, (plane config hashCode).system.run (.start s) acts = some cfg →
      ∃ note, (stamping config hashCode).Annotates Finished note cfg := fun hrun =>
    sound_stamping.run (annotates_start hstart.inv)
      (System.along_of_forall_mem _ fun _ _ _ => trivial) hrun
  obtain ⟨note, hnote⟩ := hannotated hrun
  have hmem : ∀ {i th}, cfg.threads[i]? = some th →
      note i ∈ {n | ∃ j < cfg.threads.length, note j = n} := fun hth =>
    ⟨_, (List.getElem?_eq_some_iff.mp hth).1, rfl⟩
  refine ⟨?_, ?_, ?_, ?_, ?_⟩
  · intro i j th th' code hth hth' huses huses'
    obtain ⟨row, hused, -⟩ := exists_used (hnote.1 i th hth) huses
    obtain ⟨row', hused', -⟩ := exists_used (hnote.1 j th' hth') huses'
    have hindex := hnote.2.once (hmem hth) (hmem hth') hused hused'
    rw [(hnote.1 i th hth).sees.1, (hnote.1 j th' hth').sees.1] at hindex
    exact hindex
  · intro th th' code tenantId purpose expiresAt hth hth' hissues huses
    obtain ⟨i, hi⟩ := List.mem_iff_getElem?.mp hth
    obtain ⟨j, hj⟩ := List.mem_iff_getElem?.mp hth'
    obtain ⟨row, hused, has⟩ := exists_used (hnote.1 i th hi) huses
    have hrow := ((valid_note hnote hi).used hused).1
    obtain ⟨rfl, rfl, rfl⟩ := issued_row hnote hj hissues hrow
    exact has
  · intro th code hth huses
    obtain ⟨i, hi⟩ := List.mem_iff_getElem?.mp hth
    obtain ⟨row, hused, has⟩ := exists_used (hnote.1 i th hi) huses
    obtain ⟨m, ⟨j, hj, rfl⟩, hissued⟩ := hnote.2.origin ((valid_note hnote hi).used hused).1
    have hfits := (hnote.1 j _ (List.getElem?_eq_some_iff.mpr ⟨hj, rfl⟩)).sees.2.1
    obtain ⟨hscope, code', r, hhash, hdrawn, hinsert⟩ := hfits.issued hissued
    obtain rfl := hinjective hhash
    exact ⟨_, List.getElem_mem hj, row.tenantId, row.purpose, row.expiresAt, r,
      ⟨hscope, hdrawn, _, hinsert, rfl⟩, has⟩
  · intro i th e cfg' th' code publicKey id purpose expiresAt hperforms htask hth' hissues
    exact binds_of_annotates hnote hperforms htask hth' hissues
  · intro i th e cfg' th' code publicKey message hperforms hth' htask hrejected hret
    obtain ⟨choice, hstep⟩ := hperforms.step
    have hrun' : (plane config hashCode).system.run (.start s) (acts ++ [.step i choice]) =
        some cfg' := (System.run_concat_eq_some _).mpr ⟨cfg, hrun, hstep⟩
    obtain ⟨note', hnote'⟩ := hannotated hrun'
    have hfollows := hnote'.1 i th' hth'
    obtain ⟨x, hlast⟩ := hfollows.sees.2.2.refused ((hfollows.fin hret).refused message rfl)
    obtain ⟨choice', next, hth, hprog, hexec, hthreads⟩ := id hperforms
    have hi : i < cfg.threads.length := (List.getElem?_eq_some_iff.mp hth).1
    rw [hthreads, List.getElem?_set_self hi] at hth'
    cases hth'
    rw [List.getLast?_concat] at hlast
    cases hlast
    refine unused_of_annotates hnote hperforms htask ?_
    by_contra hnot
    exact not_rejected_append hnot (c := .rollback x) rfl (.ok ()) hrejected

def sampleDb : Db :=
  ⟨(TenantTable.empty.create "tenant-1" "ada@example.org").elim .empty Prod.snd, ∅, ∅, [], 0, ∅⟩

def samplePublicKey : String := String.ofList (replicate 43 'A' ++ ['='])

def sampleCalls (i n : ℕ) (now : Int) : List (plane Authority.sampleConfig id).Action :=
  replicate n (.step i ⟨now, "ADA222", false, false⟩)

def sampleUse : List (plane Authority.sampleConfig id).Action :=
  .spawn (.issueTenantCode "tenant-1") :: sampleCalls 0 5 0 ++
    .spawn (.enroll "ADA222" samplePublicKey) :: sampleCalls 1 7 60 ++
    .spawn (.consumeCode "ADA222" .enrollment) :: sampleCalls 2 2 90

theorem codes_single_use_sample :
    (∃ th ∈ ((plane Authority.sampleConfig id).system.runD (.start sampleDb) sampleUse).threads,
      Uses th "ADA222") ∧
    SingleUse ((plane Authority.sampleConfig id).system.runD (.start sampleDb) sampleUse) :=
  ⟨⟨_, List.mem_of_getElem? (i := 1) rfl, .inl ⟨samplePublicKey, "tenant-1", rfl, rfl⟩⟩,
    codes_single_use Function.injective_id ⟨rfl, rfl⟩
      (System.run_eq_some_runD _ (by decide +kernel))⟩

end Wardnet.Enrollment
