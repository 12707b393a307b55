/-
# The life of a session

A session is created for a tenant and touched by each exchange, which moves its expiry 30 days
into the future. It ends when it is deleted, by its token or with all sessions of its tenant. The
history of a run tells whether an exchange succeeds: the session was created and not deleted
since, no two touches in a row are 30 days apart, and the tenant is not deregistered. The time of
a creation or a touch is what its task has read from the clock just before.
-/

import Mathlib.Data.List.Chain
import Wardnet.Base.History
import Wardnet.Identities.Effects

namespace Wardnet.Identities

open Base Tenants List Option
open Authority (Failure)

variable {setup : Setup}

/-! ## Sessions in a history -/

/-- What a task has read from the clock with its last call. -/
def clockReading : Option ((c : Call) × c.Resp) → Option Int
  | some ⟨.authority .utcNow, now⟩ => some now
  | _ => none

/-- A task that has just read the clock stores a session. -/
def sessionOpened (setup : Setup) (now : Int) (tokenHash : String) (session : Session) :
    (plane setup).Entry :=
  ⟨some ⟨.authority .utcNow, now⟩, ⟨.createSession tokenHash session, .ok ()⟩⟩

def touchedAt (tokenHash : String) (entry : (plane setup).Entry) : Option Int :=
  match entry.event with
  | ⟨.touchAndGetTenant hash _ _, .ok (some _)⟩ =>
    if hash = tokenHash then clockReading entry.last else none
  | _ => none

/-- The session is deleted, by its token or with all sessions of its tenant. -/
def deletes (tokenHash tenantId : String) : (plane setup).Event → Bool
  | ⟨.deleteSession hash, .ok _⟩ => hash = tokenHash
  | ⟨.authority (.deleteSessionsForTenant id), .ok _⟩ => id = tenantId
  | _ => false

/-- A session was created for the tenant and has not been deleted since. The times are those of
its creation and of its touches. -/
def Lives (tokenHash tenantId : String) (entries : List (plane setup).Entry) (times : List Int) :
    Prop :=
  ∃ before now session after,
    entries = before ++ sessionOpened setup now tokenHash session :: after ∧
    session.tenantId = tenantId ∧ (∀ e ∈ after, deletes tokenHash tenantId e.event = false) ∧
    times = now :: after.filterMap (touchedAt tokenHash)

/-- No two times in a row are 30 days apart. -/
def Fresh (times : List Int) : Prop := times.IsChain fun a b => b - a < sessionTtlSecs

variable {tokenHash tenantId : String} {entries : List (plane setup).Entry} {times : List Int}

theorem filterMap_concat {α β : Type} (f : α → Option β) (xs : List α) (x : α) :
    (xs ++ [x]).filterMap f = xs.filterMap f ++ (f x).toList := by
  cases hx : f x with
  | none | some => simp [hx]

/-- One more call either creates the session, or goes on with its life. -/
theorem lives_concat {e : (plane setup).Entry} : Lives tokenHash tenantId (entries ++ [e]) times ↔
      (∃ now session, e = sessionOpened setup now tokenHash session ∧
        session.tenantId = tenantId ∧ times = [now]) ∨
        ∃ before, Lives tokenHash tenantId entries before ∧
          deletes tokenHash tenantId e.event = false ∧
          times = before ++ (touchedAt tokenHash e).toList := by
  constructor
  · rintro ⟨before, now, session, after, hsplit, htenant, hkept, rfl⟩
    rcases eq_nil_or_concat after with rfl | ⟨after, e', rfl⟩
    · obtain ⟨rfl, heq⟩ := append_inj' hsplit rfl
      cases heq
      exact .inl ⟨now, session, rfl, htenant, rfl⟩
    · rw [concat_eq_append] at hsplit hkept
      have hsplit' : entries ++ [e] =
          (before ++ sessionOpened setup now tokenHash session :: after) ++ [e'] := by
        rw [hsplit]
        simp
      obtain ⟨rfl, heq⟩ := append_inj' hsplit' rfl
      cases heq
      refine .inr ⟨_, ⟨before, now, session, after, rfl, htenant,
        fun d hd => hkept d (mem_append_left _ hd), rfl⟩, hkept e (by simp), ?_⟩
      rw [concat_eq_append, filterMap_concat, cons_append]
  · rintro (⟨now, session, rfl, htenant, rfl⟩ |
      ⟨_, ⟨before, now, session, after, rfl, htenant, hkept, rfl⟩, he, rfl⟩)
    · exact ⟨entries, now, session, [], rfl, htenant, by simp, rfl⟩
    · refine ⟨before, now, session, after ++ [e], by simp, htenant, ?_, ?_⟩
      · intro d hd
        rcases mem_append.mp hd with hold | hnew
        · exact hkept d hold
        · rwa [mem_singleton.mp hnew]
      · rw [filterMap_concat, cons_append]

/-! ## What is stored -/

/-- The row under a token is what the history says, unless the tenant is closed for good. -/
structure Reflects (tokenHash : String) (entries : List (plane setup).Entry) (t : Tables) :
    Prop where
  lives : ∀ {row}, t.sessions.get? tokenHash = some row → ∃ times last,
    Lives tokenHash row.tenantId entries (times ++ [last]) ∧ Fresh (times ++ [last]) ∧
      row.expiresAt = last + sessionTtlSecs
  stored : ∀ {tenantId times}, Lives tokenHash tenantId entries times →
    Closed tenantId t.tenants ∨ ∃ row last, t.sessions.get? tokenHash = some row ∧
      row.tenantId = tenantId ∧ times.getLast? = some last ∧ row.expiresAt = last + sessionTtlSecs

/-- Creation and touch carry the time that the task has just read, and move the expiry to 30 days
from then. -/
def Call.Stamped (last : Option ((c : Call) × c.Resp)) : Call → Prop
  | .createSession _ session => last = some ⟨.authority .utcNow, session.createdAt⟩ ∧
      session.expiresAt = session.createdAt + sessionTtlSecs
  | .touchAndGetTenant _ now newExpiresAt => last = some ⟨.authority .utcNow, now⟩ ∧
      newExpiresAt = now + sessionTtlSecs
  | _ => True

section

variable {t t' : Tables} {e : (plane setup).Entry}

section

variable (h : Reflects tokenHash entries t)
include h

theorem Reflects.other (hsession : t'.sessions.get? tokenHash = t.sessions.get? tokenHash)
    (hclosed : ∀ tenantId, Closed tenantId t.tenants → Closed tenantId t'.tenants)
    (hcreated : ∀ now session, e ≠ sessionOpened setup now tokenHash session)
    (htouched : touchedAt tokenHash e = none)
    (hkept : ∀ row, t.sessions.get? tokenHash = some row →
      deletes tokenHash row.tenantId e.event = false) :
    Reflects tokenHash (entries ++ [e]) t' where
  lives {row} hrow := by
    rw [hsession] at hrow
    obtain ⟨times, last, hlives, hfresh, hexpires⟩ := h.lives hrow
    refine ⟨times, last, lives_concat.mpr (.inr ⟨_, hlives, hkept row hrow, ?_⟩), hfresh,
      hexpires⟩
    rw [htouched, toList_none, append_nil]
  stored {tenantId times} hlives := by
    rw [hsession]
    rcases lives_concat.mp hlives with ⟨now, session, rfl, -⟩ | ⟨before, hbefore, -, rfl⟩
    · exact absurd rfl (hcreated now session)
    · rw [htouched, toList_none, append_nil]
      exact (h.stored hbefore).imp_left (hclosed tenantId)

theorem Reflects.ends (hsession : t'.sessions.get? tokenHash = none)
    (hclosed : ∀ tenantId, Closed tenantId t.tenants → Closed tenantId t'.tenants)
    (hcreated : ∀ now session, e ≠ sessionOpened setup now tokenHash session)
    (hgone : ∀ row, t.sessions.get? tokenHash = some row →
      deletes tokenHash row.tenantId e.event = true ∨ Closed row.tenantId t'.tenants) :
    Reflects tokenHash (entries ++ [e]) t' where
  lives {row} hrow := by
    rw [hsession] at hrow
    cases hrow
  stored {tenantId times} hlives := by
    rcases lives_concat.mp hlives with ⟨now, session, rfl, -⟩ | ⟨before, hbefore, hkept, rfl⟩
    · exact absurd rfl (hcreated now session)
    · left
      rcases h.stored hbefore with hdone | ⟨row, last, hrow, rfl, -⟩
      · exact hclosed tenantId hdone
      · rcases hgone row hrow with hdeletes | hdone
        · rw [hkept] at hdeletes
          cases hdeletes
        · exact hdone

theorem Reflects.creates {session : Session} (hnew : t.sessions.get? tokenHash = none)
    (hexpires : session.expiresAt = session.createdAt + sessionTtlSecs)
    (hsession : t'.sessions.get? tokenHash = some session)
    (hclosed : ∀ tenantId, Closed tenantId t.tenants → Closed tenantId t'.tenants) :
    Reflects tokenHash (entries ++ [sessionOpened setup session.createdAt tokenHash session]) t'
    where
  lives {row} hrow := by
    obtain rfl := some.inj (hsession.symm.trans hrow)
    exact ⟨[], session.createdAt, lives_concat.mpr (.inl ⟨_, _, rfl, rfl, rfl⟩), .singleton _,
      hexpires⟩
  stored {tenantId times} hlives := by
    rcases lives_concat.mp hlives with ⟨now, session', heq, rfl, rfl⟩ | ⟨before, hbefore, -, -⟩
    · cases heq
      exact .inr ⟨session, session.createdAt, hsession, rfl, rfl, hexpires⟩
    · left
      rcases h.stored hbefore with hdone | ⟨row, -, hrow, -⟩
      · exact hclosed tenantId hdone
      · rw [hnew] at hrow
        cases hrow

theorem Reflects.touches {row : Session} {now : Int} (hrow : t.sessions.get? tokenHash = some row)
    (hnow : now < row.expiresAt)
    (hsession : t'.sessions.get? tokenHash = some { row with expiresAt := now + sessionTtlSecs })
    (hclosed : ∀ tenantId, Closed tenantId t.tenants → Closed tenantId t'.tenants) :
    Reflects tokenHash (entries ++ [⟨some ⟨.authority .utcNow, now⟩,
      ⟨.touchAndGetTenant tokenHash now (now + sessionTtlSecs), .ok (some row.tenantId)⟩⟩]) t'
    where
  lives {row'} hrow' := by
    obtain rfl := some.inj (hsession.symm.trans hrow')
    obtain ⟨times, last, hlives, hfresh, hexpires⟩ := h.lives hrow
    refine ⟨times ++ [last], now, lives_concat.mpr (.inr ⟨_, hlives, rfl, ?_⟩), ?_, rfl⟩
    · simp [touchedAt, clockReading]
    · refine isChain_append.mpr ⟨hfresh, .singleton _, ?_⟩
      intro a ha b hb
      simp only [getLast?_append, getLast?_singleton, some_or, mem_def,
        some.injEq, head?_cons] at ha hb
      omega
  stored {tenantId times} hlives := by
    rcases lives_concat.mp hlives with ⟨now, _, heq, -⟩ | ⟨before, hbefore, -, rfl⟩
    · cases heq
    · refine (h.stored hbefore).imp (hclosed tenantId) ?_
      rintro ⟨row', last, hrow', rfl, -, -⟩
      obtain rfl := some.inj (hrow.symm.trans hrow')
      exact ⟨_, now, hsession, rfl, by simp [touchedAt, clockReading], rfl⟩

end

end

/-- A call that leaves the accounts alone says nothing about a session. -/
theorem unrelated_of_quiet {last : Option ((c : Call) × c.Resp)} {c : Call} {r : c.Resp}
    (hquiet : c.quiet r = true) :
    (∀ now session, (⟨last, ⟨c, r⟩⟩ : (plane setup).Entry) ≠
        sessionOpened setup now tokenHash session) ∧
      touchedAt tokenHash (⟨last, ⟨c, r⟩⟩ : (plane setup).Entry) = none ∧
      ∀ tenantId, deletes tokenHash tenantId (⟨c, r⟩ : (plane setup).Event) = false := by
  refine ⟨?_, ?_, fun tenantId => ?_⟩
  · rintro now session ⟨⟩
    cases hquiet
  · unfold touchedAt
    split
    · rename_i heq
      cases heq
      cases hquiet
    · rfl
  · unfold deletes
    split
    · rename_i heq
      cases heq
      cases hquiet
    · rename_i heq
      cases heq
      cases hquiet
    · rfl

/-- Every call keeps the rows of sessions as the history says. -/
theorem Reflects.step {last : Option ((c : Call) × c.Resp)} {c : Call} {r : c.Resp}
    {t t' : Tables} (h : Reflects tokenHash entries t) (hstamped : c.Stamped last)
    (hchange : Change c r t t') : Reflects tokenHash (entries ++ [⟨last, ⟨c, r⟩⟩]) t' := by
  have hclosed : ∀ tenantId, Closed tenantId t.tenants → Closed tenantId t'.tenants :=
    fun _ hdone => hchange.closed hdone
  cases id hchange with
  | quiet hquiet =>
    obtain ⟨hcreated, htouched, hkept⟩ := @unrelated_of_quiet setup tokenHash last _ _ hquiet
    exact h.other rfl hclosed hcreated htouched fun row _ => hkept row.tenantId
  | sweep ids htombstoned =>
    have hsession := t.sessions.get?_retain (fun _ row => row.tenantId ∉ ids) tokenHash
    by_cases hswept : ∃ row, t.sessions.get? tokenHash = some row ∧ row.tenantId ∈ ids
    · obtain ⟨row, hrow, hmem⟩ := hswept
      refine h.ends (hsession.trans ?_) hclosed (by rintro _ _ ⟨⟩) fun row' hrow' => .inr ?_
      · simp [hrow, filter_some, hmem]
      · obtain rfl := some.inj (hrow.symm.trans hrow')
        obtain ⟨hsome, hdead⟩ := htombstoned _ hmem
        exact hclosed _ ⟨.inl hsome, hdead⟩
    · refine h.other ?_ hclosed (by rintro _ _ ⟨⟩) rfl fun _ _ => rfl
      refine hsession.trans ?_
      cases hrow : t.sessions.get? tokenHash with
      | none => rfl
      | some row =>
        have hkept : row.tenantId ∉ ids := fun hmem => hswept ⟨row, hrow, hmem⟩
        simp [filter_some, hkept]
  | deleteSessionsForTenant =>
    rename_i id n
    have hsession := t.sessions.get?_retain (fun _ row => !(row.tenantId = id)) tokenHash
    cases hrow : t.sessions.get? tokenHash with
    | none =>
      rw [hrow] at hsession
      refine h.other (hsession.trans hrow.symm) hclosed (by rintro _ _ ⟨⟩) rfl ?_
      intro row hrow'
      rw [hrow] at hrow'
      cases hrow'
    | some row =>
      rw [hrow] at hsession
      by_cases hsame : row.tenantId = id
      · refine h.ends (hsession.trans (by simp [filter_some, hsame])) hclosed
          (by rintro _ _ ⟨⟩) fun row' hrow' => .inl ?_
        obtain rfl := some.inj (hrow.symm.trans hrow')
        exact decide_eq_true hsame.symm
      · refine h.other (hsession.trans ?_) hclosed (by rintro _ _ ⟨⟩) rfl fun row' hrow' => ?_
        · rw [hrow]
          simp [filter_some, hsame]
        · obtain rfl := some.inj (hrow.symm.trans hrow')
          exact decide_eq_false (Ne.symm hsame)
  | createSession hnew hexists =>
    rename_i hash session
    by_cases hsame : hash = tokenHash
    · subst hsame
      obtain ⟨rfl, hexpires⟩ := hstamped
      exact h.creates hnew hexpires (Store.get?_insert_self ..) hclosed
    · refine h.other (Store.get?_insert_of_ne _ (Ne.symm hsame) _) hclosed ?_ rfl fun _ _ => rfl
      rintro _ _ ⟨⟩
      exact hsame rfl
  | touch hrow hnow hlive =>
    rename_i hash now newExpiresAt row
    obtain ⟨rfl, rfl⟩ := hstamped
    by_cases hsame : hash = tokenHash
    · subst hsame
      exact h.touches hrow hnow (Store.get?_insert_self ..) hclosed
    · exact h.other (Store.get?_insert_of_ne _ (Ne.symm hsame) _) hclosed (by rintro _ _ ⟨⟩)
        (if_neg hsame) fun _ _ => rfl
  | deleteSession =>
    rename_i hash found
    by_cases hsame : hash = tokenHash
    · subst hsame
      exact h.ends ((Store.get?_erase ..).trans (if_pos rfl)) hclosed (by rintro _ _ ⟨⟩)
        fun _ _ => .inl (decide_eq_true rfl)
    · exact h.other ((Store.get?_erase ..).trans (if_neg (Ne.symm hsame))) hclosed
        (by rintro _ _ ⟨⟩) rfl fun _ _ => decide_eq_false hsame
  | _ => exact h.other rfl hclosed (by rintro _ _ ⟨⟩) rfl fun _ _ => rfl

/-! ## Exchanges -/

/-- What an exchange returns when its touch is answered. -/
def exchangeAnswer (setup : Setup) (now : Int) :
    Except Failure (Option String) → Except IdentitiesError Answer
  | .ok (some tenantId) => .ok (.minted ((userSpec tenantId).claims now setup.userJwtTtlSecs))
  | .ok none => .error (.unauthorized "no active session")
  | .error _ => .error .internal

/-- An exchange reads the clock and touches the session. -/
theorem body_exchangeSession (setup : Setup) (rawToken : String) :
    Task.body setup (.exchangeSession rawToken) = .call (.authority .utcNow) fun now : Int =>
      .call (.touchAndGetTenant (setup.hashing.hashToken rawToken) now (now + sessionTtlSecs))
        fun r => .ret (exchangeAnswer setup now r) := by
  refine congrArg (Prog.call _) (funext fun now => congrArg (Prog.call _) (funext fun r => ?_))
  rcases r with _ | (_ | _) <;> rfl

theorem stamped_of_signsIn (last : Option ((c : Call) × c.Resp)) (c : Call) (h : c.SignsIn) :
    c.Stamped last := by
  cases c with
  | createSession | touchAndGetTenant => exact h.elim
  | _ => trivial

theorem stamped_createSession (hashing : Hashing) (tenantId : String)
    (last : Option ((c : Call) × c.Resp)) :
    (createSession hashing tenantId).run.AllAfter Call.Stamped last := by
  apply Prog.AllAfter.exceptBind stamped_of_signsIn
  · exact all_onTenants (Prog.All.exceptBind
      (Authority.all_orInternal ⟨trivial, fun _ => trivial⟩) fun _ => trivial)
  intro live last
  cases live with
  | false => trivial
  | true =>
    refine ⟨trivial, fun raw => ⟨trivial, fun now => ⟨⟨rfl, rfl⟩, fun r => ?_⟩⟩⟩
    cases r <;> trivial

/-- Every session is created and touched at the time that the task has read just before. -/
theorem stamped_body (setup : Setup) (task : Task) :
    (Task.body setup task).AllAfter Call.Stamped none := by
  have hopen := stamped_createSession setup.hashing
  have hone : ∀ {α : Type} {p : Service α} {f : α → Answer},
      (p.run.All fun c => ∀ last, c.Stamped last) → (answer f p).AllAfter Call.Stamped none :=
    fun hall => (hall.after fun last _ h => h last).bind fun _ _ => trivial
  have hok : ∀ c : Call, c.SignsIn → ∀ last, c.Stamped last :=
    fun c h last => stamped_of_signsIn last c h
  cases task with
  | passwordSignup =>
    exact (after_passwordSignup stamped_of_signsIn hopen ..).bind fun _ _ => trivial
  | passwordLogin =>
    exact (after_passwordLogin stamped_of_signsIn hopen ..).bind fun _ _ => trivial
  | setPasswordAuthenticated =>
    exact (after_setPasswordAuthenticated stamped_of_signsIn hopen _ _ _
      fun _ _ _ _ => trivial).bind fun _ _ => trivial
  | oidcCallback =>
    exact (after_oidcCallback stamped_of_signsIn hopen ..).bind fun _ _ => trivial
  | passwordReset =>
    exact hone (all_passwordReset hok _ _ _ fun _ _ _ _ => trivial)
  | resolveIdentity => exact hone (all_resolveIdentity hok ..)
  | linkIdentity => exact hone (all_linkIdentity hok ..)
  | unlinkIdentity =>
    refine hone (Prog.All.exceptBind (all_orInternal ⟨fun _ => trivial, fun _ => trivial⟩)
      fun outcome => ?_)
    cases outcome with
    | removed | notLinked | wouldRemoveLast => trivial
  | exchangeSession rawToken =>
    rw [body_exchangeSession]
    exact ⟨trivial, fun now => ⟨⟨rfl, rfl⟩, fun _ => trivial⟩⟩
  | logout =>
    exact hone (Prog.All.exceptBind (all_orInternal ⟨fun _ => trivial, fun _ => trivial⟩)
      fun _ => trivial)
  | logoutAll => exact hone (all_deleteSessions hok _)
  | deregisterTenant =>
    exact hone (all_onTenants ((Prog.all_true _).mono fun _ _ _ => trivial))
  | authority task =>
    have hall : (delegate (Authority.Task.body setup.config task)).All fun c =>
        ∀ last, c.Stamped last := Prog.All.translate ((Prog.all_true _).mono fun _ _ _ => trivial)
    exact (hall.after fun last _ h => h last).bind fun _ _ => trivial

/-- In every run the rows of sessions are what the history says. -/
theorem reflects_of_run {s : Db} {acts : List (plane setup).Action} {cfg : (plane setup).Config}
    (hempty : s.sessions = ∅) (hrun : (plane setup).system.run (.start s) acts = some cfg)
    (tokenHash : String) :
    Reflects tokenHash ((plane setup).history (.start s) acts) cfg.state.tables := by
  refine World.history_invariant (I := fun entries s => Reflects tokenHash entries s.tables)
    (stamped_body setup) (fun hstamped h hexec => h.step hstamped (exec_change hexec)) ?_ ?_ hrun
  · intro entries s issue s' h henv
    obtain ⟨codes, rfl⟩ := Issue.apply_eq_some henv
    exact h
  · refine ⟨fun {row} hrow => ?_, fun {tenantId times} hlives => ?_⟩
    · rw [Db.tables, hempty] at hrow
      cases hrow
    · obtain ⟨before, _, _, _, hsplit, -⟩ := hlives
      simp at hsplit

theorem exec_touch {hashing : Hashing} {choice : Choice} {s s' : Db} {now newExpiresAt : Int}
    {r : Except Failure (Option String)} (hworks : choice.fails = false)
    (h : Db.exec hashing choice (.touchAndGetTenant tokenHash now newExpiresAt) s = some (r, s')) :
    ∃ found, r = .ok found := by
  rw [Db.exec, hworks] at h
  cases h
  exact ⟨_, rfl⟩

theorem fresh_concat {times : List Int} {last now : Int} (hlast : times.getLast? = some last) :
    Fresh (times ++ [now]) ↔ Fresh times ∧ now < last + sessionTtlSecs := by
  have hgap : (∀ a ∈ times.getLast?, ∀ b ∈ [now].head?, b - a < sessionTtlSecs) ↔
      now < last + sessionTtlSecs := by
    simp only [hlast, mem_def, head?_cons, some.injEq, forall_eq']
    omega
  rw [Fresh, isChain_append, hgap]
  exact ⟨fun h => ⟨h.1, h.2.2⟩, fun h => ⟨h.1, .singleton _, h.2⟩⟩

/-- An exchange that has read the clock, and whose statement works, mints a token for a tenant
exactly if a session with its token was created for the tenant and was not deleted since, all gaps
between its creation, its touches and this time are shorter than 30 days, and the tenant is live. -/
theorem exchange_exact (setup : Setup) {s : Db} {acts : List (plane setup).Action}
    {cfg cfg' : (plane setup).Config} {i : ℕ} {choice : Choice} {th : (plane setup).Thread}
    {rawToken tenantId : String} {now : Int} (hempty : s.sessions = ∅)
    (hrun : (plane setup).system.run (.start s) acts = some cfg)
    (hth : cfg.threads[i]? = some th) (htask : th.task = .exchangeSession rawToken)
    (hread : th.log = [⟨.authority .utcNow, now⟩])
    (hworks : choice.fails = false) (hstep : cfg.step (.step i choice) = some cfg') :
    (∃ claims, (cfg'.threads[i]?.bind (·.result)) = some (.ok (.minted claims)) ∧
        claims.tid = tenantId) ↔
      (∃ times, Lives (setup.hashing.hashToken rawToken) tenantId
        ((plane setup).history (.start s) acts) times ∧ Fresh (times ++ [now])) ∧
      cfg.state.tenants.isLive tenantId = true := by
  obtain ⟨thi, th', s', hthi, hadv, rfl⟩ := World.Config.step_step_eq_some.mp hstep
  obtain rfl := some.inj (hth.symm.trans hthi)
  obtain ⟨c, next, r, hprog, hexec, rfl⟩ := World.Thread.advance_eq_some.mp hadv
  have hleft := World.Config.left_of_run hrun th (List.mem_of_getElem? hth)
  rw [htask, hread, hprog] at hleft
  change World.Left (W := plane setup) _ (Task.body setup (.exchangeSession rawToken)) _ at hleft
  rw [body_exchangeSession] at hleft
  obtain ⟨_, heq, hleft⟩ := hleft
  cases heq
  cases hleft
  have hi : i < cfg.threads.length := (List.getElem?_eq_some_iff.mp hth).1
  have hreflects := reflects_of_run hempty hrun (setup.hashing.hashToken rawToken)
  rw [List.getElem?_set_self hi, bind_some, show World.Thread.result
    (⟨th.task, th.log ++ [⟨_, r⟩], .ret (exchangeAnswer setup now r)⟩ : (plane setup).Thread) =
      some (exchangeAnswer setup now r) from rfl]
  obtain ⟨found, rfl⟩ := exec_touch hworks hexec
  rcases (exec_change hexec).of_touchAndGetTenant with ⟨row, rfl, hrow, hnow, hlive⟩ | ⟨rfl, hgone⟩
  · constructor
    · rintro ⟨claims, heq, rfl⟩
      cases heq
      obtain ⟨times, last, hlives, hfresh, hexpires⟩ := hreflects.lives hrow
      refine ⟨⟨_, hlives, (fresh_concat (List.getLast?_concat ..)).mpr ⟨hfresh, ?_⟩⟩, hlive⟩
      omega
    · rintro ⟨⟨times, hlives, -⟩, hlive'⟩
      rcases hreflects.stored hlives with hclosed | ⟨row', last, hrow', rfl, -⟩
      · exact absurd (hclosed.2.symm.trans hlive') Bool.false_ne_true
      · obtain rfl := some.inj (hrow.symm.trans hrow')
        exact ⟨_, rfl, rfl⟩
  · constructor
    · rintro ⟨claims, heq, -⟩
      cases heq
    · rintro ⟨⟨times, hlives, hfresh⟩, hlive⟩
      rcases hreflects.stored hlives with hclosed | ⟨row, last, hrow, rfl, hlast, hexpires⟩
      · exact absurd (hclosed.2.symm.trans hlive) Bool.false_ne_true
      · have hnow : now < row.expiresAt := by
          rw [hexpires]
          exact ((fresh_concat hlast).mp hfresh).2
        exact absurd ((hgone row hrow hnow).symm.trans hlive) Bool.false_ne_true

/-- A tenant signs up, and exchanges the session up to its statement. -/
def sampleExchange : List (plane sampleSetup).Action :=
  sampleSignup ++ [.spawn (.exchangeSession "token-1")] ++ sampleTurns 1 "" 1

/-- The exchange mints a token for the tenant, so the session was created for it. -/
theorem exchange_exact_sample : ∃ (cfg cfg' : (plane sampleSetup).Config) (times : List Int),
      (plane sampleSetup).system.run (.start .empty) sampleExchange = some cfg ∧
      cfg.step (.step 1 (sampleChoice "")) = some cfg' ∧
      cfg'.threads[1]?.bind (·.result) =
        some (.ok (.minted ((userSpec "tenant-1").claims 0 sampleSetup.userJwtTtlSecs))) ∧
      Lives (sampleSetup.hashing.hashToken "token-1") "tenant-1"
        ((plane sampleSetup).history (.start .empty) sampleExchange) times ∧
      Fresh (times ++ [0]) := by
  have hlast := (plane sampleSetup).system.run_eq_some_runD (by decide +kernel :
    ((plane sampleSetup).system.run (.start .empty)
      (sampleExchange ++ [.step 1 (sampleChoice "")])).isSome = true)
  obtain ⟨cfg, hrun, hstep⟩ := (plane sampleSetup).system.run_concat_eq_some.mp hlast
  have hresult : ((plane sampleSetup).system.runD (.start .empty)
      (sampleExchange ++ [.step 1 (sampleChoice "")])).threads[1]?.bind (·.result) =
        some (.ok (.minted ((userSpec "tenant-1").claims 0 sampleSetup.userJwtTtlSecs))) := by
    decide +kernel
  have hbefore := (plane sampleSetup).system.run_eq_some_runD
    (by decide +kernel :
      ((plane sampleSetup).system.run (.start .empty) sampleExchange).isSome = true)
  obtain rfl := some.inj (hbefore.symm.trans hrun)
  obtain ⟨th, hth, hread⟩ := map_eq_some_iff.mp (by rfl :
    ((plane sampleSetup).system.runD (.start .empty) sampleExchange).threads[1]?.map
      (fun th => (th.task, th.log)) = some (.exchangeSession "token-1",
        [⟨.authority .utcNow, (0 : Int)⟩]))
  obtain ⟨htask, hread⟩ := Prod.mk.inj hread
  obtain ⟨⟨times, hlives, hfresh⟩, -⟩ := (exchange_exact sampleSetup rfl hrun hth htask hread
    rfl hstep).mp ⟨_, hresult, rfl⟩
  exact ⟨_, _, times, hrun, hstep, hresult, hlives, hfresh⟩

end Wardnet.Identities
