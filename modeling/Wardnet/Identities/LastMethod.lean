/-
# A tenant keeps a login method

`unlink_guarded` counts the rows it has locked, and deletes by a predicate that is evaluated
later. A row that it does not delete is among those that it has locked, and nobody else deletes
it before the commit. So no commit leaves a tenant without a login method.
-/

import Wardnet.Base.Learn
import Wardnet.Identities.Effects
import Wardnet.Identities.Vault

namespace Wardnet.Identities

open Base Tenants Learning Learns Vault
open Base.RowLocks
open Base.Learning (ifOk)

/-! ## Rows and their tenants -/

def Vault.rows (s : Vault) (key : Key) : Option TenantIdentity := s.db.identities.get? key

def Vault.HasMethod (s : Vault) (tenantId : String) : Prop :=
  ∃ key row, s.db.identities.get? key = some row ∧ row.tenantId = tenantId

/-- The call neither deletes a login method nor gives it to another tenant. -/
def Call.KeepsOwners : Call → Prop
  | .authority .deleteTombstonedEmpty | .authority (.deleteIdentitiesForTenant _)
  | .unlinkGuarded .. => False
  | _ => True

theorem Call.KeepsIdentities.keepsOwners (c : Call) (h : c.KeepsIdentities) : c.KeepsOwners := by
  cases c with
  | authority c =>
    cases c with
    | deleteTombstonedEmpty | deleteIdentitiesForTenant => exact h.elim
    | _ => trivial
  | updateSecretHash | unlinkGuarded => exact h.elim
  | _ => trivial

theorem Change.owner_stays {c : Call} {r : c.Resp} {t t' : Tables} (h : Change c r t t')
    (hkeeps : c.KeepsOwners) (key : Key) (row : TenantIdentity)
    (hrow : t.identities.get? key = some row) :
    ∃ row', t'.identities.get? key = some row' ∧ row'.tenantId = row.tenantId := by
  cases h with
  | insertIdentity hnew hexists =>
    refine ⟨row, ?_, rfl⟩
    rw [Store.get?_insert_of_ne]
    · exact hrow
    · rintro rfl
      rw [hnew] at hrow
      cases hrow
  | updateSecretHash =>
    refine ⟨_, by rw [Store.get?_modify, hrow]; rfl, ?_⟩
    split
    · rfl
    · rfl
  | sweep | deleteIdentitiesForTenant | unlinked => exact hkeeps.elim
  | _ => exact ⟨row, hrow, rfl⟩

/-! ## What the statements do -/

section

variable {hashing : Hashing} {choice : VaultChoice} {s s' : Vault} {x : ℕ} {tenantId : String}
  {key : Key} {generation : ℕ}

theorem rows_of_plane {c : Call} {r : c.Resp} (hkeeps : c.KeepsOwners)
    (h : Vault.exec hashing choice (.plane c) s = some (r, s')) :
    s'.locks = s.locks ∧ ∀ key row, s.rows key = some row →
      ∃ row', s'.rows key = some row' ∧ row'.tenantId = row.tenantId := by
  simp only [exec] at h
  split at h
  · cases h
  obtain ⟨⟨r', db⟩, hexec, hout⟩ := Option.map_eq_some_iff.mp h
  cases hout
  exact ⟨rfl, (exec_change hexec).owner_stays hkeeps⟩

variable (hashing)

theorem exec_begin {r : Except Authority.Failure ℕ}
    (h : Vault.exec hashing choice .begin s = some (r, s')) :
    ((∃ e, r = .error e) ∧ s' = s) ∨
      r = .ok s.locks.next ∧ s' = { s with locks := s.locks.start } := by
  simp only [exec] at h
  split at h
  · cases h
    exact .inl ⟨⟨_, rfl⟩, rfl⟩
  · cases h
    exact .inr ⟨rfl, rfl⟩

theorem exec_seen {provider : Option String} {r : Except Authority.Failure (List (Key × ℕ))}
    (h : Vault.exec hashing choice (.seen x tenantId provider) s = some (r, s')) : s' = s := by
  simp only [exec] at h
  split at h
  · cases h
    rfl
  · split at h
    · cases h
      rfl
    · cases h

theorem row_of_finds (h : s.finds tenantId key generation = true) :
    ∃ row, s.rows key = some row ∧ row.tenantId = tenantId := by
  obtain ⟨-, hany⟩ := of_decide_eq_true h
  cases hrow : s.db.identities.get? key with
  | none =>
    rw [hrow] at hany
    cases hany
  | some row =>
    rw [hrow] at hany
    exact ⟨row, hrow, of_decide_eq_true hany⟩

theorem exec_lockRow {r : Except Authority.Failure Bool}
    (h : Vault.exec hashing choice (.lockRow x tenantId key generation) s = some (r, s')) :
    (r ≠ .ok true ∧ s' = s) ∨ r = .ok true ∧ x ∈ s.locks.running ∧ s.locks.busy x key = false ∧
      (∃ row, s.rows key = some row ∧ row.tenantId = tenantId) ∧
      s' = { s with locks := s.locks.take x key false } := by
  simp only [exec] at h
  split at h
  · cases h
    exact .inl ⟨by rintro ⟨⟩, rfl⟩
  rename_i hok
  split at h
  · cases h
    exact .inl ⟨by rintro ⟨⟩, rfl⟩
  rename_i hfinds
  split at h
  · cases h
  rename_i hfree
  cases h
  refine .inr ⟨rfl, ?_, Bool.eq_false_iff.mpr hfree, row_of_finds (by simpa using hfinds), rfl⟩
  exact not_not.mp (not_or.mp hok).2

theorem exec_deleteRow {provider : String} {r : Except Authority.Failure Bool}
    (h : Vault.exec hashing choice (.deleteRow x tenantId provider key generation) s =
      some (r, s')) :
    s' = s ∨ x ∈ s.locks.running ∧ s.locks.busy x key = false ∧ key.1 = provider ∧
      (∃ row, s.rows key = some row ∧ row.tenantId = tenantId) ∧
      s' = { s with locks := s.locks.take x key true } := by
  simp only [exec] at h
  split at h
  · cases h
    exact .inl rfl
  rename_i hok
  split at h
  · cases h
    exact .inl rfl
  rename_i hfinds
  split at h
  · cases h
  rename_i hfree
  cases h
  obtain ⟨hfound, hprovider⟩ : s.finds tenantId key generation = true ∧ key.1 = provider := by
    simpa using hfinds
  refine .inr ⟨?_, Bool.eq_false_iff.mpr hfree, hprovider, row_of_finds hfound, rfl⟩
  exact not_not.mp (not_or.mp hok).2

theorem exec_commit {r : Except Authority.Failure Unit}
    (h : Vault.exec hashing choice (.commit x) s = some (r, s')) : s' = s ∨ s' = s.commit x := by
  simp only [exec] at h
  split at h
  · cases h
    exact .inl rfl
  split at h
  · cases h
    split
    · exact .inr rfl
    · exact .inl rfl
  · cases h
    exact .inr rfl

theorem rows_commit : (s.commit x).rows = survivors s.locks x s.rows := by
  funext key
  simp only [rows, commit, survivors, Store.get?_retain]
  cases s.db.identities.get? key with
  | none => simp
  | some row =>
    cases s.locks.dooms x key with
    | true | false => simp

end

/-! ## What holds between the statements -/

def Statement.owned : Statement → Option ℕ
  | .plane _ | .begin => none
  | .seen x .. | .lockRow x .. | .deleteRow x .. | .commit x | .rollback x => some x

/-- The statement is one of the transaction, or a call that keeps the owners. -/
def Statement.Keeps : Statement → Prop
  | .plane c => c.KeepsOwners
  | _ => True

/-- Unlinking, linking, password resets, and logins that may insert a login method. -/
def Task.links : Task → Bool
  | .unlinkIdentity .. | .linkIdentity .. | .passwordReset .. | .passwordSignup ..
  | .oidcCallback .. | .resolveIdentity .. => true
  | _ => false

/-- Next to every row that it deletes, a transaction holds another one of the same tenant. -/
def Vault.Guarded (s : Vault) : Prop :=
  RowLocks.Guarded TenantIdentity.tenantId s.rows s.locks

/-- What a statement may do: it respects what others hold, and leaves no tenant without a login
method. -/
structure Vault.Moves (x : Option ℕ) (s s' : Vault) : Prop where
  respects : Respects TenantIdentity.tenantId x s.rows s'.rows s.locks s'.locks
  hasMethod : ∀ tenantId, s.HasMethod tenantId → s'.HasMethod tenantId

section

variable {s s' : Vault} {x : ℕ} {o : Option ℕ}

theorem Vault.Moves.of_locks {locks : RowLocks Key}
    (h : Respects TenantIdentity.tenantId o s.rows s.rows s.locks locks) :
    s.Moves o { s with locks } :=
  ⟨h, fun _ h => h⟩

theorem Vault.Moves.of_rows (hlocks : s'.locks = s.locks)
    (hrows : ∀ key row, s.rows key = some row →
      ∃ row', s'.rows key = some row' ∧ row'.tenantId = row.tenantId) : s.Moves o s' where
  respects := by
    rw [hlocks]
    exact .of_rows hrows
  hasMethod _ h := RowLocks.Nonempty.of_rows h hrows

theorem Vault.Moves.refl : s.Moves o s := .of_rows rfl fun _ row h => ⟨row, h, rfl⟩

theorem Vault.Guarded.moves_commit (h : s.Guarded) : s.Moves (some x) (s.commit x) where
  respects := by
    rw [rows_commit]
    exact Respects.commit
  hasMethod tenantId hmethod := by
    change RowLocks.Nonempty TenantIdentity.tenantId tenantId (s.commit x).rows
    rw [rows_commit]
    exact h.commit_nonempty x hmethod

theorem Vault.Guarded.commit (h : s.Guarded) : (s.commit x).Guarded := by
  unfold Vault.Guarded
  rw [rows_commit]
  exact RowLocks.Guarded.commit h x

end

/-- The statements respect each other's locks. -/
def linking (setup : Setup) : Learning (vault setup) where
  Spawns task := task.links = true
  Issues := Statement.Keeps
  Inv := Vault.Guarded
  owned := Statement.owned
  next s := s.locks.next
  Rel := Vault.Moves
  exec_rel {choice c s r s'} hkeeps hguarded hexec := by
    cases c with
    | plane c =>
      obtain ⟨hlocks, hrows⟩ := rows_of_plane hkeeps hexec
      exact .of_rows hlocks hrows
    | begin =>
      rcases exec_begin setup.hashing hexec with ⟨-, rfl⟩ | ⟨-, rfl⟩
      · exact .refl
      · exact .of_locks .start
    | seen =>
      obtain rfl := exec_seen setup.hashing hexec
      exact .refl
    | lockRow =>
      rcases exec_lockRow setup.hashing hexec with ⟨-, rfl⟩ | ⟨-, -, hfree, -, rfl⟩
      · exact .refl
      · exact .of_locks (.take hfree)
    | deleteRow =>
      rcases exec_deleteRow setup.hashing hexec with rfl | ⟨-, hfree, -, -, rfl⟩
      · exact .refl
      · exact .of_locks (.take hfree)
    | commit =>
      rcases exec_commit setup.hashing hexec with rfl | rfl
      · exact .refl
      · exact hguarded.moves_commit
    | rollback =>
      cases hexec
      exact .of_locks .finish
  exec_inv {choice c s r s'} hkeeps howned hguarded hexec := by
    cases c with
    | plane c =>
      obtain ⟨hlocks, hrows⟩ := rows_of_plane hkeeps hexec
      unfold Vault.Guarded
      rw [hlocks]
      exact RowLocks.Guarded.of_rows hguarded hrows
    | begin =>
      rcases exec_begin setup.hashing hexec with ⟨-, rfl⟩ | ⟨-, rfl⟩
      · exact hguarded
      · exact RowLocks.Guarded.start hguarded
    | _ => cases howned
  next_le h := h.respects.next_le
  env_rel {e s s'} _ henv := by
    cases e with
    | issue code =>
      obtain ⟨db, happly, rfl⟩ := Option.map_eq_some_iff.mp henv
      obtain ⟨codes, rfl⟩ := Issue.apply_eq_some happly
      exact .of_rows rfl fun _ row h => ⟨row, h, rfl⟩
    | abort x =>
      cases henv
      exact .of_locks .finish
  env_inv {e s s'} hguarded henv := by
    cases e with
    | issue code =>
      obtain ⟨db, happly, rfl⟩ := Option.map_eq_some_iff.mp henv
      obtain ⟨codes, rfl⟩ := Issue.apply_eq_some happly
      exact RowLocks.Guarded.of_rows hguarded fun _ row h => ⟨row, h, rfl⟩
    | abort x =>
      cases henv
      exact RowLocks.Guarded.finish hguarded x

/-! ## The transaction -/

section

variable {setup : Setup} {task : Task} {x : ℕ} {tenantId provider : String}

/-- The transaction holds a row of the tenant under some key, as long as it runs. -/
def Vault.Holds (x : ℕ) (ok : Key → Prop) (tenantId : String) (s : Vault) : Prop :=
  RowLocks.Holds TenantIdentity.tenantId x ok tenantId s.rows s.locks

/-- The transaction has deleted nothing, and holds a row of each of the providers. -/
def Vault.Locked (x : ℕ) (tenantId : String) (providers : List String) (s : Vault) : Prop :=
  Clean x s.locks ∧ ∀ provider ∈ providers, s.Holds x (·.1 = provider) tenantId

theorem stable_holds (ok : Key → Prop) :
    (linking setup).Stable (some x) (Vault.Holds x ok tenantId) := by
  rintro o s s' (hmoves : s.Moves o s') hother h
  refine RowLocks.Holds.respects h hmoves.respects ?_
  rcases hother with rfl | hne
  · simp
  · exact hne

theorem stable_locked (providers : List String) :
    (linking setup).Stable (some x) (Vault.Locked x tenantId providers) := by
  rintro o s s' (hmoves : s.Moves o s') hother ⟨hclean, hholds⟩
  refine ⟨hclean.respects hmoves.respects ?_, fun provider hprovider =>
    stable_holds _ o s s' hmoves hother (hholds provider hprovider)⟩
  rcases hother with rfl | hne
  · simp
  · exact hne

theorem learns_seen {P : Vault → Prop} (hP : (linking setup).Stable (some x) P)
    (provider : Option String) :
    (linking setup).Learns task (some x) (ifOk fun _ => P) P
      (query (.seen x tenantId provider)) := by
  refine ownCall trivial rfl (stable_ifOk fun _ => hP) ?_
  intro choice s r s' hguarded h _ hexec
  obtain rfl := exec_seen setup.hashing hexec
  refine ⟨hguarded, ?_⟩
  cases r with
  | ok => exact h
  | error => trivial

/-- What is locked stays locked, and each row that is found is locked too. -/
theorem learns_lockRows (rows : List (Key × ℕ)) (locked : List String) :
    (linking setup).Learns task (some x)
      (ifOk fun providers => Vault.Locked x tenantId (locked ++ providers))
      (Vault.Locked x tenantId locked) (lockRows x tenantId rows).run := by
  induction rows generalizing locked with
  | nil =>
    intro s h
    change Vault.Locked x tenantId (locked ++ []) s
    rwa [List.append_nil]
  | cons row rest ih =>
    obtain ⟨key, generation⟩ := row
    refine exceptBind (Q := fun found =>
      Vault.Locked x tenantId (locked ++ if found then [key.1] else [])) ?_ fun found => ?_
    · refine ownCall trivial rfl (stable_ifOk fun _ => stable_locked _) ?_
      intro choice s r s' hguarded h _ hexec
      rcases exec_lockRow setup.hashing hexec with ⟨hnot, rfl⟩ |
        ⟨rfl, hx, hfree, ⟨row, hrow, htenant⟩, rfl⟩
      · refine ⟨hguarded, ?_⟩
        cases r with
        | error => trivial
        | ok found =>
          have hfalse : found = false := by
            cases found with
            | false => rfl
            | true => exact absurd rfl hnot
          subst hfalse
          change Vault.Locked x tenantId (locked ++ []) s'
          rwa [List.append_nil]
      · refine ⟨RowLocks.Guarded.lock hguarded h.1 hx hfree hrow, h.1.lock hfree, ?_⟩
        intro provider hprovider
        rcases List.mem_append.mp hprovider with hold | hnew
        · exact RowLocks.Holds.take (h.2 provider hold) nofun
        · obtain rfl := List.mem_singleton.mp hnew
          exact ⟨h.1.1, fun _ => ⟨key, row, rfl, h.1.held_lock hfree, hrow, htenant⟩⟩
    · refine exceptBind (ih _) fun providers => ?_
      intro s h
      change Vault.Locked x tenantId (locked ++ if found then key.1 :: providers else providers) s
      cases found with
      | true | false => simpa using h

/-- A row of another provider stays locked while the rows of one are deleted. -/
theorem learns_deleteRows (rows : List (Key × ℕ)) : (linking setup).Learns task (some x)
      (ifOk fun _ => Vault.Holds x (·.1 ≠ provider) tenantId)
      (Vault.Holds x (·.1 ≠ provider) tenantId) (deleteRows x tenantId provider rows).run := by
  induction rows with
  | nil => exact fun _ h => h
  | cons row rest ih =>
    obtain ⟨key, generation⟩ := row
    refine exceptBind (Q := fun _ => Vault.Holds x (·.1 ≠ provider) tenantId) ?_ fun _ => ih
    refine ownCall trivial rfl (stable_ifOk fun _ => stable_holds _) ?_
    intro choice s r s' hguarded h _ hexec
    have hstep : s'.Guarded ∧ s'.Holds x (·.1 ≠ provider) tenantId := by
      rcases exec_deleteRow setup.hashing hexec with rfl |
        ⟨hx, hfree, hprovider, ⟨row, hrow, htenant⟩, rfl⟩
      · exact ⟨hguarded, h⟩
      · have hkey : ¬ key.1 ≠ provider := not_not.mpr hprovider
        exact ⟨RowLocks.Guarded.doom hguarded hx h hkey hfree hrow htenant,
          RowLocks.Holds.take h fun _ => hkey⟩
    refine ⟨hstep.1, ?_⟩
    cases r with
    | ok => exact hstep.2
    | error => trivial

/-- If not all providers are the same one, then there is another. -/
theorem exists_other {providers : List String} (h : providers.length ≠ providers.count provider) :
    ∃ other ∈ providers, other ≠ provider := by
  by_contra hall
  push Not at hall
  exact h (List.count_eq_length.mpr fun other hother => (hall other hother).symm).symm

/-- Before it deletes, the transaction has locked a row that it leaves. -/
theorem learns_guardedDelete :
    (linking setup).Learns task (some x) (fun _ _ => True) (Vault.Locked x tenantId [])
      (guardedDelete x tenantId provider).run := by
  have hlocks : (linking setup).Learns task (some x)
      (ifOk fun providers => Vault.Locked x tenantId providers) (Vault.Locked x tenantId [])
      (lockTenantProviders x tenantId).run :=
    (learns_seen (stable_locked _) _).exceptBind fun rows => learns_lockRows rows []
  refine conseq (Q := ifOk fun _ _ => True) ?_ (fun _ h => h) fun _ _ _ => trivial
  refine hlocks.exceptBind fun providers => ?_
  dsimp only
  split
  · exact fun _ _ => trivial
  split
  · exact fun _ _ => trivial
  rename_i hrest
  obtain ⟨other, hother, hne⟩ := exists_other hrest
  refine exceptBind (Q := fun _ _ => True) ?_ fun _ _ _ => trivial
  refine conseq (P := Vault.Holds x (·.1 ≠ provider) tenantId) ?_ ?_ fun _ _ h => h
  · refine conseq ((learns_seen (stable_holds _) _).exceptBind
      fun rows => learns_deleteRows rows) (fun _ h => h) fun r _ _ => ?_
    cases r with
    | ok | error => trivial
  · intro s h
    refine ⟨h.1.1, fun hx => ?_⟩
    obtain ⟨key, row, rfl, hrow⟩ := (h.2 other hother).2 hx
    exact ⟨key, row, hne, hrow⟩

theorem learns_unlinkWithin :
    (linking setup).Learns task (some x) (fun _ _ => True) (Vault.Locked x tenantId [])
      (unlinkWithin x tenantId provider) := by
  refine bind (Q := fun _ _ => True) ?_ fun out => ?_
  · refine bind learns_guardedDelete fun outcome => ?_
    cases outcome with
    | error => exact fun _ _ => trivial
    | ok outcome =>
      refine bind (Q := fun _ _ => True) ?_ fun r => ?_
      · refine ownCall trivial rfl (fun _ => stable_true) ?_
        intro choice s r s' hguarded _ _ hexec
        rcases exec_commit setup.hashing hexec with rfl | rfl
        · exact ⟨hguarded, trivial⟩
        · exact ⟨hguarded.commit, trivial⟩
      · cases r with
        | ok | error => exact fun _ _ => trivial
  · cases out with
    | ok => exact fun _ _ => trivial
    | error e =>
      refine ownCall trivial rfl (fun _ => stable_true) ?_
      intro choice s r s' hguarded _ _ hexec
      cases hexec
      exact ⟨RowLocks.Guarded.finish hguarded x, trivial⟩

end

/-! ## Whole runs -/

theorem obeys_unlinkIdentity (setup : Setup) (tenantId provider : String) :
    (linking setup).Obeys (.unlinkIdentity tenantId provider) (fun _ _ => True) none
      (fun _ => True) (Task.statements setup (.unlinkIdentity tenantId provider)) := by
  -- the transaction that begins is known to nobody else
  refine ⟨trivial, .inl rfl, fun r => r.toOption,
    ifOk fun x s => s.Locked x tenantId [], fun r => ?_, ?_, fun r => ?_⟩
  · cases r with
    | ok x => exact stable_locked []
    | error => exact stable_true
  · intro choice s r s' hguarded _ _ hexec
    rcases exec_begin setup.hashing hexec with ⟨⟨e, rfl⟩, rfl⟩ | ⟨rfl, rfl⟩
    · exact ⟨hguarded, trivial, .inl rfl⟩
    · refine ⟨RowLocks.Guarded.start hguarded, ⟨RowLocks.Guarded.clean_start hguarded, ?_⟩,
        .inr ⟨_, rfl, Nat.le_refl _, Nat.lt_succ_self _⟩⟩
      intro provider hprovider
      cases hprovider
  · cases r with
    | ok x =>
      apply obeys
      exact learns_unlinkWithin.bind fun _ _ _ => trivial
    | error => exact fun _ _ => trivial

theorem obeys_statements (setup : Setup) (task : Task) (htask : task.links = true) :
    (linking setup).Obeys task (fun _ _ => True) none (fun _ => True)
      (Task.statements setup task) := by
  have hplane : ∀ {p : Proc (Except IdentitiesError Answer)}, p.All Call.KeepsOwners →
      (linking setup).Obeys task (fun _ _ => True) none (fun _ => True)
        (p.translate .plane fun _ r => r) := fun hall =>
    (of_all stable_true (fun _ h => h) (Prog.All.translate
      (hall.mono fun c h => (⟨h, rfl⟩ : (linking setup).Issues (.plane c) ∧
        (linking setup).owned (.plane c) = none)))).obeys
  have hok : ∀ c : Call, c.SignsIn → c.KeepsOwners :=
    fun c h => (h.keepsIdentities c).keepsOwners c
  have hopen : ∀ tenantId last, (createSession setup.hashing tenantId).run.AllAfter
      (fun _ => Call.KeepsOwners) last := fun _ _ =>
    (all_createSession trivial trivial trivial fun _ _ => trivial).after fun _ _ h => h
  have hopens : ∀ {α : Type} {p : Service α}, p.run.AllAfter (fun _ => Call.KeepsOwners) none →
      p.run.All Call.KeepsOwners := fun h => h.all fun _ _ h => h
  cases task with
  | unlinkIdentity tenantId provider => exact obeys_unlinkIdentity setup tenantId provider
  | linkIdentity => exact hplane ((all_linkIdentity hok ..).bind fun _ => trivial)
  | passwordReset =>
    exact hplane ((all_passwordReset hok _ _ _ fun _ _ _ => trivial).bind fun _ => trivial)
  | passwordSignup =>
    exact hplane ((hopens (after_passwordSignup (fun _ => hok) hopen ..)).bind fun _ => trivial)
  | oidcCallback =>
    exact hplane ((hopens (after_oidcCallback (fun _ => hok) hopen ..)).bind fun _ => trivial)
  | resolveIdentity => exact hplane ((all_resolveIdentity hok ..).bind fun _ => trivial)
  | _ => cases htask

/-- In every run of unlinkings, linkings, password resets and logins, statement by statement, a
tenant that has a login method has one in every later committed state. -/
theorem login_method_kept (setup : Setup) {s : Vault} {acts acts' : List (vault setup).Action}
    {cfg cfg' : (vault setup).Config} {tenantId : String}
    (hidle : s.locks.running = [] ∧ ∀ key, s.locks.held key = none)
    (htasks : ∀ task, .spawn task ∈ acts ++ acts' → task.links = true)
    (hrun : (vault setup).system.run (.start s) acts = some cfg)
    (hrun' : (vault setup).system.run cfg acts' = some cfg')
    (hmethod : cfg.state.HasMethod tenantId) : cfg'.state.HasMethod tenantId := by
  have hguarded : s.Guarded := by
    refine ⟨fun x hx => ?_, fun {key lock} hheld => ?_, fun {key lock} hheld => ?_,
      fun {key x row} hheld _ => ?_⟩
    · rw [hidle.1] at hx
      cases hx
    · rw [hidle.2 key] at hheld
      cases hheld
    · rw [hidle.2 key] at hheld
      cases hheld
    · rw [hidle.2 key] at hheld
      cases hheld
  have halong : (vault setup).system.Along (linking setup).guard (.start s) (acts ++ acts') :=
    (vault setup).system.along_of_forall_mem fun a ha cfg => by
      cases a with
      | spawn task => exact htasks task ha
      | step i choice => exact fun _ _ _ _ => trivial
      | env e => trivial
  exact stable_of_run (P := fun s : Vault => s.HasMethod tenantId) (obeys_statements setup)
    hguarded halong hrun hrun' (fun _ _ _ hmoves => hmoves.hasMethod tenantId) hmethod

/-! ## Two unlinkings at once -/

def sampleStatements (i : ℕ) (text : String) (order : List (Key × ℕ)) (n : ℕ) :
    List (vault sampleSetup).Action :=
  List.replicate n (.step i ⟨sampleChoice text, order, false⟩)

/-- A tenant has a password and a Google account. -/
def sampleTwoMethods : List (vault sampleSetup).Action :=
  [.env (.issue ⟨"code-1", "a@b", .signup, 100⟩),
      .spawn (.passwordSignup "tenant-1" "a@b" "code-1" "password-1")] ++
    sampleStatements 0 "token-1" [] 13 ++
    [.spawn (.linkIdentity 1 "google" "code" "verifier" "tenant-1")] ++ sampleStatements 1 "" [] 3

/-- Both are unlinked at once. Both transactions see both rows; the first one locks and deletes,
and the second one goes on when the first one has committed. -/
def sampleUnlinks : List (vault sampleSetup).Action :=
  let rows := [((providerPassword, "a@b"), 1), (("google", "sub-1"), 1)]
  [.spawn (.unlinkIdentity "tenant-1" providerPassword),
      .spawn (.unlinkIdentity "tenant-1" "google")] ++
    sampleStatements 2 "" rows 3 ++ sampleStatements 3 "" rows 2 ++ sampleStatements 2 "" rows 1 ++
    sampleStatements 2 "" [((providerPassword, "a@b"), 1)] 3 ++ sampleStatements 3 "" rows 3

def linksOnly : (vault sampleSetup).Action → Bool
  | .spawn task => task.links
  | .step _ _ | .env _ => true

/-- One of them is refused, and the tenant keeps a login method. -/
theorem login_method_kept_sample : ∃ cfg cfg' : (vault sampleSetup).Config,
      (vault sampleSetup).system.run (.start ⟨.empty, fun _ => 0, ⟨0, [], fun _ => none⟩⟩)
        sampleTwoMethods = some cfg ∧
      (vault sampleSetup).system.run cfg sampleUnlinks = some cfg' ∧
      (cfg'.threads.drop 2).map (·.result) = [some (.ok .done),
        some (.error (.conflict "cannot remove your last login method"))] ∧
      cfg'.state.HasMethod "tenant-1" := by
  have hrun := (vault sampleSetup).system.run_eq_some_runD (by decide +kernel :
    ((vault sampleSetup).system.run (.start ⟨.empty, fun _ => 0, ⟨0, [], fun _ => none⟩⟩)
      sampleTwoMethods).isSome = true)
  have hrun' := (vault sampleSetup).system.run_eq_some_runD (by decide +kernel :
    ((vault sampleSetup).system.run ((vault sampleSetup).system.runD
      (.start ⟨.empty, fun _ => 0, ⟨0, [], fun _ => none⟩⟩) sampleTwoMethods)
      sampleUnlinks).isSome = true)
  have htasks : (sampleTwoMethods ++ sampleUnlinks).all linksOnly = true := by decide +kernel
  exact ⟨_, _, hrun, hrun', by decide +kernel, login_method_kept sampleSetup ⟨rfl, fun _ => rfl⟩
    (fun task hmem => List.all_eq_true.mp htasks _ hmem) hrun hrun'
    ⟨(providerPassword, "a@b"), ⟨"tenant-1", some "password-1", "a@b"⟩, by decide +kernel, rfl⟩⟩

end Wardnet.Identities
