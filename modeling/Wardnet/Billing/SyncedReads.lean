/-
# Reads of the catalog

A read of three statements shows one catalog if no sync commits between them, and a sync
leaves one catalog if no other commits between its first delete and its own commit. Under
that condition the tables always show what one sync has written: it has deleted all that
was there, and it shows all of its own rows at once.
-/

import Wardnet.Billing.Projection

namespace Wardnet.Billing

open Base Base.Mvcc Outline List

def CatalogDb.shown (s : CatalogDb) : CatalogSnapshot :=
  ⟨liveRows s.xacts.committed s.plans, liveRows s.xacts.committed s.promos,
    (liveRows s.xacts.committed s.synced).head?⟩

/-- The catalog is the one of the sync, in any order. -/
def CatalogTask.Offers : CatalogTask → CatalogSnapshot → Prop
  | .replace plans promos now, snapshot =>
    snapshot.plans.Perm plans ∧ snapshot.promos.Perm promos ∧ snapshot.lastSyncedAt = some now
  | .read, _ => False

def HasCommitted (s : CatalogDb) (th : catalogs.Thread) : Prop :=
  ∃ e ∈ th.log, ∃ x ∈ s.xacts.committed, e.call = .commit x

/-- The catalog is empty, or the one of a single sync that has committed. -/
def Synced (cfg : catalogs.Config) (snapshot : CatalogSnapshot) : Prop :=
  snapshot = ⟨[], [], none⟩ ∨
    ∃ th ∈ cfg.threads, HasCommitted cfg.state th ∧ th.task.Offers snapshot

def CatalogCall.startsDelete : CatalogCall → Bool
  | .startDelete _ => true
  | _ => false

def CatalogCall.commits : CatalogCall → Bool
  | .commit _ => true
  | _ => false

/-- The task is a read that has begun, or a sync that has begun to delete, and has not
returned. -/
def underway (th : catalogs.Thread) : Bool :=
  !th.done && match th.task with
    | .read => !th.log.isEmpty
    | .replace .. => th.log.any (·.call.startsDelete)

/-- A sync commits only while no other task is under way. -/
def CommitsAlone (cfg : catalogs.Config) : catalogs.Action → Prop
  | .step i _ => (∃ th ∈ cfg.threads[i]?, th.pending.any (·.commits) = true) →
      ∀ j < cfg.threads.length, j ≠ i → cfg.threads[j]?.any underway = false
  | .spawn _ | .env _ => True

/-! ## What a sync has written -/

/-- The state of a sync: the snapshot of a delete that waits, the rows inserted so far, and
whether the rows before were deleted. -/
structure Work where
  snapshot : Option (List ℕ)
  plans : List CatalogPlan
  clearedPlans : Prop
  promos : List CatalogPromo
  clearedPromos : Prop
  synced : List Int
  clearedSynced : Prop

namespace Work

def fresh : Work := ⟨none, [], False, [], False, [], False⟩

structure Holds (w : Work) (s : CatalogDb) (x : ℕ) : Prop where
  snapshot : ∀ snapshot ∈ w.snapshot, snapshot = s.xacts.committed
  plans : Writes s.xacts.committed x w.plans w.clearedPlans s.plans
  promos : Writes s.xacts.committed x w.promos w.clearedPromos s.promos
  synced : Writes s.xacts.committed x w.synced w.clearedSynced s.synced

end Work

/-- What a statement of one sync leaves as it is. -/
structure CatalogDb.Framed (s s' : CatalogDb) (x : ℕ) : Prop where
  xacts : s'.xacts = s.xacts
  plans : Frame s.xacts x s.plans s'.plans
  promos : Frame s.xacts x s.promos s'.promos
  synced : Frame s.xacts x s.synced s'.synced

namespace CatalogDb.Framed

variable {s s' : CatalogDb} {x y : ℕ} {w : Work}

theorem shown (h : s.Framed s' x) : s'.shown = s.shown := by
  simp only [CatalogDb.shown, h.xacts, h.plans.live, h.promos.live, h.synced.live]

theorem others (h : s.Framed s' x) (hy : y ∈ s.xacts.running) (hne : y ≠ x) (hw : w.Holds s y) :
    w.Holds s' y where
  snapshot := by rw [h.xacts]; exact hw.snapshot
  plans := by rw [h.xacts]; exact h.plans.others hy hne hw.plans
  promos := by rw [h.xacts]; exact h.promos.others hy hne hw.promos
  synced := by rw [h.xacts]; exact h.synced.others hy hne hw.synced

end CatalogDb.Framed

/-! ## The outline -/

inductive Stage
  | idle
  | writing (x : ℕ) (w : Work)
  | done (x : ℕ) (plans : List CatalogPlan) (promos : List CatalogPromo) (now : Int)
  | reading (plans : List CatalogPlan) (promos : Option (List CatalogPromo))
  | read (snapshot : CatalogSnapshot)

/-- The catalog is empty, or the one of a sync that is done. -/
def Sourced (notes : Set (ℕ × Stage)) (snapshot : CatalogSnapshot) : Prop :=
  snapshot = ⟨[], [], none⟩ ∨ ∃ i x plans promos now,
    (i, Stage.done x plans promos now) ∈ notes ∧
      (CatalogTask.replace plans promos now).Offers snapshot

structure CatalogDb.Ok (s : CatalogDb) : Prop where
  xacts : s.xacts.Ok
  plans : Known s.xacts.next s.plans
  promos : Known s.xacts.next s.promos
  synced : Known s.xacts.next s.synced

/-- The tables are as a task has left or seen them. -/
def Stage.Valid (s : CatalogDb) : Stage → Prop
  | .idle | .read _ => True
  | .writing x w => x ∈ s.xacts.running ∧ w.Holds s x
  | .done x .. => x ∈ s.xacts.committed
  | .reading plans promos => plans.Perm s.shown.plans ∧ ∀ q ∈ promos, q.Perm s.shown.promos

/-- The tables show one catalog, syncs have their own transactions, and what was read is the
catalog of one sync. -/
structure SyncInv (s : CatalogDb) (notes : Set (ℕ × Stage)) : Prop where
  ok : s.Ok
  source : Sourced notes s.shown
  valid : ∀ g ∈ notes, g.2.Valid s
  apart : ∀ {i j x w w'}, (i, Stage.writing x w) ∈ notes → (j, Stage.writing x w') ∈ notes → i = j
  read : ∀ {i snapshot}, (i, Stage.read snapshot) ∈ notes → Sourced notes snapshot

/-- The outline: a task is seen to be under way by what it has done. -/
def syncing : Outline catalogs (ℕ × Stage) where
  Inv := SyncInv
  Sees i g task log pending := g.1 = i ∧ match g.2 with
    | .idle => True
    | .writing _ w => w = .fresh ∨ (∃ plans promos now, task = .replace plans promos now) ∧
        log.any (·.call.startsDelete) = true ∧ pending ≠ none
    | .done x plans promos now => task = .replace plans promos now ∧ ∃ e ∈ log, e.call = .commit x
    | .reading .. => task = .read ∧ log ≠ [] ∧ pending ≠ none
    | .read _ => task = .read
  Permits _ g rest c _ := (∀ g' ∈ rest, g'.1 ≠ g.1) ∧ (c.commits = true →
    (∀ i x w, (i, Stage.writing x w) ∈ rest → w = .fresh) ∧
      ∀ i plans promos, (i, Stage.reading plans promos) ∉ rest)

section

variable {s s' : CatalogDb} {rest : Set (ℕ × Stage)} {i : ℕ} {g g' : Stage} {x : ℕ} {w w' : Work}

theorem Sourced.mono {notes notes' : Set (ℕ × Stage)} {snapshot : CatalogSnapshot}
    (h : Sourced notes snapshot)
    (hnotes : ∀ i x plans promos now, (i, Stage.done x plans promos now) ∈ notes →
      (i, Stage.done x plans promos now) ∈ notes') : Sourced notes' snapshot := by
  rcases h with hempty | ⟨i, x, plans, promos, now, hmem, hoffers⟩
  · exact .inl hempty
  · exact .inr ⟨i, x, plans, promos, now, hnotes i x plans promos now hmem, hoffers⟩

def Stage.open : Stage → Bool
  | .done .. => false
  | _ => true

theorem Sourced.swap {snapshot : CatalogSnapshot} (hg : g.open = true)
    (h : Sourced (insert (i, g) rest) snapshot) : Sourced (insert (i, g') rest) snapshot := by
  apply h.mono
  rintro j x plans promos now (heq | hmem)
  · cases heq
    cases hg
  · exact .inr hmem

theorem SyncInv.move (h : SyncInv s (insert (i, g) rest)) (hg : g.open = true) (hok : s'.Ok)
    (hsource : Sourced (insert (i, g') rest) s'.shown)
    (hvalid : ∀ j st, (j, st) ∈ rest → st.Valid s → st.Valid s') (hg' : g'.Valid s')
    (hapart : ∀ x w, g' = .writing x w → ∀ j w', (j, Stage.writing x w') ∈ rest → j = i)
    (hread : ∀ snapshot, g' = .read snapshot → Sourced (insert (i, g') rest) snapshot) :
    SyncInv s' (insert (i, g') rest) where
  ok := hok
  source := hsource
  valid := by
    rintro ⟨j, st⟩ (heq | hmem)
    · cases heq
      exact hg'
    · exact hvalid j st hmem (h.valid _ (.inr hmem))
  apart := by
    rintro j k x w w' (heq | hmem) (heq' | hmem')
    · cases heq
      cases heq'
      rfl
    · cases heq
      exact (hapart x w rfl k w' hmem').symm
    · cases heq'
      exact hapart x w' rfl j w hmem
    · exact h.apart (.inr hmem) (.inr hmem')
  read := by
    rintro j snapshot (heq | hmem)
    · cases heq
      exact hread snapshot rfl
    · exact (h.read (.inr hmem)).swap hg

theorem SyncInv.look (h : SyncInv s (insert (i, g) rest)) (hg : g.open = true) (hg' : g'.Valid s)
    (hapart : ∀ x w, g' = .writing x w → ∃ w', g = .writing x w')
    (hrest : ∀ g ∈ rest, g.1 ≠ i)
    (hread : ∀ snapshot, g' = .read snapshot → Sourced (insert (i, g') rest) snapshot) :
    SyncInv s (insert (i, g') rest) := by
  apply h.move hg h.ok (h.source.swap hg) (fun _ _ _ hst => hst) hg' _ hread
  intro x w heq j w' hmem
  obtain ⟨w'', rfl⟩ := hapart x w heq
  exact absurd (h.apart (.inr hmem) (.inl rfl)) (hrest _ hmem)

theorem SyncInv.write (h : SyncInv s (insert (i, .writing x w) rest))
    (hrest : ∀ g ∈ rest, g.1 ≠ i) (hframed : s.Framed s' x) (hw' : w'.Holds s' x) :
    SyncInv s' (insert (i, .writing x w') rest) := by
  have hrunning := (h.valid _ (.inl rfl)).1
  have hother : ∀ {j y w''}, (j, Stage.writing y w'') ∈ rest → y ≠ x := by
    rintro j y w'' hmem rfl
    exact hrest _ hmem (h.apart (.inr hmem) (.inl rfl))
  apply h.move rfl
  · refine ⟨?_, ?_, ?_, ?_⟩
    · rw [hframed.xacts]
      exact h.ok.xacts
    · rw [hframed.xacts]
      exact hframed.plans.known h.ok.plans
    · rw [hframed.xacts]
      exact hframed.promos.known h.ok.promos
    · rw [hframed.xacts]
      exact hframed.synced.known h.ok.synced
  · rw [hframed.shown]
    exact h.source.swap rfl
  · intro j st hmem hst
    cases st with
    | idle | read => trivial
    | writing y w'' =>
      refine ⟨?_, hframed.others hst.1 (hother hmem) hst.2⟩
      rw [hframed.xacts]
      exact hst.1
    | done y =>
      simp only [Stage.Valid, hframed.xacts]
      exact hst
    | reading =>
      simp only [Stage.Valid, hframed.shown]
      exact hst
  · refine ⟨?_, hw'⟩
    rw [hframed.xacts]
    exact hrunning
  · rintro y w'' heq j w₀ hmem
    cases heq
    exact absurd rfl (hother hmem)
  · intro snapshot heq
    cases heq

theorem SyncInv.begin (h : SyncInv s (insert (i, .idle) rest)) :
    SyncInv { s with xacts := s.xacts.start } (insert (i, .writing s.xacts.next .fresh) rest) := by
  apply h.move rfl
  · exact ⟨h.ok.xacts.start, h.ok.plans.mono (Nat.le_succ _), h.ok.promos.mono (Nat.le_succ _),
      h.ok.synced.mono (Nat.le_succ _)⟩
  · exact h.source.swap rfl
  · intro j st _ hst
    cases st with
    | idle | read => trivial
    | writing y w => exact ⟨mem_cons_of_mem _ hst.1, hst.2.1, hst.2.2, hst.2.3, hst.2.4⟩
    | done | reading => exact hst
  · refine ⟨mem_cons_self, ?_, ?_, ?_, ?_⟩
    · exact nofun
    · exact writes_fresh h.ok.plans
    · exact writes_fresh h.ok.promos
    · exact writes_fresh h.ok.synced
  · rintro x w heq j w' hmem
    cases heq
    exact absurd (h.ok.xacts.running_lt _ (h.valid _ (.inr hmem)).1) (Nat.lt_irrefl _)
  · intro snapshot heq
    cases heq

theorem SyncInv.rollback (h : SyncInv s (insert (i, g) rest)) (hg : g.open = true)
    (hother : ∀ j w, (j, Stage.writing x w) ∉ rest) :
    SyncInv { s with xacts := s.xacts.rollback x } (insert (i, .idle) rest) := by
  apply h.move hg
  · exact ⟨h.ok.xacts.rollback x, h.ok.plans, h.ok.promos, h.ok.synced⟩
  · exact h.source.swap hg
  · intro j st hmem hst
    cases st with
    | idle | read => trivial
    | writing y w =>
      refine ⟨Xacts.mem_running_filter.mpr ⟨hst.1, ?_⟩, hst.2.1, hst.2.2, hst.2.3, hst.2.4⟩
      rintro rfl
      exact hother j w hmem
    | done | reading => exact hst
  · trivial
  · intro y w heq
    cases heq
  · intro snapshot heq
    cases heq

/-- A commit shows the new catalog, while no other task is under way. -/
theorem SyncInv.commit {plans : List CatalogPlan} {promos : List CatalogPromo} {now : Int}
    (h : SyncInv s (insert (i, .writing x w) rest)) (hrest : ∀ g ∈ rest, g.1 ≠ i)
    (hw : w = ⟨none, plans, True, promos, True, [now], True⟩)
    (hfresh : ∀ j y w', (j, Stage.writing y w') ∈ rest → w' = .fresh)
    (hreading : ∀ j plans promos, (j, Stage.reading plans promos) ∉ rest) :
    SyncInv { s with xacts := s.xacts.commit x } (insert (i, .done x plans promos now) rest) := by
  subst hw
  obtain ⟨hrunning, hholds⟩ := h.valid _ (.inl rfl)
  have hx := h.ok.xacts.disjoint x hrunning
  apply h.move rfl
  · exact ⟨h.ok.xacts.commit hrunning, h.ok.plans, h.ok.promos, h.ok.synced⟩
  · refine .inr ⟨i, x, plans, promos, now, .inl rfl, ?_⟩
    simp only [CatalogDb.shown, Xacts.commit, hholds.plans.liveRows_commit hx,
      hholds.promos.liveRows_commit hx, hholds.synced.liveRows_commit hx]
    exact ⟨.refl _, .refl _, rfl⟩
  · intro j st hmem hst
    cases st with
    | idle | read => trivial
    | writing y w' =>
      obtain rfl := hfresh j y w' hmem
      refine ⟨Xacts.mem_running_filter.mpr ⟨hst.1, ?_⟩, ?_, hst.2.plans.commit_other,
        hst.2.promos.commit_other, hst.2.synced.commit_other⟩
      · rintro rfl
        exact hrest _ hmem (h.apart (.inr hmem) (.inl rfl))
      · exact nofun
    | done y => exact mem_cons_of_mem x hst
    | reading plans promos => exact absurd hmem (hreading j plans promos)
  · exact mem_cons_self
  · intro y w heq
    cases heq
  · intro snapshot heq
    cases heq

end

/-! ## Statements -/

section

variable {choice : CatalogChoice} {c : CatalogCall} {s s' : CatalogDb} {r : c.Resp} {x : ℕ}
  {w : Work}

/-- A statement fails without an effect, or takes effect. -/
theorem CatalogDb.exec_eq_some (hc : c.commits = false)
    (hexec : CatalogDb.exec choice c s = some (r, s')) :
    (CatalogDb.refuse c = some r ∧ s' = s) ∨ CatalogDb.perform choice c s = some (r, s') := by
  unfold CatalogDb.exec at hexec
  split at hexec
  · obtain ⟨r', hrefuse, hout⟩ := Option.map_eq_some_iff.mp hexec
    cases c with
    | commit => cases hc
    | _ =>
      cases hout
      exact .inl ⟨hrefuse, rfl⟩
  · exact .inr hexec

theorem CatalogDb.Framed.refl (s : CatalogDb) (x : ℕ) : s.Framed s x :=
  ⟨rfl, .refl, .refl, .refl⟩

section

variable (hok : s.Ok) (hx : x ∈ s.xacts.running) (hw : w.Holds s x)

include hw in
theorem step_startDelete {r : Except SyncError (List ℕ)}
    (hperform : CatalogDb.perform choice (.startDelete x) s = some (r, s')) :
    ((∃ e, r = .error e) ∧ s' = s) ∨ ((∃ snapshot, r = .ok snapshot) ∧ s.Framed s' x ∧
      Work.Holds { w with snapshot := r.toOption } s' x) := by
  cases hperform
  refine .inr ⟨⟨_, rfl⟩, .refl _ x, ⟨?_, hw.plans, hw.promos, hw.synced⟩⟩
  rintro _ ⟨⟩
  rfl

include hok hx hw in
theorem step_deletePlans {snapshot : List ℕ} {r : Except SyncError Unit}
    (hsnapshot : w.snapshot = some snapshot) (hplans : w.plans = [])
    (hperform : CatalogDb.perform choice (.deletePlans x snapshot) s = some (r, s')) :
    ((∃ e, r = .error e) ∧ s' = s) ∨ (r = .ok () ∧ s.Framed s' x ∧
      Work.Holds { w with snapshot := none, clearedPlans := True } s' x) := by
  obtain ⟨table, hdelete, hout⟩ := Option.map_eq_some_iff.mp hperform
  cases hout
  rw [hw.snapshot snapshot hsnapshot] at hdelete
  have hwrites := hw.plans
  rw [hplans] at hwrites
  obtain ⟨hframe, hwritten⟩ := deleteSeen_eq_some hok.xacts hx hdelete hwrites
  rw [← hplans] at hwritten
  exact .inr ⟨rfl, ⟨rfl, hframe, .refl, .refl⟩, ⟨nofun, hwritten, hw.promos, hw.synced⟩⟩

include hok hx hw in
theorem step_deletePromos {snapshot : List ℕ} {r : Except SyncError Unit}
    (hsnapshot : w.snapshot = some snapshot) (hpromos : w.promos = [])
    (hperform : CatalogDb.perform choice (.deletePromos x snapshot) s = some (r, s')) :
    ((∃ e, r = .error e) ∧ s' = s) ∨ (r = .ok () ∧ s.Framed s' x ∧
      Work.Holds { w with snapshot := none, clearedPromos := True } s' x) := by
  obtain ⟨table, hdelete, hout⟩ := Option.map_eq_some_iff.mp hperform
  cases hout
  rw [hw.snapshot snapshot hsnapshot] at hdelete
  have hwrites := hw.promos
  rw [hpromos] at hwrites
  obtain ⟨hframe, hwritten⟩ := deleteSeen_eq_some hok.xacts hx hdelete hwrites
  rw [← hpromos] at hwritten
  exact .inr ⟨rfl, ⟨rfl, .refl, hframe, .refl⟩, ⟨nofun, hw.plans, hwritten, hw.synced⟩⟩

include hok hx hw in
theorem step_insertPlan {plan : CatalogPlan} {r : Except SyncError Unit}
    (hperform : CatalogDb.perform choice (.insertPlan x plan) s = some (r, s')) :
    ((∃ e, r = .error e) ∧ s' = s) ∨ (r = .ok () ∧ s.Framed s' x ∧
      Work.Holds { w with plans := w.plans ++ [plan] } s' x) := by
  obtain ⟨inserted, hinsert, hout⟩ := Option.map_eq_some_iff.mp hperform
  cases inserted with
  | none =>
    cases hout
    exact .inl ⟨⟨_, rfl⟩, rfl⟩
  | some table =>
    cases hout
    obtain ⟨hframe, hwritten⟩ := insertRow_eq_some hok.xacts hx hinsert hw.plans
    exact .inr ⟨rfl, ⟨rfl, hframe, .refl, .refl⟩, ⟨hw.snapshot, hwritten, hw.promos, hw.synced⟩⟩

include hok hx hw in
theorem step_insertPromo {promo : CatalogPromo} {r : Except SyncError Unit}
    (hperform : CatalogDb.perform choice (.insertPromo x promo) s = some (r, s')) :
    ((∃ e, r = .error e) ∧ s' = s) ∨ (r = .ok () ∧ s.Framed s' x ∧
      Work.Holds { w with promos := w.promos ++ [promo] } s' x) := by
  obtain ⟨inserted, hinsert, hout⟩ := Option.map_eq_some_iff.mp hperform
  cases inserted with
  | none =>
    cases hout
    exact .inl ⟨⟨_, rfl⟩, rfl⟩
  | some table =>
    cases hout
    obtain ⟨hframe, hwritten⟩ := insertRow_eq_some hok.xacts hx hinsert hw.promos
    exact .inr ⟨rfl, ⟨rfl, .refl, hframe, .refl⟩, ⟨hw.snapshot, hw.plans, hwritten, hw.synced⟩⟩

include hok hx hw in
theorem step_stampSync {now : Int} {r : Except SyncError Unit} (hsynced : w.synced = [])
    (hperform : CatalogDb.perform choice (.stampSync x now) s = some (r, s')) :
    ((∃ e, r = .error e) ∧ s' = s) ∨ (r = .ok () ∧ s.Framed s' x ∧
      Work.Holds { w with synced := [now], clearedSynced := True } s' x) := by
  obtain ⟨table, hupsert, hout⟩ := Option.map_eq_some_iff.mp hperform
  cases hout
  have hwrites := hw.synced
  rw [hsynced] at hwrites
  obtain ⟨hframe, hwritten⟩ :=
    upsertRow_eq_some (fun _ _ => rfl) hok.xacts hx hupsert hwrites
  exact .inr ⟨rfl, ⟨rfl, .refl, .refl, hframe⟩, ⟨hw.snapshot, hw.plans, hw.promos, hwritten⟩⟩

end

end

/-! ## Procedures -/

section

variable {i x : ℕ} {task : CatalogTask} {log : List catalogs.Event} {w : Work}

variable {c : CatalogCall} {f : ExceptT SyncError CatalogProc Unit} {choice : CatalogChoice}
  {s s' : CatalogDb} {Q : ℕ × Stage → List catalogs.Event → c.Resp → Prop}

/-- A statement of a sync is refused, or fails without an effect, or does its part of the work. -/
theorem wp_write {failed ok : c.Resp → Prop} {w' : c.Resp → Work} (hc : c.commits = false)
    (hsees : syncing.Sees i (i, .writing x w) task log (some c))
    (hrefuse : ∀ r, CatalogDb.refuse c = some r → failed r)
    (hstep : ∀ choice s r s', s.Ok → x ∈ s.xacts.running → w.Holds s x →
      CatalogDb.perform choice c s = some (r, s') →
      (failed r ∧ s' = s) ∨ (ok r ∧ s.Framed s' x ∧ (w' r).Holds s' x))
    (hfailed : ∀ r, failed r → Q (i, .writing x w) (log ++ [⟨c, r⟩]) r)
    (hdone : ∀ r, ok r → Q (i, .writing x (w' r)) (log ++ [⟨c, r⟩]) r) :
    syncing.Wp i task Q (i, .writing x w) log (query c) := by
  refine ⟨hsees, fun s rest choice r s' hinv hpermits hexec => ?_⟩
  obtain ⟨hrunning, hholds⟩ := hinv.valid _ (.inl rfl)
  rcases CatalogDb.exec_eq_some hc hexec with ⟨hrefused, rfl⟩ | hperform
  · exact ⟨_, hinv, hfailed r (hrefuse r hrefused)⟩
  rcases hstep choice s r s' hinv.ok hrunning hholds hperform with ⟨hbad, rfl⟩ |
    ⟨hgood, hframed, hw'⟩
  · exact ⟨_, hinv, hfailed r hbad⟩
  · exact ⟨_, hinv.write hpermits.1 hframed hw', hdone r hgood⟩

def Deleting (log : List catalogs.Event) : Prop := log.any (·.call.startsDelete) = true

theorem Deleting.append (h : Deleting log) (e : catalogs.Event) : Deleting (log ++ [e]) := by
  simp only [Deleting, any_append, Bool.or_eq_true]
  exact .inl h

variable {plans : List CatalogPlan} {promos : List CatalogPromo} {now : Int}

theorem sees_writing (hw : w = .fresh ∨ Deleting log) :
    syncing.Sees i (i, .writing x w) (.replace plans promos now) log (some c) := by
  refine ⟨rfl, hw.imp_right fun hlog => ⟨⟨plans, promos, now, rfl⟩, hlog, ?_⟩⟩
  intro hnone
  cases hnone

/-- The sync has committed, or its transaction is still to be rolled back. -/
def Rewritten (i x : ℕ) (plans : List CatalogPlan) (promos : List CatalogPromo) (now : Int)
    (g : ℕ × Stage) (log : List catalogs.Event) (out : Except SyncError Unit) : Prop :=
  (g = (i, .done x plans promos now) ∧ ∃ e ∈ log, e.call = .commit x) ∨
    (∃ e, out = .error e) ∧ ∃ w, g = (i, .writing x w) ∧ (w = .fresh ∨ Deleting log)

theorem wp_insertPlans (rows : List CatalogPlan) (hlog : Deleting log)
    (hf : ∀ log, Deleting log → syncing.Wp i (.replace plans promos now)
      (Rewritten i x plans promos now) (i, .writing x { w with plans := w.plans ++ rows }) log
      f.run) :
    syncing.Wp i (.replace plans promos now) (Rewritten i x plans promos now) (i, .writing x w) log
      (insertPlans x rows >>= fun _ => f).run := by
  induction rows generalizing w log with
  | nil =>
    have hsame : { w with plans := w.plans ++ [] } = w := by rw [append_nil]
    rw [hsame] at hf
    exact hf log hlog
  | cons row rows ih =>
    unfold insertPlans
    split
    · rw [bind_assoc]
      apply Wp.exceptBind
      refine wp_write rfl (sees_writing (.inr hlog)) (by rintro _ ⟨⟩; exact ⟨_, rfl⟩)
        (fun _ _ _ _ hok hx hw h => step_insertPlan hok hx hw h) ?_ ?_
      · rintro r ⟨e, rfl⟩
        exact .inr ⟨⟨e, rfl⟩, w, rfl, .inr (hlog.append _)⟩
      · rintro r rfl
        apply ih (hlog.append _)
        intro log' hlog'
        rw [append_assoc]
        exact hf log' hlog'
    · exact .inr ⟨⟨_, rfl⟩, w, rfl, .inr hlog⟩

theorem wp_insertPromos (rows : List CatalogPromo) (hlog : Deleting log)
    (hf : ∀ log, Deleting log → syncing.Wp i (.replace plans promos now)
      (Rewritten i x plans promos now) (i, .writing x { w with promos := w.promos ++ rows }) log
      f.run) :
    syncing.Wp i (.replace plans promos now) (Rewritten i x plans promos now) (i, .writing x w) log
      (insertPromos x rows >>= fun _ => f).run := by
  induction rows generalizing w log with
  | nil =>
    have hsame : { w with promos := w.promos ++ [] } = w := by rw [append_nil]
    rw [hsame] at hf
    exact hf log hlog
  | cons row rows ih =>
    unfold insertPromos
    rw [bind_assoc]
    apply Wp.exceptBind
    refine wp_write rfl (sees_writing (.inr hlog)) (by rintro _ ⟨⟩; exact ⟨_, rfl⟩)
      (fun _ _ _ _ hok hx hw h => step_insertPromo hok hx hw h) ?_ ?_
    · rintro r ⟨e, rfl⟩
      exact .inr ⟨⟨e, rfl⟩, w, rfl, .inr (hlog.append _)⟩
    · rintro r rfl
      apply ih (hlog.append _)
      intro log' hlog'
      rw [append_assoc]
      exact hf log' hlog'

/-- The commit takes place, whatever is answered, or fails. -/
theorem exec_commit {r : Except SyncError Unit}
    (hexec : CatalogDb.exec choice (.commit x) s = some (r, s')) :
    ((∃ e, r = .error e) ∧ s' = s) ∨ s' = { s with xacts := s.xacts.commit x } := by
  unfold CatalogDb.exec at hexec
  split at hexec
  · obtain ⟨r', hrefuse, hout⟩ := Option.map_eq_some_iff.mp hexec
    cases hrefuse
    cases hout
    dsimp only
    split
    · exact .inr rfl
    · exact .inl ⟨⟨_, rfl⟩, rfl⟩
  · cases hexec
    exact .inr rfl

theorem exec_rollback {r : Unit} (hexec : CatalogDb.exec choice (.rollback x) s = some (r, s')) :
    s' = { s with xacts := s.xacts.rollback x } := by
  rcases CatalogDb.exec_eq_some rfl hexec with ⟨hrefuse, rfl⟩ | hperform
  · cases hrefuse
  · cases hperform
    rfl

theorem wp_commit (hlog : Deleting log) :
    syncing.Wp i (.replace plans promos now) (Rewritten i x plans promos now)
      (i, .writing x ⟨none, plans, True, promos, True, [now], True⟩) log
      (run (query (.commit x))).run := by
  refine ⟨sees_writing (.inr hlog), fun s rest choice r s' hinv hpermits hexec => ?_⟩
  obtain ⟨hrest, halone⟩ := hpermits
  obtain ⟨hfresh, hreading⟩ := halone rfl
  rcases exec_commit hexec with ⟨⟨e, rfl⟩, rfl⟩ | rfl
  · exact ⟨_, hinv, .inr ⟨⟨e, rfl⟩, _, rfl, .inr (hlog.append _)⟩⟩
  · refine ⟨(i, .done x plans promos now), hinv.commit hrest rfl hfresh hreading, ?_⟩
    exact .inl ⟨rfl, ⟨.commit x, r⟩, by simp, rfl⟩

theorem wp_startDelete {f : List ℕ → ExceptT SyncError CatalogProc Unit}
    (hw : w = .fresh ∨ Deleting log)
    (hf : ∀ log snapshot, Deleting log → syncing.Wp i (.replace plans promos now)
      (Rewritten i x plans promos now) (i, .writing x { w with snapshot := some snapshot }) log
      (f snapshot).run) :
    syncing.Wp i (.replace plans promos now) (Rewritten i x plans promos now) (i, .writing x w) log
      (run (query (.startDelete x)) >>= f).run := by
  apply Wp.exceptBind
  refine wp_write rfl (sees_writing hw) (by rintro _ ⟨⟩; exact ⟨_, rfl⟩)
    (fun _ _ _ _ _ _ hholds h => step_startDelete hholds h) ?_ ?_
  · rintro r ⟨e, rfl⟩
    exact .inr ⟨⟨e, rfl⟩, w, rfl, hw.imp_right (·.append _)⟩
  · rintro r ⟨snapshot, rfl⟩
    apply hf
    simp [Deleting, CatalogCall.startsDelete]

theorem wp_rewrite : syncing.Wp i (.replace plans promos now) (Rewritten i x plans promos now)
      (i, .writing x .fresh) log (rewrite x plans promos now).run := by
  apply wp_startDelete (.inl rfl)
  intro log snapshot hlog
  apply Wp.exceptBind
  refine wp_write rfl (sees_writing (.inr hlog)) (by rintro _ ⟨⟩; exact ⟨_, rfl⟩)
    (fun _ _ _ _ hok hx hw h => step_deletePlans hok hx hw rfl rfl h) ?_ ?_
  · rintro r ⟨e, rfl⟩
    exact .inr ⟨⟨e, rfl⟩, _, rfl, .inr (hlog.append _)⟩
  rintro r rfl
  apply wp_startDelete (.inr (hlog.append _))
  intro log snapshot hlog
  apply Wp.exceptBind
  refine wp_write rfl (sees_writing (.inr hlog)) (by rintro _ ⟨⟩; exact ⟨_, rfl⟩)
    (fun _ _ _ _ hok hx hw h => step_deletePromos hok hx hw rfl rfl h) ?_ ?_
  · rintro r ⟨e, rfl⟩
    exact .inr ⟨⟨e, rfl⟩, _, rfl, .inr (hlog.append _)⟩
  rintro r rfl
  apply wp_insertPlans plans (hlog.append _)
  intro log hlog
  apply wp_insertPromos promos hlog
  intro log hlog
  apply Wp.exceptBind
  refine wp_write rfl (sees_writing (.inr hlog)) (by rintro _ ⟨⟩; exact ⟨_, rfl⟩)
    (fun _ _ _ _ hok hx hw h => step_stampSync hok hx hw rfl h) ?_ ?_
  · rintro r ⟨e, rfl⟩
    exact .inr ⟨⟨e, rfl⟩, _, rfl, .inr (hlog.append _)⟩
  rintro r rfl
  exact wp_commit (hlog.append _)

def Returned (g : ℕ × Stage) (value : Except SyncError (Option CatalogSnapshot)) : Prop :=
  ∀ snapshot, value = .ok (some snapshot) → g.2 = .read snapshot

/-- A sync is done when its transaction commits. -/
theorem follows_replace : syncing.Follows Returned i (i, .idle) ⟨.replace plans promos now, [],
      CatalogTask.body (.replace plans promos now)⟩ := by
  apply Wp.bind
  apply Wp.exceptBind
  refine ⟨⟨rfl, trivial⟩, fun s rest choice r s' hinv hpermits hexec => ?_⟩
  rcases CatalogDb.exec_eq_some rfl hexec with ⟨hrefuse, rfl⟩ | hperform
  · cases hrefuse
    exact ⟨_, hinv, ⟨rfl, trivial⟩, nofun⟩
  cases hperform
  refine ⟨(i, .writing s.xacts.next .fresh), hinv.begin, ?_⟩
  apply Wp.bind
  apply wp_rewrite.mono
  rintro g log out (⟨rfl, event, hevent, hcall⟩ | ⟨⟨e, rfl⟩, w, rfl, hw⟩)
  · have hlog : ∀ events, ∃ e ∈ log ++ events, e.call = .commit s.xacts.next :=
      fun events => ⟨event, mem_append_left events hevent, hcall⟩
    cases out with
    | ok _ => exact ⟨⟨rfl, rfl, event, hevent, hcall⟩, nofun⟩
    | error e =>
      -- The answer to the commit got lost, and there is nothing to roll back.
      refine ⟨⟨rfl, rfl, event, hevent, hcall⟩, fun t rest choice r t' hinv hpermits hexec => ?_⟩
      obtain rfl := exec_rollback hexec
      have hcommitted : s.xacts.next ∈ t.xacts.committed := hinv.valid _ (.inl rfl)
      rw [Xacts.rollback_of_not_mem fun hrunning =>
        hinv.ok.xacts.disjoint _ hrunning hcommitted]
      exact ⟨_, hinv, ⟨rfl, rfl, hlog _⟩, nofun⟩
  · refine ⟨sees_writing hw, fun t rest choice r t' hinv hpermits hexec => ?_⟩
    obtain rfl := exec_rollback hexec
    refine ⟨(i, .idle), hinv.rollback rfl ?_, ⟨rfl, trivial⟩, nofun⟩
    intro j w' hmem
    exact hpermits.1 _ hmem (hinv.apart (.inr hmem) (.inl rfl))

/-- What a read has seen, if it goes on, is what the tables show, in any order. -/
def Stage.Saw (s : CatalogDb) : Stage → Prop
  | .idle => True
  | .reading plans promos => plans.Perm s.shown.plans ∧ ∀ q ∈ promos, q.Perm s.shown.promos
  | .read snapshot => snapshot.plans.Perm s.shown.plans ∧ snapshot.promos.Perm s.shown.promos ∧
      snapshot.lastSyncedAt = s.shown.lastSyncedAt
  | .writing .. | .done .. => False

theorem Sourced.perm {notes : Set (ℕ × Stage)} {shown snapshot : CatalogSnapshot}
    (h : Sourced notes shown) (hplans : snapshot.plans.Perm shown.plans)
    (hpromos : snapshot.promos.Perm shown.promos)
    (hsynced : snapshot.lastSyncedAt = shown.lastSyncedAt) : Sourced notes snapshot := by
  rcases h with rfl | ⟨i, x, plans, promos, now, hmem, hplans', hpromos', hnow⟩
  · obtain ⟨plans, promos, lastSyncedAt⟩ := snapshot
    obtain rfl := hplans.eq_nil
    obtain rfl := hpromos.eq_nil
    obtain rfl := hsynced
    exact .inl rfl
  · exact .inr ⟨i, x, plans, promos, now, hmem, hplans.trans hplans', hpromos.trans hpromos',
      hsynced.trans hnow⟩

theorem wp_look {g : Stage} (hc : c.commits = false)
    (hsees : syncing.Sees i (i, g) task log (some c)) (hg : g.open = true)
    (hrefuse : ∀ r, CatalogDb.refuse c = some r → Q (i, .idle) (log ++ [⟨c, r⟩]) r)
    (hstep : ∀ choice s r s', g.Valid s → CatalogDb.perform choice c s = some (r, s') →
      s' = s ∧ ∃ g', g'.Saw s ∧ Q (i, g') (log ++ [⟨c, r⟩]) r) :
    syncing.Wp i task Q (i, g) log (query c) := by
  refine ⟨hsees, fun s rest choice r s' hinv hpermits hexec => ?_⟩
  have hvalid := hinv.valid _ (.inl rfl)
  rcases CatalogDb.exec_eq_some hc hexec with ⟨hrefused, rfl⟩ | hperform
  · exact ⟨(i, .idle), hinv.look hg trivial nofun hpermits.1 nofun, hrefuse r hrefused⟩
  obtain ⟨rfl, g', hsaw, hQ⟩ := hstep choice s r s' hvalid hperform
  refine ⟨(i, g'), ?_, hQ⟩
  cases g' with
  | writing | done => exact hsaw.elim
  | idle | reading =>
    exact hinv.look hg hsaw nofun hpermits.1 nofun
  | read snapshot =>
    have hstay : (Stage.read snapshot).Valid s' := trivial
    apply hinv.look hg hstay nofun hpermits.1
    intro _ heq
    cases heq
    exact (hinv.source.swap hg).perm hsaw.1 hsaw.2.1 hsaw.2.2

section

variable {choice : CatalogChoice} {s s' : CatalogDb}

theorem perform_selectPlans {r : Except SyncError (List CatalogPlan)}
    (hperform : CatalogDb.perform choice .selectPlans s = some (r, s')) :
    s' = s ∧ ∃ plans, r = .ok plans ∧ plans.Perm s.shown.plans := by
  simp only [CatalogDb.perform] at hperform
  split at hperform
  · rename_i horder
    cases hperform
    exact ⟨rfl, _, rfl, horder.1⟩
  · cases hperform

theorem perform_selectPromos {r : Except SyncError (List CatalogPromo)}
    (hperform : CatalogDb.perform choice .selectPromos s = some (r, s')) :
    s' = s ∧ ∃ promos, r = .ok promos ∧ promos.Perm s.shown.promos := by
  simp only [CatalogDb.perform] at hperform
  split at hperform
  · rename_i horder
    cases hperform
    exact ⟨rfl, _, rfl, horder⟩
  · cases hperform

end

/-- Both statements of a read see one catalog. -/
theorem follows_read :
    syncing.Follows Returned i (i, .idle) ⟨.read, [], CatalogTask.body .read⟩ := by
  have hfailed : ∀ log e, syncing.Sees i (i, .idle) .read log none ∧
      Returned (i, .idle) (.error e) :=
    fun _ _ => ⟨⟨rfl, trivial⟩, nofun⟩
  have hsees : ∀ {log c e plans promos}, syncing.Sees i (i, .reading plans promos) .read
      (log ++ [e]) (some c) :=
    ⟨rfl, rfl, concat_ne_nil _ _, nofun⟩
  apply Wp.bind
  apply Wp.exceptBind
  apply wp_look rfl ⟨rfl, trivial⟩ rfl
  · rintro _ ⟨⟩
    exact hfailed _ _
  intro choice s r s' _ hperform
  obtain ⟨rfl, plans, rfl, hplans⟩ := perform_selectPlans hperform
  refine ⟨rfl, .reading plans none, ⟨hplans, nofun⟩, ?_⟩
  apply Wp.exceptBind
  apply wp_look rfl hsees rfl
  · rintro _ ⟨⟩
    exact hfailed _ _
  intro choice s r s' hvalid hperform
  obtain ⟨rfl, promos, rfl, hpromos⟩ := perform_selectPromos hperform
  refine ⟨rfl, .reading plans (some promos), ⟨hvalid.1, ?_⟩, ?_⟩
  · rintro _ ⟨⟩
    exact hpromos
  apply Wp.exceptBind
  apply wp_look rfl hsees rfl
  · rintro _ ⟨⟩
    exact hfailed _ _
  intro choice s r s' hvalid hperform
  cases hperform
  refine ⟨rfl, .read ⟨plans, promos, s.shown.lastSyncedAt⟩,
    ⟨hvalid.1, hvalid.2 promos rfl, rfl⟩, ⟨rfl, rfl⟩, ?_⟩
  intro snapshot heq
  cases heq
  rfl

end

/-! ## Whole runs -/

theorem SyncInv.idle {s : CatalogDb} {notes : Set (ℕ × Stage)} (h : SyncInv s notes) (i : ℕ) :
    SyncInv s (insert (i, .idle) notes) where
  ok := h.ok
  source := h.source.mono fun _ _ _ _ _ => .inr
  valid := by
    rintro g (rfl | hmem)
    · trivial
    · exact h.valid g hmem
  apart := by
    rintro j k x w w' (heq | hmem) (heq' | hmem')
    · cases heq
    · cases heq
    · cases heq'
    · exact h.apart hmem hmem'
  read := by
    rintro j snapshot (heq | hmem)
    · cases heq
    · exact (h.read hmem).mono fun _ _ _ _ _ => .inr

theorem syncInv_empty : SyncInv .empty ∅ where
  ok := ⟨.empty, nofun, nofun, nofun⟩
  source := .inl rfl
  valid _ h := h.elim
  apart h := h.elim
  read h := h.elim

/-- A task that the outline has in the middle is under way. -/
theorem underway_of_sees {i : ℕ} {g : ℕ × Stage} {th : catalogs.Thread}
    (hsees : syncing.Sees i g th.task th.log th.pending)
    (hg : (∃ x w, g.2 = .writing x w ∧ w ≠ .fresh) ∨ ∃ plans promos, g.2 = .reading plans promos) :
    underway th = true := by
  obtain ⟨k, st⟩ := g
  rcases hg with ⟨x, w, rfl, hw⟩ | ⟨plans, promos, rfl⟩
  · obtain ⟨-, hfresh | ⟨⟨plans, promos, now, htask⟩, hlog, hpending⟩⟩ := hsees
    · exact absurd hfresh hw
    · simp [underway, World.Thread.done, htask, hlog, Option.isSome_iff_ne_none, hpending]
  · obtain ⟨-, htask, hlog, hpending⟩ := hsees
    simp [underway, World.Thread.done, htask, hlog, Option.isSome_iff_ne_none, hpending]

theorem sound_syncing : syncing.Sound Returned CommitsAlone where
  spawn cfg task notes _ hinv := by
    refine ⟨(cfg.threads.length, .idle), ?_, hinv.idle _⟩
    cases task with
    | replace plans promos now => exact follows_replace
    | read => exact follows_read
  env cfg e := e.elim
  permits cfg i choice th c next g rest hguard hth hprog hsees hothers := by
    have hpending : th.pending = some c := by rw [World.Thread.pending, hprog]
    have hidle : c.commits = true → ∀ g' ∈ rest, ∃ j th',
        syncing.Sees j g' th'.task th'.log th'.pending ∧ underway th' = false := by
      intro hcommits g' hmem
      obtain ⟨j, th', hth', hsees', hne⟩ := hothers g' hmem
      have halone := hguard ⟨th, hth, by rw [hpending]; exact hcommits⟩ j
        (List.getElem?_eq_some_iff.mp hth').1 hne
      rw [hth'] at halone
      exact ⟨j, th', hsees', halone⟩
    refine ⟨?_, fun hcommits => ⟨?_, ?_⟩⟩
    · intro g' hmem heq
      obtain ⟨j, th', -, hsees', hne⟩ := hothers g' hmem
      exact hne (hsees'.1.symm.trans (heq.trans hsees.1))
    · intro j x w hmem
      obtain ⟨k, th', hsees', hidle⟩ := hidle hcommits _ hmem
      by_contra hfresh
      rw [underway_of_sees hsees' (.inl ⟨x, w, rfl, hfresh⟩)] at hidle
      cases hidle
    · intro j plans promos hmem
      obtain ⟨k, th', hsees', hidle⟩ := hidle hcommits _ hmem
      rw [underway_of_sees hsees' (.inr ⟨plans, promos, rfl⟩)] at hidle
      cases hidle

/-- If every sync commits while no other task is under way, then a read returns the catalog of
one sync that has committed, or the empty one. -/
theorem reads_are_synced {acts : List catalogs.Action} {cfg : catalogs.Config}
    (hrun : catalogs.system.run (.start .empty) acts = some cfg)
    (halone : catalogs.system.Along CommitsAlone (.start .empty) acts)
    {th : catalogs.Thread} (hth : th ∈ cfg.threads) {snapshot : CatalogSnapshot}
    (hret : th.prog = .ret (.ok (some snapshot))) : Synced cfg snapshot := by
  have : Inhabited (ℕ × Stage) := ⟨(0, .idle)⟩
  obtain ⟨note, hfollows, hinv⟩ :=
    sound_syncing.run (annotates_start syncInv_empty) halone hrun
  obtain ⟨i, hi, rfl⟩ := List.mem_iff_getElem.mp hth
  have hread := (hfollows i _ (List.getElem?_eq_some_iff.mpr ⟨hi, rfl⟩)).fin hret snapshot rfl
  have hmem : ((note i).1, Stage.read snapshot) ∈ {g | ∃ j < cfg.threads.length, note j = g} :=
    ⟨i, hi, Prod.ext rfl hread⟩
  rcases hinv.read hmem with hempty | ⟨j, x, plans, promos, now, hdone, hoffers⟩
  · exact .inl hempty
  · have hcommitted : x ∈ cfg.state.xacts.committed := hinv.valid _ hdone
    obtain ⟨k, hk, hnote⟩ := hdone
    have hsees := (hfollows k _ (List.getElem?_eq_some_iff.mpr ⟨hk, rfl⟩)).sees
    rw [hnote] at hsees
    obtain ⟨-, htask, e, he, hcall⟩ := hsees
    refine .inr ⟨cfg.threads[k], List.getElem_mem hk, ⟨e, he, x, hcommitted, hcall⟩, ?_⟩
    rw [htask]
    exact hoffers

/-! ## One sync after the other, and two that meet -/

instance (task : CatalogTask) (snapshot : CatalogSnapshot) : Decidable (task.Offers snapshot) :=
  match task with
  | .replace plans promos now => inferInstanceAs (Decidable (snapshot.plans.Perm plans ∧
      snapshot.promos.Perm promos ∧ snapshot.lastSyncedAt = some now))
  | .read => isFalse id

instance (cfg : catalogs.Config) (snapshot : CatalogSnapshot) : Decidable (Synced cfg snapshot) :=
  inferInstanceAs (Decidable (snapshot = ⟨[], [], none⟩ ∨ ∃ th ∈ cfg.threads,
    (∃ e ∈ th.log, ∃ x ∈ cfg.state.xacts.committed, e.call = .commit x) ∧ th.task.Offers snapshot))

instance (cfg : catalogs.Config) (a : catalogs.Action) : Decidable (CommitsAlone cfg a) :=
  match a with
  | .step i _ => inferInstanceAs (Decidable (
      (∃ th ∈ cfg.threads[i]?, th.pending.any (·.commits) = true) →
        ∀ j < cfg.threads.length, j ≠ i → cfg.threads[j]?.any underway = false))
  | .spawn _ | .env _ => isTrue trivial

def samplePlan (priceId : String) : CatalogPlan :=
  ⟨priceId, "product", "Plan", 1, ⟨1, 5⟩, 500, "usd", "month"⟩

/-- A statement of task `i` that succeeds, and the rows it may list. -/
def stepOk (i : ℕ) (plans : List CatalogPlan) : catalogs.Action := .step i ⟨false, false, plans, []⟩

def sampleSync (priceId : String) (now : Int) : CatalogTask := .replace [samplePlan priceId] [] now

def sampleQuiet : List catalogs.Action :=
  .spawn (sampleSync "price-1" 10) :: replicate 8 (stepOk 0 []) ++
    .spawn .read :: replicate 3 (stepOk 1 [samplePlan "price-1"])

/-- A second sync between the first statement of the read and the second one. -/
def sampleMixed : List catalogs.Action :=
  .spawn (sampleSync "price-1" 10) :: replicate 8 (stepOk 0 []) ++
    [.spawn .read, stepOk 1 [samplePlan "price-1"]] ++
    .spawn (sampleSync "price-2" 20) :: replicate 8 (stepOk 2 []) ++
    replicate 2 (stepOk 1 [])

/-- Two syncs that have both deleted before the first one commits, and then a read. -/
def sampleMerged : List catalogs.Action :=
  [.spawn (sampleSync "price-1" 10), .spawn (sampleSync "price-2" 20)] ++
    replicate 7 (stepOk 0 []) ++ replicate 6 (stepOk 1 []) ++
    [stepOk 0 [], stepOk 1 [], stepOk 1 []] ++
    .spawn .read :: replicate 3 (stepOk 2 [samplePlan "price-1", samplePlan "price-2"])

theorem reads_are_synced_sample : Synced (catalogs.system.runD (.start .empty) sampleQuiet)
      ⟨[samplePlan "price-1"], [], some 10⟩ :=
  reads_are_synced (System.run_eq_some_runD _ (by decide +kernel)) (by decide +kernel)
    (List.mem_of_getElem? (i := 1) rfl) rfl

/-- The run has a read return a catalog that is not the one of any sync. -/
def ReadsUnsynced (acts : List catalogs.Action) (snapshot : CatalogSnapshot) : Prop :=
  ∃ cfg, catalogs.system.run (.start .empty) acts = some cfg ∧
    (∃ th ∈ cfg.threads, th.prog = .ret (.ok (some snapshot))) ∧ ¬ Synced cfg snapshot

/-- A read returns the plans of one sync with the time of the next one, or the plans of two. -/
theorem reads_can_mix : ReadsUnsynced sampleMixed ⟨[samplePlan "price-1"], [], some 20⟩ ∧
      ReadsUnsynced sampleMerged ⟨[samplePlan "price-1", samplePlan "price-2"], [], some 20⟩ := by
  constructor
  · refine ⟨_, System.run_eq_some_runD _ (by decide +kernel),
      ⟨_, List.mem_of_getElem? (i := 1) rfl, rfl⟩, ?_⟩
    decide +kernel
  · refine ⟨_, System.run_eq_some_runD _ (by decide +kernel),
      ⟨_, List.mem_of_getElem? (i := 2) rfl, rfl⟩, ?_⟩
    decide +kernel

end Wardnet.Billing
