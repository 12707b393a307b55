/-
# Rely conditions for interleaved tasks

An outline whose tasks need to know nothing about each other beyond one relation:
what any permitted call may do to the state. A note is a ghost value that the
invariant reads, together with a fact about the state that the relation cannot
destroy, so that a task may rely on what it has learned however the others move.

`Rely.Triple` is the resulting Hoare triple for procedures. Its pre- and
postconditions are predicates on notes: what the task knows before, and what it
knows and returns after.
-/

import Mathlib.Data.List.Induction
import Mathlib.Data.Set.Image
import Wardnet.Base.Pool

namespace Wardnet.Base

open Outline List

open World

/-- What the tasks of a world may rely on. -/
structure Rely (W : World) where
  /-- The ghost value a task carries. -/
  Ghost : Type
  /-- The invariant, over the state and the ghost values of all started tasks. -/
  Inv : W.State → Set Ghost → Prop
  /-- The tasks that may be started. -/
  Spawns : W.Task → Prop := fun _ => True
  /-- The condition on moves of the surroundings. -/
  Moves : W.State → W.Env → Prop := fun _ _ => True
  /-- The condition on calls. -/
  Permits : W.State → W.Call → W.Choice → Prop
  /-- What the ghost value of a task says about its pending call. -/
  Shows : Ghost → W.Call → Prop := fun _ _ => True
  /-- What permitted calls may do to the state. -/
  Rel : W.State → W.State → Prop
  exec_rel : ∀ {s c choice r s'}, Permits s c choice → W.exec choice c s = some (r, s') → Rel s s'
  /-- The ghost value of a new task. -/
  idle : Ghost
  inv_idle : ∀ {s ghosts}, Inv s ghosts → Inv s (insert idle ghosts)
  env_rel : ∀ {e s s'}, Moves s e → W.env e s = some s' → Rel s s'
  env_inv : ∀ {e s s' ghosts}, Moves s e → W.env e s = some s' → Inv s ghosts → Inv s' ghosts

namespace Rely

variable {W : World} (R : Rely W)

/-- What a task carries along: its ghost value, and a fact that no permitted call
destroys. -/
structure Note where
  ghost : R.Ghost
  fact : W.State → Prop
  stable : ∀ {s s'}, R.Rel s s' → fact s → fact s'

def Note.new : R.Note := ⟨R.idle, fun _ => True, fun _ _ => trivial⟩

variable {R}

variable (R) in
/-- The note carries the ghost value `x` and guarantees `P`. -/
def Has (x : R.Ghost) (P : W.State → Prop) (g : R.Note) : Prop :=
  g.ghost = x ∧ ∀ s, g.fact s → P s

theorem Has.mono {x : R.Ghost} {P P' : W.State → Prop} (hP : ∀ s, P s → P' s) {g : R.Note}
    (h : R.Has x P g) : R.Has x P' g :=
  ⟨h.1, fun s hfact => hP s (h.2 s hfact)⟩

theorem has_new : R.Has R.idle (fun _ => True) (Note.new R) := ⟨rfl, fun _ _ => trivial⟩

variable (R) in
def outline : Outline W R.Note where
  Inv s notes := R.Inv s (Note.ghost '' notes) ∧ ∀ g ∈ notes, g.fact s
  Sees _ g _ _ pending := ∀ c ∈ pending, R.Shows g.ghost c
  Permits s _ _ c choice := R.Permits s c choice

variable (R) in
/-- From every note that satisfies `P`, the procedure keeps the invariant and
returns with a note and a value that satisfy `Q`, however the others move. -/
def Triple {α : Type} (P : R.Note → Prop) (p : Prog W.Call W.Resp α)
    (Q : α → R.Note → Prop) : Prop :=
  ∀ g, P g → ∀ i task log, R.outline.Wp i task (fun g' _ value => Q value g') g log p

variable (R) in
/-- Whatever it returns, the procedure keeps the ghost value and what is known. -/
abbrev Keeps {α : Type} (x : R.Ghost) (P : W.State → Prop) (p : Prog W.Call W.Resp α) : Prop :=
  R.Triple (R.Has x P) p fun _ => R.Has x P

/-- A postcondition on results: `Q` on an ordinary answer, `E` on an error. -/
def orElse {α ε : Type} (Q : α → R.Note → Prop) (E : R.Note → Prop) : Except ε α → R.Note → Prop
  | .ok value => Q value
  | .error _ => E

theorem orElse_const {α ε : Type} (Q : R.Note → Prop) :
    (orElse (fun _ => Q) Q : Except ε α → R.Note → Prop) = fun _ => Q := by
  funext r
  cases r with
  | ok | error => rfl

theorem orElse_mono {α ε : Type} {Q Q' : α → R.Note → Prop} {E E' : R.Note → Prop}
    (hQ : ∀ value g, Q value g → Q' value g) (hE : ∀ g, E g → E' g) :
    ∀ (r : Except ε α) (g : R.Note), orElse Q E r g → orElse Q' E' r g
  | .ok value, g => hQ value g
  | .error _, g => hE g

namespace Triple

variable {α β ε : Type} {P : R.Note → Prop} {Q : α → R.Note → Prop}

theorem ret {value : α} (h : ∀ g, P g → Q value g) : R.Triple P (.ret value) Q :=
  fun g hg _ _ _ => h g hg

variable {p : Prog W.Call W.Resp α} {E : R.Note → Prop}

variable {f : α → ExceptT ε (Prog W.Call W.Resp) β} {Q' : β → R.Note → Prop} {x : R.Ghost}

theorem bind {f : α → Prog W.Call W.Resp β} (hp : R.Triple P p Q)
    (hf : ∀ value, R.Triple (Q value) (f value) Q') :
    R.Triple P (p.bind f) Q' := by
  intro g hg i task log
  apply Wp.bind
  apply Wp.mono _ (hp g hg i task log)
  intro g' log' value hq
  exact hf value g' hq i task log'

theorem conseq {P' : R.Note → Prop} {Q' : α → R.Note → Prop} (h : R.Triple P p Q)
    (hP : ∀ g, P' g → P g) (hQ : ∀ value g, Q value g → Q' value g) :
    R.Triple P' p Q' := by
  intro g hg i task log
  apply Wp.mono _ (h g (hP g hg) i task log)
  intro g' _ value hq
  exact hQ value g' hq

theorem of_exists {ι : Type} {C : ι → Prop} {P : ι → R.Note → Prop}
    (h : ∀ x, C x → R.Triple (P x) p Q) : R.Triple (fun g => ∃ x, C x ∧ P x g) p Q := by
  rintro g ⟨x, hx, hg⟩
  exact h x hx g hg

theorem lift (hp : R.Triple P p Q) :
    R.Triple P (ExceptT.lift p : ExceptT ε (Prog W.Call W.Resp) α).run (orElse Q E) :=
  bind hp fun _ => ret fun _ h => h

theorem exceptBind {p : ExceptT ε (Prog W.Call W.Resp) α} (hp : R.Triple P p.run (orElse Q E))
    (hf : ∀ value, R.Triple (Q value) (f value).run (orElse Q' E)) :
    R.Triple P (p >>= f).run (orElse Q' E) := by
  apply bind hp
  intro r
  cases r with
  | ok value => exact hf value
  | error e => exact ret fun _ h => h

/-- The same condition on both outcomes. -/
theorem orElse_const {p : Prog W.Call W.Resp (Except ε α)} {Q : R.Note → Prop} :
    R.Triple P p (orElse (fun _ => Q) Q) ↔ R.Triple P p fun _ => Q := by
  rw [Rely.orElse_const]

theorem exceptBind_const {p : ExceptT ε (Prog W.Call W.Resp) α} {Q : R.Note → Prop}
    (hp : R.Triple P p.run fun _ => Q) (hf : ∀ value, R.Triple Q (f value).run fun _ => Q) :
    R.Triple P (p >>= f).run fun _ => Q := by
  rw [← orElse_const] at hp ⊢
  exact exceptBind hp fun value => orElse_const.mpr (hf value)

theorem mapError {ε' : Type} {p : Prog W.Call W.Resp (Except ε α)} (hp : R.Triple P p (orElse Q E))
    (f : ε → ε') :
    R.Triple P (p.bind fun r => .ret (r.mapError f)) (orElse Q E) := by
  apply bind hp
  intro r
  cases r with
  | ok | error => exact ret fun _ h => h

/-- One call: the task's own ghost value is renewed, and it learns a stable fact;
what it knew, and what the others know, holds on by itself. -/
theorem call {c : W.Call} {P : W.State → Prop} {y : W.Resp c → R.Ghost}
    {F : W.Resp c → W.State → Prop} (hshows : R.Shows x c)
    (hstable : ∀ r s s', R.Rel s s' → F r s → F r s') {Q : W.Resp c → R.Note → Prop}
    (hcall : ∀ s others choice r s', R.Inv s (insert x others) → P s → R.Permits s c choice →
      W.exec choice c s = some (r, s') → R.Inv s' (insert (y r) others) ∧ F r s' ∧
        ∀ g, R.Has (y r) (fun s => P s ∧ F r s) g → Q r g) :
    R.Triple (R.Has x P) (perform c) Q := by
  intro g hg i task log
  obtain ⟨rfl, hknows⟩ := hg
  refine ⟨fun c' hc' => Option.some.inj hc' ▸ hshows,
    fun s rest choice r s' hinv hpermits hexec => ?_⟩
  obtain ⟨hinv, hfacts⟩ := hinv
  rw [Set.image_insert_eq] at hinv
  have hfact := hfacts g (Set.mem_insert _ _)
  have hrel := R.exec_rel hpermits hexec
  obtain ⟨hinv', hlearned, hpost⟩ := hcall s _ choice r s' hinv (hknows s hfact) hpermits hexec
  let g' : R.Note := ⟨y r, fun t => g.fact t ∧ F r t,
    fun hstep h => ⟨g.stable hstep h.1, hstable r _ _ hstep h.2⟩⟩
  refine ⟨g', ⟨by rwa [Set.image_insert_eq], ?_⟩, hpost g' ⟨rfl, fun t h => ⟨hknows t h.1, h.2⟩⟩⟩
  intro g₀ hg₀
  rcases hg₀ with rfl | hrest
  · exact ⟨g.stable hrel hfact, hlearned⟩
  · exact g₀.stable hrel (hfacts g₀ (Set.mem_insert_of_mem _ hrest))

/-- Calls that keep the invariant leave the task as it is. -/
theorem of_all {ok : W.Call → Prop} {P : W.State → Prop}
    (hok : ∀ c, ok c → R.Shows x c ∧ ∀ s others choice r s', R.Inv s (insert x others) →
      R.Permits s c choice → W.exec choice c s = some (r, s') → R.Inv s' (insert x others))
    (hall : p.All ok) : R.Triple (R.Has x P) p fun _ => R.Has x P := by
  rintro g ⟨rfl, hknows⟩ i task log
  apply (Wp.of_stable (K := fun _ => True) ?_ ?_ ?_ trivial hall).mono
  · rintro g' _ _ ⟨rfl, -⟩
    exact ⟨rfl, hknows⟩
  · intro _ c _ hc c' hc'
    exact Option.some.inj hc' ▸ (hok c hc).1
  · exact fun _ _ _ _ _ => trivial
  · intro s rest c choice r s' hc hinv hpermits hexec
    have hrel := R.exec_rel hpermits hexec
    refine ⟨?_, fun g' hg' => g'.stable hrel (hinv.2 g' hg')⟩
    have hinv' := hinv.1
    rw [Set.image_insert_eq] at hinv' ⊢
    exact (hok c hc).2 s _ choice r s' hinv' hpermits hexec

end Triple

/-- The condition that a run has to meet: every started task, every call and every move of
the surroundings is permitted. -/
def guard (R : Rely W) (cfg : W.Config) : W.Action → Prop
  | .spawn task => R.Spawns task
  | .step i choice => ∀ th ∈ cfg.threads[i]?, ∀ c ∈ th.pending, R.Permits cfg.state c choice
  | .env e => R.Moves cfg.state e

variable (R) in
/-- Every task that may be started keeps the invariant, and ends with a note and a
result that satisfy `Fin`. -/
def Bodies (Fin : R.Note → W.Result → Prop) : Prop :=
  ∀ task, R.Spawns task →
    R.Triple (R.Has R.idle fun _ => True) (W.body task) fun value g => Fin g value

theorem sound {Fin : R.Note → W.Result → Prop} (hbody : R.Bodies Fin) :
    R.outline.Sound Fin R.guard where
  spawn := by
    intro cfg task notes hspawns hinv
    refine ⟨Note.new R, ?_, ?_, ?_⟩
    · apply Wp.mono _ (hbody task hspawns _ has_new _ task [])
      intro g _ value hfin
      exact ⟨fun c hc => (by cases hc), hfin⟩
    · rw [Set.image_insert_eq]
      exact R.inv_idle hinv.1
    · intro g hg
      rcases hg with rfl | hg
      · trivial
      · exact hinv.2 g hg
  env := fun _ _ _ _ hmoves hinv henv =>
    ⟨R.env_inv hmoves henv hinv.1, fun g hg => g.stable (R.env_rel hmoves henv) (hinv.2 g hg)⟩
  permits := by
    intro cfg i choice th c next g rest hguard hth hprog _ _
    exact hguard th hth c (by simp [Thread.pending, hprog])

section

variable {Fin : R.Note → W.Result → Prop} {s : W.State} {acts : List W.Action} {cfg : W.Config}

/-- Along a run in which every task and call is permitted, the started tasks stay annotated. -/
theorem annotates_of_run (hbody : R.Bodies Fin) (hstart : R.Inv s ∅)
    (halong : W.system.Along R.guard (Config.start s) acts)
    (hrun : W.system.run (Config.start s) acts = some cfg) :
    ∃ note, R.outline.Annotates Fin note cfg := by
  have : Inhabited R.Note := ⟨Note.new R⟩
  exact (sound hbody).run (annotates_start ⟨by simpa using hstart, fun _ hg => hg.elim⟩) halong hrun

/-- The invariant holds with ghost values that show the pending call of every task. -/
theorem inv_of_run (hbody : R.Bodies Fin) (hstart : R.Inv s ∅)
    (halong : W.system.Along R.guard (Config.start s) acts)
    (hrun : W.system.run (Config.start s) acts = some cfg) :
    ∃ ghosts, R.Inv cfg.state ghosts ∧
      ∀ th ∈ cfg.threads, ∀ c ∈ th.pending, ∃ x ∈ ghosts, R.Shows x c := by
  obtain ⟨note, hfollows, hinv, -⟩ := annotates_of_run hbody hstart halong hrun
  refine ⟨_, hinv, fun th hth c hc => ?_⟩
  obtain ⟨i, hi, rfl⟩ := mem_iff_getElem.mp hth
  exact ⟨_, ⟨_, ⟨i, hi, rfl⟩, rfl⟩, (hfollows i _ (getElem?_eq_getElem hi)).sees c hc⟩

variable (R) in
def admits (cfg : W.Config) : W.Action → Prop
  | .spawn task => R.Spawns task
  | .step _ _ => True
  | .env e => R.Moves cfg.state e

/-- Where the ghost value of a task that is about to perform a call permits the call, the
condition on calls need not be assumed. -/
theorem along_guard_of_shows (hbody : R.Bodies Fin) (hstart : R.Inv s ∅)
    (hshown : ∀ {s ghosts x c choice}, R.Inv s ghosts → x ∈ ghosts → R.Shows x c →
      R.Permits s c choice)
    (hadmits : W.system.Along R.admits (Config.start s) acts)
    (hrun : W.system.run (Config.start s) acts = some cfg) :
    W.system.Along R.guard (Config.start s) acts := by
  induction acts using reverseRecOn generalizing cfg with
  | nil => trivial
  | append_singleton acts a ih =>
    obtain ⟨before, hbefore, -⟩ := W.system.run_concat_eq_some.mp hrun
    have halong := ih (W.system.along_append_left hadmits) hbefore
    apply W.system.along_concat halong hbefore
    have hlast := (W.system.along_append_right hadmits hbefore).1
    cases a with
    | spawn | env => exact hlast
    | step i choice =>
      obtain ⟨ghosts, hinv, hpending⟩ := inv_of_run hbody hstart halong hbefore
      intro th hth c hc
      obtain ⟨x, hx, hshows⟩ := hpending th (mem_of_getElem? hth) c hc
      exact hshown hinv hx hshows

/-- When every started task has returned, the invariant holds with ghost values
of returned tasks only. -/
theorem inv_of_all_done (hbody : R.Bodies Fin) (hstart : R.Inv s ∅)
    (halong : W.system.Along R.guard (Config.start s) acts)
    (hrun : W.system.run (Config.start s) acts = some cfg)
    (hdone : ∀ th ∈ cfg.threads, th.done) :
    ∃ ghosts, R.Inv cfg.state ghosts ∧
      (∀ x ∈ ghosts, ∃ (g : R.Note) (value : W.Result), g.ghost = x ∧ Fin g value) ∧
      (cfg.threads ≠ [] → ghosts.Nonempty) := by
  obtain ⟨note, hfollows, hinv, -⟩ := annotates_of_run hbody hstart halong hrun
  refine ⟨_, hinv, ?_, fun hstarted => ⟨_, note 0, ⟨0, length_pos_iff.mpr hstarted, rfl⟩, rfl⟩⟩
  rintro _ ⟨_, ⟨i, hi, rfl⟩, rfl⟩
  have hth : cfg.threads[i]? = some cfg.threads[i] := getElem?_eq_getElem hi
  obtain ⟨value, hret⟩ := Thread.prog_eq_ret_of_done (hdone _ (getElem_mem hi))
  exact ⟨note i, value, rfl, (hfollows i _ hth).fin hret⟩

end

end Rely

end Wardnet.Base
