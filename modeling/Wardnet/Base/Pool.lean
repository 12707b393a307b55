/-
# Interleaved tasks over shared state

A world runs any number of tasks, each a `Prog`, against one shared state. One
step of the pool starts a task, lets one task perform its pending call, or lets
the surroundings change the state. Calls are atomic; everything between two
calls of a task belongs to the other tasks.

A proof about a world is an `Outline`: every task is given an annotation, and
one invariant relates the state to the set of annotations. `Outline.Wp` says
that a procedure follows the outline from an annotation on: each of its calls
keeps the invariant and moves to a next annotation, whatever the other tasks
hold. `Outline.Sound.run` is the resulting rule for whole runs.
-/

import Mathlib.Data.Set.Insert
import Wardnet.Base.Prog
import Wardnet.Base.Run

namespace Wardnet.Base

/-- Shared state, the atomic calls on it, and the tasks that may be started. -/
structure World where
  State : Type
  Call : Type
  Resp : Call → Type
  /-- What a call leaves open: fresh identifiers, failures, the order of a scan. -/
  Choice : Type
  /-- The effect of a call, or `none` where the choice is not possible. -/
  exec : Choice → (c : Call) → State → Option (Resp c × State)
  Task : Type
  Result : Type
  /-- The procedure a task runs. -/
  body : Task → Prog Call Resp Result
  /-- Moves of the surroundings. -/
  Env : Type
  env : Env → State → Option State

namespace World

variable (W : World)

structure Event where
  call : W.Call
  resp : W.Resp call

/-- A started task: what it was started as, the calls it has completed (oldest
first) and what is left of its procedure. -/
structure Thread where
  task : W.Task
  log : List W.Event
  prog : Prog W.Call W.Resp W.Result

structure Config where
  state : W.State
  threads : List W.Thread

inductive Action
  | spawn (task : W.Task)
  | step (i : ℕ) (choice : W.Choice)
  | env (e : W.Env)

variable {W}

def Thread.pending (th : W.Thread) : Option W.Call :=
  match th.prog with
  | .ret _ => none
  | .call c _ => some c

def Thread.done (th : W.Thread) : Bool := th.pending.isNone

def Thread.result (th : W.Thread) : Option W.Result :=
  match th.prog with
  | .ret value => some value
  | .call _ _ => none

def Thread.advance (th : W.Thread) (choice : W.Choice) (s : W.State) :
    Option (W.Thread × W.State) :=
  match th.prog with
  | .ret _ => none
  | .call c next => (W.exec choice c s).map fun out =>
    (⟨th.task, th.log ++ [⟨c, out.1⟩], next out.1⟩, out.2)

def Config.step (cfg : W.Config) : W.Action → Option W.Config
  | .spawn task => some ⟨cfg.state, cfg.threads ++ [⟨task, [], W.body task⟩]⟩
  | .step i choice => do
      let th ← cfg.threads[i]?
      let out ← th.advance choice cfg.state
      some ⟨out.2, cfg.threads.set i out.1⟩
  | .env e => (W.env e cfg.state).map fun s => ⟨s, cfg.threads⟩

variable (W) in
def system : System W.Config W.Action where
  step := Config.step

def Config.start (s : W.State) : W.Config := ⟨s, []⟩

/-! ## One step, inverted -/

variable {th : W.Thread} {choice : W.Choice} {s : W.State} {cfg cfg' : W.Config} {i : ℕ}
  {e : W.Event} {acts : List W.Action} {a : W.Action} {ok : W.Task → W.Call → Prop}

theorem Thread.prog_eq_ret_of_done (hdone : th.done = true) : ∃ value, th.prog = .ret value := by
  cases hprog : th.prog with
  | ret value => exact ⟨value, rfl⟩
  | call c next => simp [done, pending, hprog] at hdone

theorem Thread.result_eq_some {value : W.Result} :
    th.result = some value ↔ th.prog = .ret value := by
  unfold result
  split
  · rename_i value' hprog
    rw [hprog, Option.some.injEq, Prog.ret.injEq]
  · rename_i hprog
    simp [hprog]

variable {th' : W.Thread} {P : W.Task → Prog W.Call W.Resp W.Result → Prop}

theorem Thread.advance_eq_some {s' : W.State} : th.advance choice s = some (th', s') ↔
      ∃ c next r, th.prog = .call c next ∧ W.exec choice c s = some (r, s') ∧
        th' = ⟨th.task, th.log ++ [⟨c, r⟩], next r⟩ := by
  unfold advance
  split
  · rename_i value hprog
    simp [hprog]
  · rename_i c next hprog
    constructor
    · intro h
      obtain ⟨⟨r, t⟩, hexec, hout⟩ := Option.map_eq_some_iff.mp h
      cases hout
      exact ⟨c, next, r, hprog, hexec, rfl⟩
    · rintro ⟨c', next', r, hprog', hexec, rfl⟩
      rw [hprog] at hprog'
      cases hprog'
      simp [hexec]

theorem Config.step_step_eq_some : cfg.step (.step i choice) = some cfg' ↔
      ∃ th th' s', cfg.threads[i]? = some th ∧ th.advance choice cfg.state = some (th', s') ∧
        cfg' = ⟨s', cfg.threads.set i th'⟩ := by
  simp only [Config.step, Option.bind_eq_bind, Option.bind_eq_some_iff, Option.some.injEq,
    Prod.exists]
  constructor
  · rintro ⟨th, hth, th', s', hadv, rfl⟩
    exact ⟨th, th', s', hth, hadv, rfl⟩
  · rintro ⟨th, th', s', hth, hadv, rfl⟩
    exact ⟨th, hth, th', s', hadv, rfl⟩

/-- Task number `i`, which is `th`, performs the call of `e` and is answered as `e`
says. -/
def Config.Performs (cfg : W.Config) (i : ℕ) (th : W.Thread) (e : W.Event) (cfg' : W.Config) :
    Prop :=
  ∃ choice next, cfg.threads[i]? = some th ∧ th.prog = .call e.call next ∧
    W.exec choice e.call cfg.state = some (e.resp, cfg'.state) ∧
    cfg'.threads = cfg.threads.set i ⟨th.task, th.log ++ [e], next e.resp⟩

theorem Config.performs_of_step (hstep : cfg.step (.step i choice) = some cfg') :
    ∃ th e, cfg.Performs i th e cfg' := by
  obtain ⟨th, th', s', hth, hadv, rfl⟩ := Config.step_step_eq_some.mp hstep
  obtain ⟨c, next, r, hprog, hexec, rfl⟩ := Thread.advance_eq_some.mp hadv
  exact ⟨th, ⟨c, r⟩, choice, next, hth, hprog, hexec, rfl⟩

theorem Config.Performs.step (h : cfg.Performs i th e cfg') :
    ∃ choice, cfg.step (.step i choice) = some cfg' := by
  obtain ⟨choice, next, hth, hprog, hexec, hthreads⟩ := h
  refine ⟨choice, Config.step_step_eq_some.mpr ⟨th, _, cfg'.state, hth,
    Thread.advance_eq_some.mpr ⟨e.call, next, e.resp, hprog, hexec, rfl⟩, ?_⟩⟩
  rw [← hthreads]

/-- The task that has just performed a call can be read off the pool. -/
theorem Config.Performs.threads_eq (h : cfg.Performs i th e cfg') :
    ∃ th', cfg'.threads[i]? = some th' ∧ th'.task = th.task ∧ th'.log.getLast? = some e := by
  obtain ⟨_, next, hth, -, -, hthreads⟩ := h
  have hi : i < cfg.threads.length := (List.getElem?_eq_some_iff.mp hth).1
  exact ⟨⟨th.task, th.log ++ [e], next e.resp⟩, by rw [hthreads, List.getElem?_set_self hi], rfl,
    List.getLast?_concat⟩

/-- The last call of a computed run can be read off its last state. -/
theorem exists_performs_runD (hrun : (W.system.run (.start s) (acts ++ [.step i choice])).isSome) :
    ∃ th e, (W.system.runD (.start s) acts).Performs i th e
        (W.system.runD (.start s) (acts ++ [.step i choice])) ∧
      (W.system.runD (.start s) (acts ++ [.step i choice])).threads[i]?.map Thread.task =
        some th.task ∧
      (W.system.runD (.start s) (acts ++ [.step i choice])).threads[i]?.bind (·.log.getLast?) =
        some e := by
  have hlast := W.system.run_eq_some_runD hrun
  obtain ⟨cfg, hcfg, hstep⟩ := W.system.run_concat_eq_some.mp hlast
  have hbefore := W.system.run_eq_some_runD
    (by rw [hcfg]; rfl : (W.system.run (.start s) acts).isSome)
  obtain rfl := Option.some.inj (hbefore.symm.trans hcfg)
  obtain ⟨th, e, hperforms⟩ := Config.performs_of_step hstep
  obtain ⟨th', hth', htask, hlog⟩ := hperforms.threads_eq
  exact ⟨th, e, hperforms, by rw [hth', Option.map_some, htask],
    by rw [hth', Option.bind_some, hlog]⟩

theorem performs_runD (s : W.State) (acts : List W.Action) (i : ℕ) (choice : W.Choice)
    (task : W.Task) (c : W.Call)
    (hrun : (W.system.run (.start s) (acts ++ [.step i choice])).isSome)
    (htask : (W.system.runD (.start s) (acts ++ [.step i choice])).threads[i]?.map Thread.task =
      some task)
    (hcall : ((W.system.runD (.start s) (acts ++ [.step i choice])).threads[i]?.bind
      (·.log.getLast?)).map Event.call = some c) :
    ∃ th r, (W.system.runD (.start s) acts).Performs i th ⟨c, r⟩
      (W.system.runD (.start s) (acts ++ [.step i choice])) ∧ th.task = task := by
  obtain ⟨th, ⟨c', r⟩, hperforms, htask', hlast⟩ := exists_performs_runD hrun
  rw [hlast] at hcall
  cases hcall
  exact ⟨th, r, hperforms, Option.some.inj (htask'.symm.trans htask)⟩

/-- A task is what it was, was just started, or has just performed a call. -/
theorem Config.step_thread (hstep : cfg.step a = some cfg') (hth' : cfg'.threads[i]? = some th') :
    cfg.threads[i]? = some th' ∨ (a = .spawn th'.task ∧ th'.log = []) ∨
      ∃ th e, cfg.Performs i th e cfg' ∧ th'.task = th.task ∧ th'.log = th.log ++ [e] := by
  cases a with
  | spawn task =>
    cases hstep
    by_cases hi : i < cfg.threads.length
    · rw [List.getElem?_append_left hi] at hth'
      exact .inl hth'
    · rw [List.getElem?_append_right (Nat.le_of_not_lt hi)] at hth'
      obtain rfl := List.mem_singleton.mp (List.mem_of_getElem? hth')
      exact .inr (.inl ⟨rfl, rfl⟩)
  | step j choice =>
    obtain ⟨th, e, hperforms⟩ := Config.performs_of_step hstep
    obtain ⟨_, next, hth, -, -, hthreads⟩ := id hperforms
    rw [hthreads] at hth'
    by_cases heq : j = i
    · subst heq
      have hj : j < cfg.threads.length := (List.getElem?_eq_some_iff.mp hth).1
      simp only [List.getElem?_set_self hj, Option.some.injEq] at hth'
      subst hth'
      exact .inr (.inr ⟨th, e, hperforms, rfl, rfl⟩)
    · rw [List.getElem?_set_ne heq] at hth'
      exact .inl hth'
  | env e =>
    obtain ⟨s', -, rfl⟩ := Option.map_eq_some_iff.mp hstep
    exact .inl hth'

theorem Config.task_of_step (hstep : cfg.step a = some cfg') (hth : cfg.threads[i]? = some th) :
    ∃ th', cfg'.threads[i]? = some th' ∧ th'.task = th.task := by
  cases a with
  | spawn task =>
    cases hstep
    have hi : i < cfg.threads.length := (List.getElem?_eq_some_iff.mp hth).1
    exact ⟨th, by rw [List.getElem?_append_left hi, hth], rfl⟩
  | step j choice =>
    obtain ⟨thj, e, _, next, hthj, -, -, hthreads⟩ := Config.performs_of_step hstep
    by_cases heq : j = i
    · subst heq
      cases hthj.symm.trans hth
      have hj : j < cfg.threads.length := (List.getElem?_eq_some_iff.mp hth).1
      exact ⟨⟨th.task, th.log ++ [e], next e.resp⟩,
        by rw [hthreads, List.getElem?_set_self hj], rfl⟩
    · exact ⟨th, by rw [hthreads, List.getElem?_set_ne heq, hth], rfl⟩
  | env e =>
    obtain ⟨s', -, rfl⟩ := Option.map_eq_some_iff.mp hstep
    exact ⟨th, hth, rfl⟩

/-- Every task of a run was started by it. -/
theorem spawn_mem_of_run (hrun : W.system.run (.start s) acts = some cfg)
    (hth : cfg.threads[i]? = some th) : .spawn th.task ∈ acts := by
  obtain ⟨before, a, after, cfg₁, cfg₂, rfl, -, hstep, hnot, thi, hthi, htask⟩ :=
    W.system.exists_step_of_run (P := fun cfg => ∃ th', cfg.threads[i]? = some th' ∧
      th'.task = th.task) hrun (by simp [Config.start]) ⟨th, hth, rfl⟩
  rcases Config.step_thread hstep hthi with hsame | ⟨rfl, -⟩ | ⟨th₀, e, hperforms, htask₀, -⟩
  · exact absurd ⟨thi, hsame, htask⟩ hnot
  · rw [htask]
    exact List.mem_append_right _ List.mem_cons_self
  · obtain ⟨_, _, hth₀, -⟩ := hperforms
    exact absurd ⟨th₀, hth₀, htask₀.symm.trans htask⟩ hnot

/-- Every call in the log of a task was performed at some step of the run. -/
theorem exists_performs_of_mem_log (hrun : W.system.run (.start s) acts = some cfg)
    (hth : cfg.threads[i]? = some th) (hmem : e ∈ th.log) :
    ∃ before a after cfg₁ cfg₂ th₁, acts = before ++ a :: after ∧
      W.system.run (.start s) before = some cfg₁ ∧ W.system.step cfg₁ a = some cfg₂ ∧
      cfg₁.Performs i th₁ e cfg₂ ∧ th₁.task = th.task := by
  obtain ⟨before, a, after, cfg₁, cfg₂, rfl, hbefore, hstep, hnot, thi, hthi, htask, hlogged⟩ :=
    W.system.exists_step_of_run (P := fun cfg => ∃ th', cfg.threads[i]? = some th' ∧
      th'.task = th.task ∧ e ∈ th'.log) hrun (by simp [Config.start]) ⟨th, hth, rfl, hmem⟩
  rcases Config.step_thread hstep hthi with hsame | ⟨-, hempty⟩ | ⟨th₀, e', hperforms, htask₀, hlog⟩
  · exact absurd ⟨thi, hsame, htask, hlogged⟩ hnot
  · rw [hempty] at hlogged
    cases hlogged
  · rw [hlog, List.mem_append, List.mem_singleton] at hlogged
    rcases hlogged with hold | rfl
    · obtain ⟨_, _, hth₀, -⟩ := hperforms
      exact absurd ⟨th₀, hth₀, htask₀.symm.trans htask, hold⟩ hnot
    · exact ⟨before, a, after, cfg₁, cfg₂, th₀, rfl, hbefore, hstep, hperforms,
        htask₀.symm.trans htask⟩

/-- What is left of each task satisfies, now and after any answers, what its task asks. -/
def Config.Keeps (P : W.Task → Prog W.Call W.Resp W.Result → Prop) (cfg : W.Config) : Prop :=
  ∀ th ∈ cfg.threads, th.prog.Always (P th.task)

/-- What a new task has and every call keeps, each task has. -/
theorem Config.each_of_step {T : W.Thread → Prop} (hbody : ∀ task, T ⟨task, [], W.body task⟩)
    (hcall : ∀ th c next r, th.prog = .call c next → T th →
      T ⟨th.task, th.log ++ [⟨c, r⟩], next r⟩)
    (heach : ∀ th ∈ cfg.threads, T th) (hstep : cfg.step a = some cfg') :
    ∀ th ∈ cfg'.threads, T th := by
  intro th' hth'
  cases a with
  | spawn task =>
    cases hstep
    rcases List.mem_append.mp hth' with hold | hnew
    · exact heach th' hold
    · obtain rfl := List.mem_singleton.mp hnew
      exact hbody task
  | step j choice =>
    obtain ⟨th, thj, s', hth, hadv, rfl⟩ := Config.step_step_eq_some.mp hstep
    obtain ⟨c, next, r, hprog, hexec, rfl⟩ := Thread.advance_eq_some.mp hadv
    rcases List.mem_or_eq_of_mem_set hth' with hold | rfl
    · exact heach th' hold
    · exact hcall th c next r hprog (heach th (List.mem_of_getElem? hth))
  | env e =>
    obtain ⟨s', -, rfl⟩ := Option.map_eq_some_iff.mp hstep
    exact heach th' hth'

theorem Config.Keeps.step (hbody : ∀ task, (W.body task).Always (P task)) (hkeeps : cfg.Keeps P)
    (hstep : cfg.step a = some cfg') : cfg'.Keeps P := by
  refine Config.each_of_step hbody (fun th c next r hprog hthread => ?_) hkeeps hstep
  rw [hprog] at hthread
  exact hthread.2 r

theorem Config.keeps_of_run (hbody : ∀ task, (W.body task).Always (P task))
    (hrun : W.system.run (.start s) acts = some cfg) :
    cfg.Keeps P :=
  W.system.run_invariant (fun _ _ _ hkeeps hstep => hkeeps.step hbody hstep)
    (by simp [Config.Keeps, Config.start]) hrun

/-- What is left of a procedure once the calls of the log have been answered. -/
def Left {α : Type} : List W.Event → Prog W.Call W.Resp α → Prog W.Call W.Resp α → Prop
  | [], p, rest => rest = p
  | e :: log, .call c next, rest => ∃ r, e = ⟨c, r⟩ ∧ Left log (next r) rest
  | _ :: _, .ret _, _ => False

theorem Left.concat {α : Type} {p : Prog W.Call W.Resp α} {log : List W.Event} {c : W.Call}
    {next : W.Resp c → Prog W.Call W.Resp α} (h : Left log p (.call c next)) (r : W.Resp c) :
    Left (log ++ [⟨c, r⟩]) p (next r) := by
  induction log generalizing p with
  | nil =>
    obtain rfl : Prog.call c next = p := h
    exact ⟨r, rfl, rfl⟩
  | cons e log ih =>
    cases p with
    | ret value => exact h
    | call c' next' =>
      obtain ⟨r', he, hleft⟩ := h
      exact ⟨r', he, ih hleft⟩

/-- What each task has left is determined by what it was started as and by its log. -/
theorem Config.left_of_run (hrun : W.system.run (.start s) acts = some cfg) :
    ∀ th ∈ cfg.threads, Left th.log (W.body th.task) th.prog := by
  have hcall : ∀ (th : W.Thread) c next r, th.prog = .call c next →
      Left th.log (W.body th.task) th.prog →
      Left (th.log ++ [⟨c, r⟩]) (W.body th.task) (next r) := by
    intro th c next r hprog hleft
    rw [hprog] at hleft
    exact hleft.concat r
  exact W.system.run_invariant (fun _ _ _ => Config.each_of_step (fun _ => rfl) hcall)
    (by simp [Config.start]) hrun

/-- What is left of each task issues only calls that the task may issue. -/
def Config.Issues (ok : W.Task → W.Call → Prop) (cfg : W.Config) : Prop :=
  ∀ th ∈ cfg.threads, th.prog.All (ok th.task)

theorem Config.issues_iff_keeps :
    cfg.Issues ok ↔ cfg.Keeps fun task p => ∀ c next, p = .call c next → ok task c :=
  forall₂_congr fun _ _ => Prog.all_iff_always

theorem Config.Issues.step (hbody : ∀ task, (W.body task).All (ok task)) (hissues : cfg.Issues ok)
    (hstep : cfg.step a = some cfg') : cfg'.Issues ok :=
  Config.issues_iff_keeps.mpr ((Config.issues_iff_keeps.mp hissues).step
    (fun task => Prog.all_iff_always.mp (hbody task)) hstep)

/-- Along every run, each task issues only calls that it may issue. -/
theorem Config.issues_of_run (hbody : ∀ task, (W.body task).All (ok task))
    (hrun : W.system.run (.start s) acts = some cfg) : cfg.Issues ok :=
  Config.issues_iff_keeps.mpr
    (Config.keeps_of_run (fun task => Prog.all_iff_always.mp (hbody task)) hrun)

/-- The pending call of the task that is about to move meets the condition. -/
def Config.Pending (cond : W.State → W.Call → Prop) (cfg : W.Config) : W.Action → Prop
  | .step i _ => ∀ th ∈ cfg.threads[i]?, ∀ c ∈ th.pending, cond cfg.state c
  | .spawn _ | .env _ => True

instance (cond : W.State → W.Call → Prop) [∀ s c, Decidable (cond s c)] (cfg : W.Config) :
    DecidablePred (cfg.Pending cond)
  | .step _ _ => inferInstanceAs (Decidable (∀ _, _))
  | .spawn _ | .env _ => isTrue trivial

instance (cond : W.State → W.Call → Prop) [∀ s c, Decidable (cond s c)] (cfg : W.Config)
    (acts : List W.Action) : Decidable (W.system.Along (Config.Pending cond) cfg acts) :=
  W.system.decidableAlong _ _ _

def Config.Logged (ok : W.Event → Prop) (cfg : W.Config) : Prop :=
  ∀ th ∈ cfg.threads, ∀ e ∈ th.log, ok e

section

variable {cond : W.State → W.Call → Prop} {ok : W.Event → Prop}

theorem Config.logged_step_iff
    (hok : ∀ {choice c s r s'}, W.exec choice c s = some (r, s') → (ok ⟨c, r⟩ ↔ cond s c))
    {cfg cfg' : W.Config} {a : W.Action} (hstep : cfg.step a = some cfg') :
    cfg'.Logged ok ↔ cfg.Logged ok ∧ cfg.Pending cond a := by
  cases a with
  | spawn task =>
    cases hstep
    simp [Logged, Pending, or_imp, forall_and]
  | env e =>
    obtain ⟨s', -, rfl⟩ := Option.map_eq_some_iff.mp hstep
    simp [Logged, Pending]
  | step i choice =>
    obtain ⟨th, th', s', hth, hadv, rfl⟩ := Config.step_step_eq_some.mp hstep
    obtain ⟨c, next, r, hprog, hexec, rfl⟩ := Thread.advance_eq_some.mp hadv
    have hpending : cfg.Pending cond (.step i choice) ↔ ok ⟨c, r⟩ := by
      simp [Pending, hth, Thread.pending, hprog, hok hexec]
    have hi : i < cfg.threads.length := (List.getElem?_eq_some_iff.mp hth).1
    rw [hpending]
    constructor
    · intro h
      have hlog := h _ (List.mem_set hi _)
      refine ⟨fun th₀ hth₀ e he => ?_, hlog _ (by simp)⟩
      obtain ⟨j, hj, rfl⟩ := List.mem_iff_getElem.mp hth₀
      by_cases heq : i = j
      · subst heq
        rw [(List.getElem?_eq_some_iff.mp hth).2] at he
        exact hlog e (List.mem_append_left _ he)
      · refine h _ (List.mem_iff_getElem.mpr ⟨j, by simpa using hj, ?_⟩) e he
        exact List.getElem_set_ne heq _
    · rintro ⟨h, he⟩ th₀ hth₀ e₀ he₀
      rcases List.mem_or_eq_of_mem_set hth₀ with hold | rfl
      · exact h th₀ hold e₀ he₀
      · rcases List.mem_append.mp he₀ with hold | hnew
        · exact h th (List.mem_of_getElem? hth) e₀ hold
        · rwa [List.mem_singleton.mp hnew]

/-- A condition on calls whose breach shows in their answers is met throughout a run exactly
when no completed call shows a breach. -/
theorem Config.logged_iff_along
    (hok : ∀ {choice c s r s'}, W.exec choice c s = some (r, s') → (ok ⟨c, r⟩ ↔ cond s c))
    {cfg cfg' : W.Config} {acts : List W.Action} (hrun : W.system.run cfg acts = some cfg') :
    cfg'.Logged ok ↔ cfg.Logged ok ∧ W.system.Along (Config.Pending cond) cfg acts := by
  induction acts generalizing cfg with
  | nil =>
    cases hrun
    simp [System.Along]
  | cons a acts ih =>
    obtain ⟨mid, hstep, hrest⟩ := W.system.run_cons_eq_some.mp hrun
    rw [ih hrest, Config.logged_step_iff hok hstep, and_assoc]
    simp only [System.Along, hstep]

end

end World

/-! ## Proof outlines -/

/-- Annotations `γ` for the tasks of a world, and the invariant they carry. -/
structure Outline (W : World) (γ : Type) where
  /-- The invariant, over the state and the annotations of all started tasks. -/
  Inv : W.State → Set γ → Prop
  /-- What an annotation says about the task that carries it: its index, what it
  was started as, the calls it has completed, and its pending call. -/
  Sees : ℕ → γ → W.Task → List W.Event → Option W.Call → Prop
  /-- What may be assumed of a call of a task annotated `g` while the other tasks
  are annotated `rest`. -/
  Permits : W.State → γ → Set γ → W.Call → W.Choice → Prop

namespace Outline

open World

variable {W : World} {γ : Type} (O : Outline W γ)

/-- The procedure `p` of task number `i` follows the outline from the annotation
`g` on, and returns in an annotation and with a result that satisfy `Q`. -/
def Wp {α : Type} (i : ℕ) (task : W.Task) (Q : γ → List W.Event → α → Prop) :
    γ → List W.Event → Prog W.Call W.Resp α → Prop
  | g, log, .ret value => Q g log value
  | g, log, .call c next => O.Sees i g task log (some c) ∧
      ∀ s rest choice r s', O.Inv s (insert g rest) → O.Permits s g rest c choice →
        W.exec choice c s = some (r, s') →
          ∃ g', O.Inv s' (insert g' rest) ∧
            Wp i task Q g' (log ++ [⟨c, r⟩]) (next r)

variable {O}

variable {i : ℕ} {task : W.Task} {g : γ} {log : List W.Event} {note : ℕ → γ} {cfg cfg' : W.Config}

theorem Wp.mono {α : Type} {Q Q' : γ → List W.Event → α → Prop}
    (hQ : ∀ g log value, Q g log value → Q' g log value) {p : Prog W.Call W.Resp α}
    (h : O.Wp i task Q g log p) : O.Wp i task Q' g log p := by
  induction p generalizing g log with
  | ret value => exact hQ g log value h
  | call c next ih =>
    refine ⟨h.1, fun s rest choice r s' hinv hperm hexec => ?_⟩
    obtain ⟨g', hinv', hnext⟩ := h.2 s rest choice r s' hinv hperm hexec
    exact ⟨g', hinv', ih r hnext⟩

theorem Wp.bind {α β : Type} {Q : γ → List W.Event → β → Prop} {p : Prog W.Call W.Resp α}
    {f : α → Prog W.Call W.Resp β}
    (h : O.Wp i task (fun g' log' value => O.Wp i task Q g' log' (f value)) g log p) :
    O.Wp i task Q g log (p.bind f) := by
  induction p generalizing g log with
  | ret value => exact h
  | call c next ih =>
    refine ⟨h.1, fun s rest choice r s' hinv hperm hexec => ?_⟩
    obtain ⟨g', hinv', hnext⟩ := h.2 s rest choice r s' hinv hperm hexec
    exact ⟨g', hinv', ih r hnext⟩

theorem Wp.exceptBind {α β ε : Type} {Q : γ → List W.Event → Except ε β → Prop}
    {p : ExceptT ε (Prog W.Call W.Resp) α} {f : α → ExceptT ε (Prog W.Call W.Resp) β}
    (h : O.Wp i task (fun g' log' r => match r with
      | .ok value => O.Wp i task Q g' log' (f value).run
      | .error e => Q g' log' (.error e)) g log p.run) :
    O.Wp i task Q g log (p >>= f).run := by
  apply Wp.bind
  apply h.mono
  intro g' log' r hr
  cases r with
  | ok | error => exact hr

theorem Wp.exceptLift {α β ε : Type} {Q : γ → List W.Event → Except ε β → Prop}
    {p : Prog W.Call W.Resp α} {f : α → ExceptT ε (Prog W.Call W.Resp) β}
    (h : O.Wp i task (fun g' log' value => O.Wp i task Q g' log' (f value).run) g log p) :
    O.Wp i task Q g log (ExceptT.lift p >>= f).run := by
  have hlift : (ExceptT.lift p >>= f).run = p.bind fun value => (f value).run :=
    Prog.bind_assoc p (fun value => .ret (Except.ok value : Except ε α)) (ExceptT.bindCont f)
  rw [hlift]
  exact Wp.bind h

/-- A procedure follows the outline with a fixed annotation when none of its calls
can break the invariant under it. `K` is what holds of its log throughout. -/
theorem Wp.of_stable {α : Type} {ok : W.Call → Prop} {K : List W.Event → Prop}
    (hsees : ∀ log c, K log → ok c → O.Sees i g task log (some c))
    (hlog : ∀ log c r, K log → ok c → K (log ++ [⟨c, r⟩]))
    (hstable : ∀ s rest c choice r s', ok c → O.Inv s (insert g rest) →
      O.Permits s g rest c choice → W.exec choice c s = some (r, s') → O.Inv s' (insert g rest))
    (hK : K log) {p : Prog W.Call W.Resp α} (hall : p.All ok) :
    O.Wp i task (fun g' log' _ => g' = g ∧ K log') g log p := by
  induction p generalizing log with
  | ret value => exact ⟨rfl, hK⟩
  | call c next ih =>
    refine ⟨hsees log c hK hall.1, fun s rest choice r s' hinv hperm hexec => ?_⟩
    exact ⟨g, hstable s rest c choice r s' hall.1 hinv hperm hexec,
      ih r (hlog log c r hK hall.1) (hall.2 r)⟩

/-- The procedure starts and ends in the annotation `g`, with a log of the kind `K`. -/
def Restores (O : Outline W γ) {α : Type} (i : ℕ) (task : W.Task) (g : γ)
    (K : List W.Event → Prop) (p : Prog W.Call W.Resp α) : Prop :=
  ∀ log, K log → O.Wp i task (fun g' log' _ => g' = g ∧ K log') g log p

section

variable {i : ℕ} {task : W.Task} {g : γ} {K : List W.Event → Prop}

theorem Restores.ret {α : Type} (value : α) : O.Restores i task g K (.ret value) :=
  fun _ hK => ⟨rfl, hK⟩

theorem Restores.bind {α β : Type} {p : Prog W.Call W.Resp α} {f : α → Prog W.Call W.Resp β}
    (hp : O.Restores i task g K p) (hf : ∀ value, O.Restores i task g K (f value)) :
    O.Restores i task g K (p.bind f) := by
  intro log hK
  apply Wp.bind
  apply (hp log hK).mono
  rintro g' log' value ⟨rfl, hK'⟩
  exact hf value log' hK'

theorem Restores.exceptBind {α β ε : Type} {p : ExceptT ε (Prog W.Call W.Resp) α}
    {f : α → ExceptT ε (Prog W.Call W.Resp) β} (hp : O.Restores i task g K p.run)
    (hf : ∀ value, O.Restores i task g K (f value).run) :
    O.Restores i task g K (p >>= f).run := by
  apply Restores.bind hp
  intro r
  cases r with
  | ok value => exact hf value
  | error e => exact .ret _

end

variable (O)

/-- A started task follows the outline: it keeps what its annotation says about
it, and `Fin` holds when it returns. -/
def Follows (Fin : γ → W.Result → Prop) (i : ℕ) (g : γ) (th : W.Thread) : Prop :=
  O.Wp i th.task (fun g' log value => O.Sees i g' th.task log none ∧ Fin g' value) g th.log
    th.prog

/-- Annotations for all started tasks, together with the invariant. -/
def Annotates (Fin : γ → W.Result → Prop) (note : ℕ → γ) (cfg : W.Config) : Prop :=
  (∀ i th, cfg.threads[i]? = some th → O.Follows Fin i (note i) th) ∧
    O.Inv cfg.state {g | ∃ i < cfg.threads.length, note i = g}

def others (note : ℕ → γ) (cfg : W.Config) (i : ℕ) : Set γ :=
  {g | ∃ j < cfg.threads.length, j ≠ i ∧ note j = g}

variable {O}

theorem Follows.sees {Fin : γ → W.Result → Prop} {th : W.Thread} (h : O.Follows Fin i g th) :
    O.Sees i g th.task th.log th.pending := by
  unfold Follows at h
  unfold Thread.pending
  cases hprog : th.prog with
  | ret | call =>
    rw [hprog] at h
    exact h.1

theorem Follows.fin {Fin : γ → W.Result → Prop} {th : W.Thread} {value : W.Result}
    (h : O.Follows Fin i g th) (hret : th.prog = .ret value) : Fin g value := by
  unfold Follows at h
  rw [hret] at h
  exact h.2

theorem setOf_note_eq_insert (hi : i < cfg.threads.length) :
    {g | ∃ j < cfg.threads.length, note j = g} = insert (note i) (others note cfg i) := by
  ext g
  constructor
  · rintro ⟨j, hj, rfl⟩
    by_cases heq : j = i
    · exact .inl (by rw [heq])
    · exact .inr ⟨j, hj, heq, rfl⟩
  · rintro (rfl | ⟨j, hj, -, rfl⟩)
    · exact ⟨i, hi, rfl⟩
    · exact ⟨j, hj, rfl⟩

/-- What an outline must provide beyond its procedures: annotations for new
tasks, stability under the surroundings, and that the condition on a run gives
the assumptions made about each call. -/
structure Sound (O : Outline W γ) (Fin : γ → W.Result → Prop)
    (guard : W.Config → W.Action → Prop) : Prop where
  /-- A new task gets an annotation that the invariant tolerates. -/
  spawn : ∀ cfg task notes, guard cfg (.spawn task) → O.Inv cfg.state notes →
    ∃ g, O.Follows Fin cfg.threads.length g ⟨task, [], W.body task⟩ ∧
      O.Inv cfg.state (insert g notes)
  /-- The surroundings keep the invariant. -/
  env : ∀ cfg e s' notes, guard cfg (.env e) → O.Inv cfg.state notes →
    W.env e cfg.state = some s' → O.Inv s' notes
  /-- The condition on the run gives what the outline assumes of a call. -/
  permits : ∀ cfg i choice th c next g rest, guard cfg (.step i choice) →
    cfg.threads[i]? = some th → th.prog = .call c next → O.Sees i g th.task th.log (some c) →
    (∀ g' ∈ rest, ∃ j th', cfg.threads[j]? = some th' ∧
      O.Sees j g' th'.task th'.log th'.pending ∧ j ≠ i) →
    O.Permits cfg.state g rest c choice

variable {Fin : γ → W.Result → Prop} {guard : W.Config → W.Action → Prop}

private theorem Sound.step_spawn (hO : O.Sound Fin guard) (hguard : guard cfg (.spawn task))
    (hnote : O.Annotates Fin note cfg) (hstep : cfg.step (.spawn task) = some cfg') :
    ∃ note', O.Annotates Fin note' cfg' := by
  cases hstep
  obtain ⟨g, hg, hinv⟩ := hO.spawn cfg task _ hguard hnote.2
  -- The new task is the last one, so the old annotations keep their indices.
  refine ⟨Function.update note cfg.threads.length g, fun i th hth => ?_, ?_⟩
  · by_cases hi : i < cfg.threads.length
    · rw [Function.update_of_ne (Nat.ne_of_lt hi)]
      exact hnote.1 i th (by rwa [List.getElem?_append_left hi] at hth)
    · obtain rfl : i = cfg.threads.length := by
        have := (List.getElem?_eq_some_iff.mp hth).1
        simp only [List.length_append, List.length_cons, List.length_nil] at this
        omega
      simp only [List.getElem?_concat_length, Option.some.injEq] at hth
      subst hth
      simpa using hg
  · convert hinv using 1
    ext g'
    simp only [Set.mem_ofPred_eq, Set.mem_insert_iff, List.length_append, List.length_cons,
      List.length_nil]
    constructor
    · rintro ⟨i, hi, rfl⟩
      by_cases heq : i = cfg.threads.length
      · exact .inl (by simp [heq])
      · exact .inr ⟨i, by omega, by simp [Function.update_of_ne heq]⟩
    · rintro (rfl | ⟨i, hi, rfl⟩)
      · exact ⟨cfg.threads.length, by omega, by simp⟩
      · exact ⟨i, by omega, by simp [Function.update_of_ne (Nat.ne_of_lt hi)]⟩

private theorem Sound.step_step (hO : O.Sound Fin guard) {choice : W.Choice}
    (hguard : guard cfg (.step i choice)) (hnote : O.Annotates Fin note cfg)
    (hstep : cfg.step (.step i choice) = some cfg') :
    ∃ note', O.Annotates Fin note' cfg' := by
  obtain ⟨th, th', s', hth, hadv, rfl⟩ := Config.step_step_eq_some.mp hstep
  obtain ⟨c, next, r, hprog, hexec, rfl⟩ := Thread.advance_eq_some.mp hadv
  have hi : i < cfg.threads.length := (List.getElem?_eq_some_iff.mp hth).1
  have hfollows := hnote.1 i th hth
  have hinv := hnote.2
  rw [setOf_note_eq_insert hi] at hinv
  have hperm : O.Permits cfg.state (note i) (others note cfg i) c choice := by
    have hsees := hfollows.sees
    rw [Thread.pending, hprog] at hsees
    refine hO.permits cfg i choice th c next _ _ hguard hth hprog hsees ?_
    rintro g' ⟨j, hj, hne, rfl⟩
    exact ⟨j, cfg.threads[j], by simp [hj],
      (hnote.1 j _ (List.getElem?_eq_some_iff.mpr ⟨hj, rfl⟩)).sees, hne⟩
  unfold Follows at hfollows
  rw [hprog] at hfollows
  obtain ⟨g', hinv', hnext⟩ := hfollows.2 _ _ _ _ _ hinv hperm hexec
  refine ⟨Function.update note i g', fun j thj hthj => ?_, ?_⟩
  · by_cases heq : j = i
    · subst heq
      simp only [List.getElem?_set_self hi, Option.some.injEq] at hthj
      subst hthj
      simpa [Follows] using hnext
    · rw [List.getElem?_set_ne (Ne.symm heq)] at hthj
      rw [Function.update_of_ne heq]
      exact hnote.1 j thj hthj
  · convert hinv' using 1
    ext g
    simp only [Set.mem_ofPred_eq, Set.mem_insert_iff, List.length_set, others]
    constructor
    · rintro ⟨j, hj, rfl⟩
      by_cases heq : j = i
      · exact .inl (by simp [heq])
      · exact .inr ⟨j, hj, heq, by simp [Function.update_of_ne heq]⟩
    · rintro (rfl | ⟨j, hj, hne, rfl⟩)
      · exact ⟨i, hi, by simp⟩
      · exact ⟨j, hj, by simp [Function.update_of_ne hne]⟩

/-- One step of the system keeps the annotations. -/
theorem Sound.step (hO : O.Sound Fin guard) {a : W.Action} (hguard : guard cfg a)
    (hnote : ∃ note, O.Annotates Fin note cfg) (hstep : W.system.step cfg a = some cfg') :
    ∃ note, O.Annotates Fin note cfg' := by
  obtain ⟨note, hnote⟩ := hnote
  cases a with
  | spawn task => exact hO.step_spawn hguard hnote hstep
  | step i choice => exact hO.step_step hguard hnote hstep
  | env e =>
    obtain ⟨s', hs', rfl⟩ := Option.map_eq_some_iff.mp hstep
    exact ⟨note, hnote.1, hO.env cfg e s' _ hguard hnote.2 hs'⟩

/-- Along every run that meets the condition, the started tasks stay annotated
and the invariant holds. -/
theorem Sound.run (hO : O.Sound Fin guard) {acts : List W.Action}
    (hnote : ∃ note, O.Annotates Fin note cfg) (halong : W.system.Along guard cfg acts)
    (hrun : W.system.run cfg acts = some cfg') : ∃ note, O.Annotates Fin note cfg' :=
  W.system.run_invariant_along (fun _ _ _ hguard hinv hstep => hO.step hguard hinv hstep)
    hnote halong hrun

theorem annotates_start [Inhabited γ] {s : W.State} (hinv : O.Inv s ∅) :
    ∃ note, O.Annotates Fin note (Config.start s) :=
  ⟨fun _ => default, fun i th hth => by simp [Config.start] at hth, by
    simpa [Config.start] using hinv⟩

end Outline

end Wardnet.Base
