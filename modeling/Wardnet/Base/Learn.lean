/-
# What tasks learn

A task may rely on what its calls have told it as long as no call of any other task can undo it.
A `Learning` says what the calls of the tasks may do to the state. `Learns` is a triple for
procedures whose pre- and postconditions are facts about the state: what is known is stable at
every call, so other tasks may run anywhere in between.

A call may work on something that one task has for itself, such as a transaction, and that is
known by a number. A task knows of its own number that no other task uses it. Numbers are given
out once, so a task that gets one (`Obeys`) has it alone.

The condition on a call may depend on the task that makes it.
-/

import Wardnet.Base.Pool

namespace Wardnet.Base

open World

/-- What the tasks of a world may do to the state. -/
structure Learning (W : World) where
  /-- The tasks that may be started. -/
  Spawns : W.Task → Prop := fun _ => True
  /-- The calls that these tasks make. -/
  Issues : W.Call → Prop := fun _ => True
  /-- The condition on a call of a task. -/
  Permits : W.Task → W.State → W.Call → Prop := fun _ _ _ => True
  /-- The invariant. -/
  Inv : W.State → Prop := fun _ => True
  /-- What a call works on, if that belongs to one task. -/
  owned : W.Call → Option ℕ := fun _ => none
  /-- The next number to be given out. -/
  next : W.State → ℕ := fun _ => 0
  /-- What these calls may do to the state. -/
  Rel : Option ℕ → W.State → W.State → Prop
  exec_rel : ∀ {choice c s r s'}, Issues c → Inv s → W.exec choice c s = some (r, s') →
    Rel (owned c) s s'
  exec_inv : ∀ {choice c s r s'}, Issues c → owned c = none → Inv s →
    W.exec choice c s = some (r, s') → Inv s' := by intros; trivial
  next_le : ∀ {x s s'}, Rel x s s' → next s ≤ next s' := by intros; exact Nat.le_refl _
  env_rel : ∀ {e s s'}, Inv s → W.env e s = some s' → Rel none s s'
  env_inv : ∀ {e s s'}, Inv s → W.env e s = some s' → Inv s' := by intros; trivial

namespace Learning

variable {W : World} (L : Learning W)

def Stable (own : Option ℕ) (P : W.State → Prop) : Prop :=
  ∀ x s s', L.Rel x s s' → (x = none ∨ x ≠ own) → P s → P s'

/-- When `P` is known, the procedure of a task that has `own` returns with a value for which `Q`
is known. -/
def Learns {α : Type} (task : W.Task) (own : Option ℕ) (Q : α → W.State → Prop) :
    (W.State → Prop) → Prog W.Call W.Resp α → Prop
  | P, .ret value => ∀ s, P s → Q value s
  | P, .call c next => L.Issues c ∧ (L.owned c = none ∨ L.owned c = own) ∧
      ∃ F : W.Resp c → W.State → Prop, (∀ r, L.Stable own (F r)) ∧
        (∀ choice s r s', L.Inv s → P s → L.Permits task s c → W.exec choice c s = some (r, s') →
          L.Inv s' ∧ F r s') ∧
        ∀ r, Learns task own Q (F r) (next r)

/-- The same of a task that may be given a new number on the way. -/
def Obeys {α : Type} (task : W.Task) (Q : α → W.State → Prop) :
    Option ℕ → (W.State → Prop) → Prog W.Call W.Resp α → Prop
  | _, P, .ret value => ∀ s, P s → Q value s
  | own, P, .call c next => L.Issues c ∧ (L.owned c = none ∨ L.owned c = own) ∧
      ∃ (own' : W.Resp c → Option ℕ) (F : W.Resp c → W.State → Prop),
        (∀ r, L.Stable (own' r) (F r)) ∧
        (∀ choice s r s', L.Inv s → P s → L.Permits task s c → W.exec choice c s = some (r, s') →
          L.Inv s' ∧ F r s' ∧
            (own' r = own ∨ ∃ x, own' r = some x ∧ L.next s ≤ x ∧ x < L.next s')) ∧
        ∀ r, Obeys task Q (own' r) (F r) (next r)

/-- A postcondition on results: `Q` on an ordinary answer, and nothing on an error. -/
def ifOk {α ε : Type} (Q : α → W.State → Prop) : Except ε α → W.State → Prop
  | .ok value => Q value
  | .error _ => fun _ => True

variable {L} {α β ε : Type} {task : W.Task} {own : Option ℕ} {P : W.State → Prop}

theorem stable_true : L.Stable own fun _ => True := fun _ _ _ _ _ _ => trivial

theorem stable_ifOk {Q : α → W.State → Prop} (h : ∀ value, L.Stable own (Q value))
    (r : Except ε α) : L.Stable own (ifOk Q r) := by
  cases r with
  | ok value => exact h value
  | error => exact stable_true

namespace Learns

variable {Q : α → W.State → Prop}

variable {p : Prog W.Call W.Resp α} {Q' : β → W.State → Prop}

theorem conseq {P' : W.State → Prop} {Q' : α → W.State → Prop} (h : L.Learns task own Q P p)
    (hP : ∀ s, P' s → P s) (hQ : ∀ value s, Q value s → Q' value s) :
    L.Learns task own Q' P' p := by
  induction p generalizing P P' with
  | ret value => exact fun s hs => hQ value s (h s (hP s hs))
  | call c next ih =>
    obtain ⟨hissues, howned, F, hstable, hcall, hnext⟩ := h
    exact ⟨hissues, howned, F, hstable,
      fun choice s r s' hinv hs => hcall choice s r s' hinv (hP s hs),
      fun r => ih r (hnext r) fun _ h => h⟩

theorem bind {f : α → Prog W.Call W.Resp β} (hp : L.Learns task own Q P p)
    (hf : ∀ value, L.Learns task own Q' (Q value) (f value)) :
    L.Learns task own Q' P (p.bind f) := by
  induction p generalizing P with
  | ret value => exact (hf value).conseq hp fun _ _ h => h
  | call c next ih =>
    obtain ⟨hissues, howned, F, hstable, hcall, hnext⟩ := hp
    exact ⟨hissues, howned, F, hstable, hcall, fun r => ih r (hnext r)⟩

variable {f : α → ExceptT ε (Prog W.Call W.Resp) β} {c : W.Call} {ok : W.Call → Prop}
  {F : W.Resp c → W.State → Prop}

theorem check {r : Except ε α}
    (hf : ∀ value, r = .ok value → L.Learns task own (ifOk Q') P (f value).run) :
    L.Learns task own (ifOk Q') P (ExceptT.mk (.ret r) >>= f).run := by
  cases r with
  | ok value => exact hf value rfl
  | error e => exact fun _ _ => trivial

theorem exceptBind {p : ExceptT ε (Prog W.Call W.Resp) α} (hp : L.Learns task own (ifOk Q) P p.run)
    (hf : ∀ value, L.Learns task own (ifOk Q') (Q value) (f value).run) :
    L.Learns task own (ifOk Q') P (p >>= f).run := by
  apply bind hp
  intro r
  cases r with
  | ok value => exact hf value
  | error e => exact fun _ _ => trivial

theorem mapError {ε' : Type} {p : Prog W.Call W.Resp (Except ε α)}
    (hp : L.Learns task own (ifOk Q) P p) (f : ε → ε') :
    L.Learns task own (ifOk Q) P (p.bind fun r => .ret (r.mapError f)) := by
  apply bind hp
  intro r
  cases r with
  | ok value => exact fun _ h => h
  | error e => exact fun _ _ => trivial

/-- A call that works on nothing of one's own, and what its answer tells. -/
theorem call (hissues : L.Issues c) (howned : L.owned c = none) (hstable : ∀ r, L.Stable own (F r))
    (hcall : ∀ choice s r s', P s → L.Permits task s c → W.exec choice c s = some (r, s') →
      F r s') :
    L.Learns task own F P (perform c) :=
  ⟨hissues, .inl howned, F, hstable, fun choice s r s' hinv hs hpermits hexec =>
      ⟨L.exec_inv hissues howned hinv hexec, hcall choice s r s' hs hpermits hexec⟩,
    fun _ _ h => h⟩

/-- A call that may work on one's own. -/
theorem ownCall (hissues : L.Issues c) (howned : L.owned c = own)
    (hstable : ∀ r, L.Stable own (F r))
    (hcall : ∀ choice s r s', L.Inv s → P s → L.Permits task s c →
      W.exec choice c s = some (r, s') → L.Inv s' ∧ F r s') :
    L.Learns task own F P (perform c) :=
  ⟨hissues, .inr howned, F, hstable, hcall, fun _ _ h => h⟩

/-- What is known stays known. -/
theorem of_all (hP : L.Stable own P) (hok : ∀ c, ok c → L.Issues c ∧ L.owned c = none)
    (hall : p.All ok) :
    L.Learns task own (fun _ => P) P p := by
  induction p with
  | ret value => exact fun _ h => h
  | call c next ih =>
    obtain ⟨hissues, howned⟩ := hok c hall.1
    refine ⟨hissues, .inl howned, fun _ => P, fun _ => hP, ?_, fun r => ih r (hall.2 r)⟩
    intro choice s r s' hinv hs _ hexec
    exact ⟨L.exec_inv hissues howned hinv hexec,
      hP _ s s' (L.exec_rel hissues hinv hexec) (.inl howned) hs⟩

theorem keep {p : ExceptT ε (Prog W.Call W.Resp) α} (hP : L.Stable own P)
    (hok : ∀ c, ok c → L.Issues c ∧ L.owned c = none) (hall : p.run.All ok) :
    L.Learns task own (ifOk fun _ => P) P p.run := by
  refine (of_all hP hok hall).conseq (fun _ h => h) fun r _ h => ?_
  cases r with
  | ok => exact h
  | error => trivial

theorem obeys (h : L.Learns task own Q P p) : L.Obeys task Q own P p := by
  induction p generalizing P with
  | ret value => exact h
  | call c next ih =>
    obtain ⟨hissues, howned, F, hstable, hcall, hnext⟩ := h
    refine ⟨hissues, howned, fun _ => own, F, hstable, ?_, fun r => ih r (hnext r)⟩
    intro choice s r s' hinv hs hpermits hexec
    obtain ⟨hinv', hF⟩ := hcall choice s r s' hinv hs hpermits hexec
    exact ⟨hinv', hF, .inl rfl⟩

end Learns

variable (L) in
def guard (cfg : W.Config) : W.Action → Prop
  | .spawn task => L.Spawns task
  | .step i _ => ∀ th ∈ cfg.threads[i]?, ∀ c ∈ th.pending, L.Permits th.task cfg.state c
  | .env _ => True

section

variable {Q : W.Task → W.Result → W.State → Prop} {cfg cfg' : W.Config}

variable (L Q) in
/-- Every task knows enough to get to its result, and has its number for itself. -/
structure Informed (own : ℕ → Option ℕ) (cfg : W.Config) : Prop where
  inv : L.Inv cfg.state
  knows : ∀ (i : ℕ) (th : W.Thread), cfg.threads[i]? = some th →
    ∃ P, L.Stable (own i) P ∧ P cfg.state ∧ L.Obeys th.task (Q th.task) (own i) P th.prog
  given : ∀ {i x}, own i = some x → i < cfg.threads.length ∧ x < L.next cfg.state
  apart : ∀ {i j x}, own i = some x → own j = some x → i = j

section

variable {own : ℕ → Option ℕ}

/-- Numbers stay apart when one task gets a number that no other task has. -/
theorem apart_update {i : ℕ} {new : Option ℕ}
    (hown : ∀ {j k x}, own j = some x → own k = some x → j = k)
    (hnew : ∀ {j x}, new = some x → own j = some x → j = i) {j k x : ℕ}
    (hj : Function.update own i new j = some x) (hk : Function.update own i new k = some x) :
    j = k := by
  rw [Function.update_apply] at hj hk
  split at hj
  · rename_i hji
    split at hk
    · rename_i hki
      exact hji.trans hki.symm
    · exact hji.trans (hnew hj hk).symm
  · split at hk
    · rename_i hki
      exact (hnew hk hj).trans hki.symm
    · exact hown hj hk

theorem Informed.spawn {task : W.Task}
    (hbody : L.Obeys task (Q task) none (fun _ => True) (W.body task))
    (h : L.Informed Q own cfg) (hstep : cfg.step (.spawn task) = some cfg') :
    L.Informed Q own cfg' := by
  cases hstep
  refine ⟨h.inv, fun i th hth => ?_, fun {i x} hown => ?_, h.apart⟩
  · by_cases hi : i < cfg.threads.length
    · exact h.knows i th (by rwa [List.getElem?_append_left hi] at hth)
    · rw [List.getElem?_append_right (Nat.le_of_not_lt hi)] at hth
      obtain rfl := List.mem_singleton.mp (List.mem_of_getElem? hth)
      have hnone : own i = none :=
        Option.eq_none_iff_forall_ne_some.mpr fun x hown => hi (h.given hown).1
      rw [hnone]
      exact ⟨_, stable_true, trivial, hbody⟩
  · obtain ⟨hi, hx⟩ := h.given hown
    exact ⟨by simp only [List.length_append]; omega, hx⟩

theorem Informed.env {e : W.Env} (h : L.Informed Q own cfg)
    (hstep : cfg.step (.env e) = some cfg') : L.Informed Q own cfg' := by
  obtain ⟨s', henv, rfl⟩ := Option.map_eq_some_iff.mp hstep
  have hrel := L.env_rel h.inv henv
  refine ⟨L.env_inv h.inv henv, fun i th hth => ?_, fun hown => ?_, h.apart⟩
  · obtain ⟨P, hstable, hP, hobeys⟩ := h.knows i th hth
    exact ⟨P, hstable, hstable _ _ _ hrel (.inl rfl) hP, hobeys⟩
  · exact ⟨(h.given hown).1, Nat.lt_of_lt_of_le (h.given hown).2 (L.next_le hrel)⟩

/-- One task moves. The others keep what they know, because the call works on nothing of
theirs. -/
theorem Informed.move {i : ℕ} {choice : W.Choice} (h : L.Informed Q own cfg)
    (hguard : L.guard cfg (.step i choice)) (hstep : cfg.step (.step i choice) = some cfg') :
    ∃ own', L.Informed Q own' cfg' := by
  obtain ⟨th, th', s', hth, hadv, rfl⟩ := Config.step_step_eq_some.mp hstep
  obtain ⟨c, next, r, hprog, hexec, rfl⟩ := Thread.advance_eq_some.mp hadv
  obtain ⟨P, -, hP, hobeys⟩ := h.knows i th hth
  rw [hprog] at hobeys
  obtain ⟨hissues, howned, own', F, hF, hcall, hnext⟩ := hobeys
  have hi : i < cfg.threads.length := (List.getElem?_eq_some_iff.mp hth).1
  have hrel := L.exec_rel hissues h.inv hexec
  obtain ⟨hinv, hlearned, hnumber⟩ := hcall choice cfg.state r s' h.inv hP
    (hguard th hth c (by simp [Thread.pending, hprog])) hexec
  have hgiven : ∀ {x}, own' r = some x → x < L.next s' := by
    intro x hx
    rcases hnumber with hsame | ⟨y, hy, -, hlt⟩
    · exact Nat.lt_of_lt_of_le (h.given (hsame.symm.trans hx)).2 (L.next_le hrel)
    · rw [hy] at hx
      cases hx
      exact hlt
  have hapart : ∀ {j x}, own' r = some x → own j = some x → j = i := by
    intro j x hx hj
    rcases hnumber with hsame | ⟨y, hy, hle, -⟩
    · exact h.apart hj (hsame.symm.trans hx)
    · rw [hy] at hx
      cases hx
      exact absurd (h.given hj).2 (Nat.not_lt.mpr hle)
  refine ⟨Function.update own i (own' r), hinv, ?_, ?_, ?_⟩
  · intro j thj hthj
    by_cases heq : i = j
    · subst heq
      simp only [List.getElem?_set_self hi, Option.some.injEq] at hthj
      subst hthj
      rw [Function.update_self]
      exact ⟨F r, hF r, hlearned, hnext r⟩
    · rw [List.getElem?_set_ne heq] at hthj
      rw [Function.update_of_ne (Ne.symm heq)]
      obtain ⟨P', hstable, hP', hobeys'⟩ := h.knows j thj hthj
      refine ⟨P', hstable, hstable _ _ _ hrel ?_ hP', hobeys'⟩
      rcases howned with hnone | hown
      · exact .inl hnone
      · cases hx : own i with
        | none => exact .inl (hown.trans hx)
        | some x =>
          right
          rw [hown, hx]
          intro hj
          exact heq (h.apart hx hj.symm)
  · intro j x hx
    by_cases heq : j = i
    · subst heq
      rw [Function.update_self] at hx
      exact ⟨by simpa using hi, hgiven hx⟩
    · rw [Function.update_of_ne heq] at hx
      obtain ⟨hj, hlt⟩ := h.given hx
      exact ⟨by simpa using hj, Nat.lt_of_lt_of_le hlt (L.next_le hrel)⟩
  · exact fun hj hk => apart_update h.apart hapart hj hk

/-- What a step does to the state. -/
theorem Informed.rel {a : W.Action} (h : L.Informed Q own cfg) (hstep : cfg.step a = some cfg') :
    cfg'.state = cfg.state ∨ ∃ x, L.Rel x cfg.state cfg'.state := by
  cases a with
  | spawn task =>
    cases hstep
    exact .inl rfl
  | env e =>
    obtain ⟨s', henv, rfl⟩ := Option.map_eq_some_iff.mp hstep
    exact .inr ⟨none, L.env_rel h.inv henv⟩
  | step i choice =>
    obtain ⟨th, th', s', hth, hadv, rfl⟩ := Config.step_step_eq_some.mp hstep
    obtain ⟨c, next, r, hprog, hexec, rfl⟩ := Thread.advance_eq_some.mp hadv
    obtain ⟨P, -, -, hobeys⟩ := h.knows i th hth
    rw [hprog] at hobeys
    exact .inr ⟨_, L.exec_rel hobeys.1 h.inv hexec⟩

end

section

variable (hbody : ∀ task, L.Spawns task → L.Obeys task (Q task) none (fun _ => True) (W.body task))
include hbody

theorem Informed.step {a : W.Action} (hguard : L.guard cfg a) (h : ∃ own, L.Informed Q own cfg)
    (hstep : cfg.step a = some cfg') : ∃ own, L.Informed Q own cfg' := by
  obtain ⟨own, h⟩ := h
  cases a with
  | spawn task => exact ⟨own, h.spawn (hbody task hguard) hstep⟩
  | step i choice => exact h.move hguard hstep
  | env e => exact ⟨own, h.env hstep⟩

/-- Along every run that meets the condition, every task stays informed. -/
theorem informed_of_run {s : W.State} {acts : List W.Action} (hinv : L.Inv s)
    (halong : W.system.Along L.guard (.start s) acts)
    (hrun : W.system.run (.start s) acts = some cfg) : ∃ own, L.Informed Q own cfg := by
  refine W.system.run_invariant_along
    (fun _ _ _ hguard h hstep => Informed.step hbody hguard h hstep)
    ⟨fun _ => none, hinv, fun i th hth => ?_, fun hown => ?_, fun hown => ?_⟩ halong hrun
  · simp [Config.start] at hth
  · cases hown
  · cases hown

/-- What no call can destroy stays so from any point of a run on. -/
theorem stable_of_run {s : W.State} {acts acts' : List W.Action} (hinv : L.Inv s)
    (halong : W.system.Along L.guard (.start s) (acts ++ acts'))
    (hrun : W.system.run (.start s) acts = some cfg) (hrun' : W.system.run cfg acts' = some cfg')
    (hstable : ∀ x s s', L.Rel x s s' → P s → P s') (hP : P cfg.state) : P cfg'.state := by
  have hinformed := informed_of_run hbody hinv (W.system.along_append_left halong) hrun
  have hstep : ∀ (cfg : W.Config) (a : W.Action) (cfg' : W.Config), L.guard cfg a →
      (∃ own, L.Informed Q own cfg) ∧ P cfg.state → cfg.step a = some cfg' →
      (∃ own, L.Informed Q own cfg') ∧ P cfg'.state := by
    rintro cfg a cfg' hguard ⟨⟨own, h⟩, hP⟩ hstep
    refine ⟨Informed.step hbody hguard ⟨own, h⟩ hstep, ?_⟩
    rcases h.rel hstep with hsame | ⟨x, hrel⟩
    · rwa [hsame]
    · exact hstable x _ _ hrel hP
  exact (W.system.run_invariant_along hstep ⟨hinformed, hP⟩
    (W.system.along_append_right halong hrun) hrun').2

/-- When a task has returned, what it was to learn is so, and stays so. -/
theorem learned_of_run {s : W.State} {acts : List W.Action} (hinv : L.Inv s)
    (halong : W.system.Along L.guard (.start s) acts)
    (hrun : W.system.run (.start s) acts = some cfg) {i : ℕ} {th : W.Thread} {value : W.Result}
    (hth : cfg.threads[i]? = some th) (hret : th.result = some value) :
    Q th.task value cfg.state := by
  obtain ⟨own, hinformed⟩ := informed_of_run hbody hinv halong hrun
  obtain ⟨P, -, hP, hobeys⟩ := hinformed.knows i th hth
  rw [Thread.result_eq_some.mp hret] at hobeys
  exact hobeys cfg.state hP

end

end

end Learning

end Wardnet.Base
