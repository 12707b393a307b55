/-
# Programs that act through atomic calls

An asynchronous procedure touches shared state only at its awaited calls, and
other tasks may run between any two of them. `Prog` keeps exactly this: a
procedure is a tree that either returns or issues one call and continues with
the answer. Loops over lists are structural recursion; failure is an ordinary
answer, so `ExceptT` over `Prog` gives early return on error.

`Runs` is a procedure running alone. The interleaved semantics is in `Pool`.
-/

import Mathlib.Logic.Relation

namespace Wardnet.Base

universe u v w

/-- A procedure over calls `C`, where the call `c` is answered in `R c`. -/
inductive Prog (C : Type u) (R : C → Type v) (α : Type w) : Type (max u v w)
  | ret (value : α)
  | call (c : C) (next : R c → Prog C R α)

namespace Prog

variable {C : Type u} {R : C → Type v} {α β γ : Type w}

def bind : Prog C R α → (α → Prog C R β) → Prog C R β
  | ret value, f => f value
  | call c next, f => call c fun answer => (next answer).bind f

instance : Monad (Prog C R) where
  pure := ret
  bind := bind

@[simp]
theorem pure_eq_ret (value : α) : (pure value : Prog C R α) = ret value := rfl

@[simp]
theorem bind_eq_bind (p : Prog C R α) (f : α → Prog C R β) : p >>= f = p.bind f := rfl

@[simp]
theorem ret_bind (value : α) (f : α → Prog C R β) : (ret value).bind f = f value := rfl

@[simp]
theorem call_bind (c : C) (next : R c → Prog C R α) (f : α → Prog C R β) :
    (call c next).bind f = call c fun answer => (next answer).bind f := rfl

theorem bind_ret (p : Prog C R α) : p.bind ret = p := by
  induction p with
  | ret value => rfl
  | call c next ih => simp only [call_bind, ih]

theorem bind_assoc (p : Prog C R α) (f : α → Prog C R β) (g : β → Prog C R γ) :
    (p.bind f).bind g = p.bind fun value => (f value).bind g := by
  induction p with
  | ret value => rfl
  | call c next ih => simp only [call_bind, ih]

instance : LawfulMonad (Prog C R) :=
  LawfulMonad.mk' _ bind_ret (fun _ _ => rfl) bind_assoc

/-- Every call the procedure may issue satisfies `ok`. -/
def All (ok : C → Prop) : Prog C R α → Prop
  | ret _ => True
  | call c next => ok c ∧ ∀ answer, (next answer).All ok

theorem all_true (p : Prog C R α) : p.All fun _ => True := by
  induction p with
  | ret value => trivial
  | call c next ih => exact ⟨trivial, ih⟩

variable {ok : C → Prop} {p : Prog C R α}

theorem All.mono {ok' : C → Prop} (hok : ∀ c, ok c → ok' c) (h : p.All ok) : p.All ok' := by
  induction p with
  | ret value => trivial
  | call c next ih => exact ⟨hok c h.1, fun answer => ih answer (h.2 answer)⟩

theorem All.bind {f : α → Prog C R β} (hp : p.All ok) (hf : ∀ value, (f value).All ok) :
    (p.bind f).All ok := by
  induction p with
  | ret value => exact hf value
  | call c next ih => exact ⟨hp.1, fun answer => ih answer (hp.2 answer)⟩

theorem All.exceptBind {ε : Type w} {p : ExceptT ε (Prog C R) α} {f : α → ExceptT ε (Prog C R) β}
    (hp : p.run.All ok) (hf : ∀ value, (f value).run.All ok) :
    (p >>= f).run.All ok := by
  apply All.bind hp
  intro answer
  cases answer with
  | ok value => exact hf value
  | error e => trivial

/-- Every call the procedure may issue satisfies `ok`, together with the call before it. -/
def AllAfter (ok : Option ((c : C) × R c) → C → Prop) :
    Option ((c : C) × R c) → Prog C R α → Prop
  | _, ret _ => True
  | last, call c next => ok last c ∧ ∀ answer, (next answer).AllAfter ok (some ⟨c, answer⟩)

section

variable {ok' : Option ((c : C) × R c) → C → Prop} {last : Option ((c : C) × R c)}

theorem All.after (h : p.All ok) (hok : ∀ last c, ok c → ok' last c) : p.AllAfter ok' last := by
  induction p generalizing last with
  | ret value => trivial
  | call c next ih => exact ⟨hok last c h.1, fun answer => ih answer (h.2 answer)⟩

theorem AllAfter.bind {f : α → Prog C R β} (hp : p.AllAfter ok' last)
    (hf : ∀ value last, (f value).AllAfter ok' last) : (p.bind f).AllAfter ok' last := by
  induction p generalizing last with
  | ret value => exact hf value last
  | call c next ih => exact ⟨hp.1, fun answer => ih answer (hp.2 answer)⟩

theorem AllAfter.all (h : p.AllAfter ok' last) (hok : ∀ last c, ok' last c → ok c) : p.All ok := by
  induction p generalizing last with
  | ret value => trivial
  | call c next ih => exact ⟨hok last c h.1, fun answer => ih answer (h.2 answer)⟩

/-- A procedure whose first part issues calls that may follow any other. -/
theorem AllAfter.exceptBind {ε : Type w} {p : ExceptT ε (Prog C R) α}
    {f : α → ExceptT ε (Prog C R) β} (hok : ∀ last c, ok c → ok' last c) (hp : p.run.All ok)
    (hf : ∀ value last, (f value).run.AllAfter ok' last) : (p >>= f).run.AllAfter ok' last := by
  apply AllAfter.bind (hp.after hok)
  intro answer last
  cases answer with
  | ok value => exact hf value last
  | error e => trivial

end

/-- The procedure, and whatever may be left of it after some answers, satisfies `P`. -/
def Always (P : Prog C R α → Prop) : Prog C R α → Prop
  | ret value => P (ret value)
  | call c next => P (call c next) ∧ ∀ answer, (next answer).Always P

theorem Always.mono {P Q : Prog C R α → Prop} (h : p.Always P) (hPQ : ∀ q, P q → Q q) :
    p.Always Q := by
  induction p with
  | ret value => exact hPQ _ h
  | call c next ih => exact ⟨hPQ _ h.1, fun answer => ih answer (h.2 answer)⟩

theorem all_iff_always : p.All ok ↔ p.Always fun q => ∀ c next, q = call c next → ok c := by
  induction p with
  | ret value => exact iff_of_true trivial nofun
  | call c next ih =>
    constructor
    · rintro ⟨hc, hnext⟩
      refine ⟨?_, fun answer => (ih answer).mp (hnext answer)⟩
      rintro _ _ ⟨⟩
      exact hc
    · rintro ⟨hc, hnext⟩
      exact ⟨hc c next rfl, fun answer => (ih answer).mpr (hnext answer)⟩

/-- The same procedure over other calls: each call is issued as `f` says, and `back` reads its
answer. -/
def translate {C' : Type u} {R' : C' → Type v} (f : C → C') (back : ∀ c, R' (f c) → R c) :
    Prog C R α → Prog C' R' α
  | ret value => ret value
  | call c next => call (f c) fun answer => (next (back c answer)).translate f back

theorem translate_bind {C' : Type u} {R' : C' → Type v} {f : C → C'} {back : ∀ c, R' (f c) → R c}
    {g : α → Prog C R β} :
    (p.bind g).translate f back =
      (p.translate f back).bind fun value => (g value).translate f back := by
  induction p with
  | ret value => rfl
  | call c next ih => simp only [call_bind, translate, ih]

theorem All.translate {C' : Type u} {R' : C' → Type v} {f : C → C'} {back : ∀ c, R' (f c) → R c}
    {ok : C' → Prop} (h : p.All fun c => ok (f c)) :
    (p.translate f back).All ok := by
  induction p with
  | ret value => trivial
  | call c next ih => exact ⟨h.1, fun answer => ih _ (h.2 _)⟩

section

variable {σ : Type*} (step : (c : C) → σ → R c → σ → Prop)

/-- Run a procedure alone: `step c s r s'` says that the call `c` may be answered
`r` in the state `s` and leaves `s'`. -/
def Runs : Prog C R α → σ → α → σ → Prop
  | ret value, s, result, s' => result = value ∧ s' = s
  | call c next, s, result, s' => ∃ r t, step c s r t ∧ Runs (next r) t result s'

variable {result : α} {s s' : σ} {p : Prog C R α}

@[simp]
theorem runs_ret {value : α} :
    (ret value : Prog C R α).Runs step s result s' ↔ result = value ∧ s' = s := Iff.rfl

@[simp]
theorem runs_call {c : C} {next : R c → Prog C R α} :
    (call c next).Runs step s result s' ↔ ∃ r t, step c s r t ∧ (next r).Runs step t result s' :=
  Iff.rfl

variable {f : α → Prog C R β} {ok : C → Prop} {answer : (c : C) → σ → Option (R c × σ)}

/-- Running a composition is running its parts in order. -/
@[simp]
theorem runs_bind {result : β} : (p.bind f).Runs step s result s' ↔
      ∃ value t, p.Runs step s value t ∧ (f value).Runs step t result s' := by
  induction p generalizing s with
  | ret value =>
    constructor
    · intro h
      exact ⟨value, s, ⟨rfl, rfl⟩, h⟩
    · rintro ⟨_, _, ⟨rfl, rfl⟩, h⟩
      exact h
  | call c next ih =>
    simp only [call_bind, runs_call, ih]
    constructor
    · rintro ⟨r, t, hstep, value, u, hnext, hf⟩
      exact ⟨value, u, ⟨r, t, hstep, hnext⟩, hf⟩
    · rintro ⟨value, u, ⟨r, t, hstep, hnext⟩, hf⟩
      exact ⟨r, t, hstep, value, u, hnext, hf⟩

theorem runs_exceptBind {ε : Type w} {p : ExceptT ε (Prog C R) α} {f : α → ExceptT ε (Prog C R) β}
    {result : Except ε β} :
    (p >>= f).run.Runs step s result s' ↔
      (∃ e, result = .error e ∧ p.run.Runs step s (.error e) s') ∨
        ∃ value t, p.run.Runs step s (.ok value) t ∧ (f value).run.Runs step t result s' := by
  have hbind : (p >>= f).run = p.run.bind (ExceptT.bindCont f) := rfl
  rw [hbind, runs_bind]
  constructor
  · rintro ⟨answer, t, hp, hf⟩
    cases answer with
    | error e =>
      obtain ⟨rfl, rfl⟩ := hf
      exact .inl ⟨e, rfl, hp⟩
    | ok value => exact .inr ⟨value, t, hp, hf⟩
  · rintro (⟨e, rfl, hp⟩ | ⟨value, t, hp, hf⟩)
    · exact ⟨.error e, s', hp, rfl, rfl⟩
    · exact ⟨.ok value, t, hp, hf⟩

theorem runs_exceptBind_ok {ε : Type w} {p : ExceptT ε (Prog C R) α}
    {f : α → ExceptT ε (Prog C R) β} {result : β} :
    (p >>= f).run.Runs step s (.ok result) s' ↔
      ∃ value t, p.run.Runs step s (.ok value) t ∧ (f value).run.Runs step t (.ok result) s' := by
  rw [runs_exceptBind]
  constructor
  · rintro (⟨_, he, -⟩ | h)
    · cases he
    · exact h
  · exact .inr

theorem runs_exceptLift {ε : Type w} {result : Except ε α} :
    (ExceptT.lift p : ExceptT ε (Prog C R) α).run.Runs step s result s' ↔
      ∃ value, p.Runs step s value s' ∧ result = .ok value := by
  have hlift : (ExceptT.lift p : ExceptT ε (Prog C R) α).run = p.bind fun value =>
    .ret (.ok value) := rfl
  rw [hlift, runs_bind]
  constructor
  · rintro ⟨value, _, hp, rfl, rfl⟩
    exact ⟨value, hp, rfl⟩
  · rintro ⟨value, hp, rfl⟩
    exact ⟨value, s', hp, rfl, rfl⟩

theorem Runs.mono {step' : (c : C) → σ → R c → σ → Prop}
    (hstep : ∀ c s r s', step c s r s' → step' c s r s') (hrun : p.Runs step s result s') :
    p.Runs step' s result s' := by
  induction p generalizing s with
  | ret value => exact hrun
  | call c next ih =>
    obtain ⟨r, t, hcall, hnext⟩ := hrun
    exact ⟨r, t, hstep c s r t hcall, ih r hnext⟩

/-- What every call of a procedure preserves, the procedure preserves. -/
theorem Runs.invariant (Inv : σ → Prop) (hstep : ∀ c s r s', ok c → step c s r s' → Inv s → Inv s')
    (hall : p.All ok) (hrun : p.Runs step s result s') (hinv : Inv s) : Inv s' := by
  induction p generalizing s with
  | ret value =>
    obtain ⟨-, rfl⟩ := hrun
    exact hinv
  | call c next ih =>
    obtain ⟨r, t, hcall, hnext⟩ := hrun
    exact ih r (hall.2 r) hnext (hstep c s r t hall.1 hcall hinv)

/-- Two runs of one procedure whose calls are answered alike stay related. -/
theorem Runs.lockstep {τ : Type*} {step' : (c : C) → τ → R c → τ → Prop} {Rel : σ → τ → Prop}
    (hstep : ∀ c s t r r' s' t', ok c → Rel s t → step c s r s' → step' c t r' t' →
      r' = r ∧ Rel s' t') (hall : p.All ok) {t t' : τ} {result' : α}
    (hrun : p.Runs step s result s') (hrun' : p.Runs step' t result' t') (hrel : Rel s t) :
    result' = result ∧ Rel s' t' := by
  induction p generalizing s t with
  | ret value =>
    obtain ⟨rfl, rfl⟩ := hrun
    obtain ⟨rfl, rfl⟩ := hrun'
    exact ⟨rfl, hrel⟩
  | call c next ih =>
    obtain ⟨r, u, hcall, hnext⟩ := hrun
    obtain ⟨r', u', hcall', hnext'⟩ := hrun'
    obtain ⟨rfl, hrel'⟩ := hstep c s t r r' u u' hall.1 hrel hcall hcall'
    exact ih _ (hall.2 _) hnext hnext' hrel'

/-- A step that keeps a record of the calls and their answers next to the state. -/
def Recorded (c : C) (s : σ × List ((c : C) × R c)) (r : R c) (s' : σ × List ((c : C) × R c)) :
    Prop :=
  step c s.1 r s'.1 ∧ s'.2 = s.2 ++ [⟨c, r⟩]

/-- Run alone from `s`, the procedure returns, and it can only return with `Q`: no call is ever
left without an answer. -/
def Total (Q : α → σ → Prop) : Prog C R α → σ → Prop
  | ret value, s => Q value s
  | call c next, s => (∃ r t, step c s r t) ∧ ∀ r t, step c s r t → Total Q (next r) t

section

variable {step} {Q : α → σ → Prop}

@[simp]
theorem total_ret {value : α} {s : σ} :
    (ret value : Prog C R α).Total step Q s ↔ Q value s := Iff.rfl

theorem total_bind {Q : β → σ → Prop} {p : Prog C R α} {f : α → Prog C R β} {s : σ} :
    (p.bind f).Total step Q s ↔ p.Total step (fun value t => (f value).Total step Q t) s := by
  induction p generalizing s with
  | ret value => exact Iff.rfl
  | call c next ih => exact and_congr Iff.rfl (forall₃_congr fun r t _ => ih r)

theorem total_call {c : C} {next : R c → Prog C R α} {s t : σ} {r : R c}
    (hstep : ∀ r' t', step c s r' t' ↔ r' = r ∧ t' = t) :
    (call c next).Total step Q s ↔ (next r).Total step Q t := by
  constructor
  · intro h
    exact h.2 r t ((hstep r t).mpr ⟨rfl, rfl⟩)
  · intro h
    refine ⟨⟨r, t, (hstep r t).mpr ⟨rfl, rfl⟩⟩, fun r' t' hr => ?_⟩
    obtain ⟨rfl, rfl⟩ := (hstep r' t').mp hr
    exact h

theorem total_exceptBind {ε : Type w} {Q : Except ε β → σ → Prop} {p : ExceptT ε (Prog C R) α}
    {f : α → ExceptT ε (Prog C R) β} {s : σ} :
    (p >>= f).run.Total step Q s ↔
      p.run.Total step (fun r t => (ExceptT.bindCont f r).Total step Q t) s :=
  total_bind

@[simp]
theorem total_bindCont_ok {ε : Type w} {Q : Except ε β → σ → Prop}
    {f : α → ExceptT ε (Prog C R) β} {value : α} {s : σ} :
    (ExceptT.bindCont f (.ok value : Except ε α)).Total step Q s ↔
      (f value).run.Total step Q s := Iff.rfl

@[simp]
theorem total_bindCont_error {ε : Type w} {Q : Except ε β → σ → Prop}
    {f : α → ExceptT ε (Prog C R) β} {e : ε} {s : σ} :
    (ExceptT.bindCont f (.error e : Except ε α)).Total step Q s ↔ Q (.error e) s := Iff.rfl

theorem Total.mono {Q' : α → σ → Prop} (hQ : ∀ value s, Q value s → Q' value s)
    {p : Prog C R α} {s : σ} (h : p.Total step Q s) : p.Total step Q' s := by
  induction p generalizing s with
  | ret value => exact hQ value s h
  | call c next ih => exact ⟨h.1, fun r t hstep => ih r (h.2 r t hstep)⟩

end

def runWith (answer : (c : C) → σ → Option (R c × σ)) : Prog C R α → σ → Option (α × σ)
  | ret value, s => some (value, s)
  | call c next, s => (answer c s).bind fun out => runWith answer (next out.1) out.2

theorem runWith_bind : (p.bind f).runWith answer s =
      (p.runWith answer s).bind fun out => (f out.1).runWith answer out.2 := by
  induction p generalizing s with
  | ret value => rfl
  | call c next ih =>
    simp only [call_bind, runWith, Option.bind_assoc]
    congr
    funext out
    exact ih out.1

theorem runs_of_runWith (hanswer : ∀ c s r s', answer c s = some (r, s') → step c s r s')
    (h : p.runWith answer s = some (result, s')) : p.Runs step s result s' := by
  induction p generalizing s with
  | ret value =>
    cases h
    exact ⟨rfl, rfl⟩
  | call c next ih =>
    obtain ⟨⟨r, t⟩, hcall, hnext⟩ := Option.bind_eq_some_iff.mp h
    exact ⟨r, t, hanswer c s r t hcall, ih r hnext⟩

end

end Prog

def perform {C : Type u} {R : C → Type v} (c : C) : Prog C R (R c) := .call c .ret

@[simp]
theorem runs_perform {C : Type u} {R : C → Type v} {σ : Type*} (c : C)
    {step : (c : C) → σ → R c → σ → Prop} {s s' : σ} {r : R c} :
    (perform c : Prog C R (R c)).Runs step s r s' ↔ step c s r s' := by
  constructor
  · rintro ⟨_, _, hstep, rfl, rfl⟩
    exact hstep
  · intro hstep
    exact ⟨r, s', hstep, rfl, rfl⟩

@[simp]
theorem perform_bind {C : Type u} {R : C → Type v} {β : Type v} (c : C)
    (f : R c → Prog C R β) : (perform c).bind f = .call c f := rfl

end Wardnet.Base
