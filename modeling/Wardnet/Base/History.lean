/-
# What a pool has done

Each task keeps the calls it has completed. The history of a run has the calls of all tasks, in
the order in which they were performed, each with the call that its task had completed before.
What is to be shown of the history and the state of every run follows from what a single call
does to both.
-/

import Mathlib.Data.List.Induction
import Wardnet.Base.Pool

namespace Wardnet.Base

namespace World

variable {W : World}

variable (W) in
/-- A completed call, and the one that its task had completed before. -/
structure Entry where
  last : Option ((c : W.Call) × W.Resp c)
  event : W.Event

def lastOf (log : List W.Event) : Option ((c : W.Call) × W.Resp c) :=
  log.getLast?.map fun e => ⟨e.call, e.resp⟩

def Config.performed (cfg : W.Config) : W.Action → List W.Entry
  | .step i _ => (cfg.threads[i]?.bind fun th =>
      th.log.getLast?.map (Entry.mk (lastOf th.log.dropLast))).toList
  | .spawn _ | .env _ => []

/-- The calls of a run, in the order in which they were completed. -/
def history (cfg : W.Config) : List W.Action → List W.Entry
  | [] => []
  | a :: acts =>
    match cfg.step a with
    | some cfg' => cfg'.performed a ++ history cfg' acts
    | none => []

theorem Config.performed_of_performs {cfg cfg' : W.Config} {i : ℕ} {choice : W.Choice}
    {th : W.Thread} {e : W.Event} (h : cfg.Performs i th e cfg') :
    cfg'.performed (.step i choice) = [⟨lastOf th.log, e⟩] := by
  obtain ⟨_, next, hth, -, -, hthreads⟩ := h
  have hi : i < cfg.threads.length := (List.getElem?_eq_some_iff.mp hth).1
  simp [Config.performed, hthreads, List.getElem?_set_self hi]

theorem history_concat {cfg mid cfg' : W.Config} {acts : List W.Action} {a : W.Action}
    (hrun : W.system.run cfg acts = some mid) (hstep : mid.step a = some cfg') :
    W.history cfg (acts ++ [a]) = W.history cfg acts ++ cfg'.performed a := by
  induction acts generalizing cfg with
  | nil =>
    cases hrun
    simp [history, hstep]
  | cons b acts ih =>
    obtain ⟨next, hnext, hrest⟩ := W.system.run_cons_eq_some.mp hrun
    have hnext' : cfg.step b = some next := hnext
    simp only [List.cons_append, history, hnext', ih hrest, List.append_assoc]

/-- What a procedure has left after a log is as its calls require. -/
theorem Left.allAfter {α : Type} {ok : Option ((c : W.Call) × W.Resp c) → W.Call → Prop}
    {log : List W.Event} {p rest : Prog W.Call W.Resp α} {last : Option ((c : W.Call) × W.Resp c)}
    (h : Left log p rest) (hp : p.AllAfter ok last) : rest.AllAfter ok ((lastOf log).or last) := by
  induction log generalizing p last with
  | nil =>
    obtain rfl : rest = p := h
    exact hp
  | cons e log ih =>
    cases p with
    | ret value => exact h.elim
    | call c next =>
      obtain ⟨r, rfl, hrest⟩ := h
      have hnext := ih hrest (hp.2 r)
      cases hlog : log.getLast? with
      | none => simpa [lastOf, List.getLast?_cons, hlog] using hnext
      | some e => simpa [lastOf, List.getLast?_cons, hlog] using hnext

/-- What every call keeps of the history and the state holds throughout a run. -/
theorem history_invariant {I : List W.Entry → W.State → Prop}
    {ok : Option ((c : W.Call) × W.Resp c) → W.Call → Prop}
    (hbody : ∀ task, (W.body task).AllAfter ok none)
    (hexec : ∀ {entries s last c choice r s'}, ok last c → I entries s →
      W.exec choice c s = some (r, s') → I (entries ++ [⟨last, ⟨c, r⟩⟩]) s')
    (henv : ∀ {entries s e s'}, I entries s → W.env e s = some s' → I entries s')
    {s : W.State} {acts : List W.Action} {cfg : W.Config} (hstart : I [] s)
    (hrun : W.system.run (.start s) acts = some cfg) :
    I (W.history (.start s) acts) cfg.state := by
  induction acts using List.reverseRecOn generalizing cfg with
  | nil =>
    cases hrun
    exact hstart
  | append_singleton acts a ih =>
    obtain ⟨before, hbefore, hstep⟩ := W.system.run_concat_eq_some.mp hrun
    have hI := ih hbefore
    rw [history_concat hbefore hstep]
    cases a with
    | spawn task =>
      cases hstep
      simpa [Config.performed] using hI
    | env e =>
      obtain ⟨s', henv', rfl⟩ := Option.map_eq_some_iff.mp hstep
      simpa [Config.performed] using henv hI henv'
    | step i choice =>
      obtain ⟨th, e, hperforms⟩ := Config.performs_of_step hstep
      obtain ⟨choice', next, hth, hprog, hexec', -⟩ := id hperforms
      rw [Config.performed_of_performs hperforms]
      refine hexec ?_ hI hexec'
      have hleft := Config.left_of_run hbefore th (List.mem_of_getElem? hth)
      rw [hprog] at hleft
      have hafter := hleft.allAfter (hbody th.task)
      rw [Option.or_none] at hafter
      exact hafter.1

end World

end Wardnet.Base
