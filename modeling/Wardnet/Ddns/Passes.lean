/-
# The passes, for any rely condition

How a pass is put together from its calls does not depend on what is proved about it. A
pass keeps the ghost value and the knowledge of its task as soon as every visit does, and
a visit as soon as the service operation does that it calls. The rules here are for any
rely condition of the replicas.
-/

import Wardnet.Base.Rely
import Wardnet.Ddns.World

namespace Wardnet.Ddns

open Base Tenants Rely Triple

/-! ## The calls of a procedure -/

/-- The name under which the call publishes an address. -/
def Call.publishes : Call → Option String
  | .upsertRecord _ .a fqdn _ _ => some fqdn
  | _ => none

theorem all_issue {ok : Call → Prop} {c : Call} (hok : ok c) : (issue c).All ok :=
  ⟨hok, fun _ => trivial⟩

theorem all_orInternal {α : Type} {ok : Call → Prop} {p : Proc (Except Failure α)} (hp : p.All ok) :
    (orInternal p).run.All ok :=
  hp.bind fun _ => trivial

section

variable {ok : Call → Prop} (hquiet : ∀ c, c.publishes = none → ok c)

include hquiet

theorem all_provision {networkId fqdn ip : String}
    (hpublish : ∀ existing, ok (.upsertRecord networkId .a fqdn ip existing)) :
    (provision networkId fqdn ip).run.All ok := by
  apply Prog.All.exceptBind (all_orInternal (all_issue (hquiet _ rfl)))
  intro existing
  apply Prog.All.exceptBind (all_orInternal (all_issue (hpublish existing)))
  intro recordId
  apply Prog.All.exceptBind (all_orInternal (all_issue (hquiet _ rfl)))
  intro won
  cases won with
  | true => trivial
  | false =>
    apply Prog.All.exceptBind (all_orInternal (all_issue (hquiet _ rfl)))
    intro op
    dsimp only
    split
    · trivial
    · exact ⟨hquiet _ rfl, fun _ => trivial⟩

theorem all_transition_active (networkId : String) : (transition networkId .active).run.All ok := by
  apply Prog.All.exceptBind (all_issue (hquiet _ rfl))
  intro marked
  cases marked with
  | true => trivial
  | false =>
    apply Prog.All.exceptBind (all_issue (hquiet _ rfl))
    intro state
    split
    all_goals trivial

end

/-- The provisioner publishes a network under its slug. -/
theorem provisionNetwork_publishes (subdomainParent : String) (net : NetworkView) :
    (provisionNetwork subdomainParent net).All fun c =>
      ∀ name, c.publishes = some name → name = net.slug ++ "." ++ subdomainParent := by
  have hquiet : ∀ c : Call, c.publishes = none →
      ∀ name, c.publishes = some name → name = net.slug ++ "." ++ subdomainParent := by
    intro c hnone name hname
    rw [hnone] at hname
    cases hname
  apply Prog.All.bind (all_issue (hquiet _ rfl))
  intro r
  cases r with
  | error => trivial
  | ok op =>
    dsimp only
    split
    · trivial
    · apply Prog.All.bind (all_provision hquiet fun existing name hname => ?_)
      · intro r
        cases r with
        | error => trivial
        | ok => exact (all_transition_active hquiet net.id).bind fun _ => trivial
      · exact (Option.some.inj hname).symm

/-! ## What the tasks keep -/

variable {R : Rely world} {x : R.Ghost} {P : Cloud → Prop}

theorem triple_orInternal {α : Type} {pre : R.Note → Prop} {p : Proc (Except Failure α)}
    {Q : α → R.Note → Prop} {E : R.Note → Prop} (hp : R.Triple pre p (Rely.orElse Q E)) :
    R.Triple pre (orInternal p).run (Rely.orElse Q E) :=
  hp.mapError _

theorem triple_transition_active {networkId : String}
    (hmark : R.Keeps x P (issue (.markNetworkActive networkId)))
    (hstate : R.Keeps x P (issue (.networkState networkId))) :
    R.Keeps x P (transition networkId .active).run := by
  apply exceptBind_const hmark
  intro marked
  cases marked with
  | true => exact ret fun g hg => hg
  | false =>
    apply exceptBind_const hstate
    intro state
    split
    all_goals exact ret fun g hg => hg

theorem triple_transition_deprovisioned {networkId : String}
    (hfinish : R.Keeps x P (issue (.finishDeprovision networkId)))
    (hstate : R.Keeps x P (issue (.networkState networkId))) :
    R.Keeps x P (transition networkId .deprovisioned).run := by
  apply exceptBind_const hfinish
  intro finished
  cases finished with
  | true => exact ret fun g hg => hg
  | false =>
    apply exceptBind_const hstate
    intro state
    split
    all_goals exact ret fun g hg => hg

/-- A visit of a provisioner: what the row shows lets the task publish, and what publishing
shows lets it report the network as active. -/
theorem triple_provisionNetwork {subdomainParent : String} {net : NetworkView}
    {pre post B : R.Note → Prop} {A : Option Operational → R.Note → Prop}
    (hread : R.Triple pre (issue (.findById net.id)) (Rely.orElse A post))
    (hskip : ∀ op g, A op g → post g)
    (hprovision : ∀ op ip, op.bind Operational.ip = some ip → R.Triple (A op)
      (provision net.id (net.slug ++ "." ++ subdomainParent) ip).run
        (Rely.orElse (fun _ => B) post))
    (htransition : R.Triple B (transition net.id .active).run fun _ => post) :
    R.Triple pre (provisionNetwork subdomainParent net) fun _ => post := by
  apply bind hread
  intro r
  cases r with
  | error => exact ret fun g hg => hg
  | ok op =>
    cases hip : op.bind Operational.ip with
    | none =>
      simp only [hip]
      exact ret (hskip op)
    | some ip =>
      simp only [hip]
      apply bind (hprovision op ip hip)
      intro r
      cases r with
      | error => exact ret fun g hg => hg
      | ok =>
        apply bind htransition
        intro _
        exact ret fun g hg => hg

section

variable {visit : NetworkView → Proc Unit} {K : NetworkView → Cloud → Prop}
  (hvisit : ∀ net (P : Cloud → Prop), (∀ s, P s → K net s) →
    R.Keeps x P (visit net))

include hvisit

theorem triple_forPage (page : List NetworkView) (hpage : ∀ net ∈ page, ∀ s, P s → K net s) :
    R.Keeps x P (forPage visit page) := by
  induction page with
  | nil => exact ret fun g hg => hg
  | cons net page ih =>
    apply bind (hvisit net P (hpage net List.mem_cons_self))
    intro _
    exact ih fun net' hnet' => hpage net' (List.mem_cons_of_mem _ hnet')

/-- A pass keeps what each visit keeps, relying on what the listing says of the networks it
returns. -/
theorem triple_drain {state : ProvisioningState} {region : String}
    (hlist : ∀ afterId, R.Triple (R.Has x P) (issue (.listNetworks state region afterId pageLimit))
      fun r => R.Has x fun s => P s ∧ ∀ page, r = .ok page → ∀ net ∈ page, K net s)
    (pages : ℕ) (afterId : Option String) :
    R.Keeps x P (drain state region visit pages afterId) := by
  induction pages generalizing afterId with
  | zero => exact ret fun g hg => hg
  | succ pages ih =>
    apply bind (hlist afterId)
    intro r
    cases r with
    | error => exact ret fun g hg => hg.mono fun s h => h.1
    | ok page =>
      by_cases hempty : page = []
      · simp only [if_pos hempty]
        exact ret fun g hg => hg.mono fun s h => h.1
      · simp only [if_neg hempty]
        apply bind (triple_forPage hvisit page fun net hnet s h => h.2 page rfl net hnet)
        intro _
        split
        · exact (ih _).conseq (fun g hg => hg.mono fun s h => h.1) fun _ _ h => h
        · exact ret fun g hg => hg.mono fun s h => h.1

end

end Wardnet.Ddns
