/-
# Whether a live tunnel is routable

A connection claims the route row of its slug and then registers; when it ends, it
gives its registration up and then deletes the row, if the row still names its node.
The registration is guarded by a generation, the row only by the node. A connection
that cleans up therefore deletes the row that a reconnect to the same node has just
claimed, and a connection to another node takes the row away from a tunnel that
outlives it.

In every run in which establishing and cleaning up on one node do not overlap, and
a connection is established only while none is open on another node, the row of a
registered slug names the node that holds it.
-/

import Wardnet.Tunnel.AbortReaper

namespace Wardnet.Tunnel.Routable

open Base Tenants TunnelRegistry

/-- Where a connection stands, as far as one slug goes. -/
inductive Phase
  | away
  | claimed (nodeAddr : String)
  | serving (nodeAddr : String) (generation : UInt64)
  | cleaning (nodeAddr : String)
  deriving DecidableEq

instance : Inhabited Phase := ⟨.away⟩

def Phase.openOn : Phase → Option String
  | .claimed nodeAddr | .serving nodeAddr _ => some nodeAddr
  | .away | .cleaning _ => none

/-- Whether the connection is not between two steps of establishing or cleaning up. -/
def Phase.settled : Phase → Bool
  | .away | .serving .. => true
  | .claimed _ | .cleaning _ => false

def Phase.next (slug : String) (phase : Phase) : world.Event → Phase
  | ⟨.upsert slug' nodeAddr _ _ _, .ok _⟩ => if slug' = slug then .claimed nodeAddr else phase
  | ⟨.register nodeAddr slug' _ _, reg⟩ =>
    if slug' = slug then .serving nodeAddr reg.generation else phase
  | ⟨.unregister nodeAddr slug' _, owned⟩ =>
    if slug' = slug then if owned then .cleaning nodeAddr else .away else phase
  | ⟨.isCancelled _ _, cancelled⟩ => if cancelled then .away else phase
  | ⟨.delete slug' _, _⟩ => if slug' = slug then .away else phase
  | _ => phase

/-- The phase of a connection, from the calls it has completed. -/
def phaseOf (slug : String) (log : List world.Event) : Phase := log.foldl (Phase.next slug) .away

theorem phaseOf_concat (slug : String) (log : List world.Event) (e : world.Event) :
    phaseOf slug (log ++ [e]) = (phaseOf slug log).next slug e := by
  simp [phaseOf, List.foldl_append]

def RoutedTo (s : Region) (slug nodeAddr : String) : Prop :=
  (s.routes.get? slug).any (·.nodeAddr = nodeAddr) = true

/-- What ties the registries and the route row of a slug together. -/
structure Routed (slug : String) (s : Region) (phases : Set Phase) : Prop where
  /-- Every registration belongs to a connection that has not ended. -/
  owner : ∀ node e, Registered s node slug e → .serving node e.generation ∈ phases
  /-- All open connections are on one node. -/
  together : ∀ phase ∈ phases, ∀ phase' ∈ phases, ∀ node ∈ phase.openOn, ∀ node' ∈ phase'.openOn,
    node = node'
  /-- On a node that cleans up, nothing is registered or being established. -/
  resting : ∀ node, .cleaning node ∈ phases →
    .claimed node ∉ phases ∧ ∀ e, ¬ Registered s node slug e
  claimed : ∀ node, .claimed node ∈ phases → RoutedTo s slug node
  registered : ∀ node e, Registered s node slug e → RoutedTo s slug node

/-- What may be assumed of a call while the other connections are in `rest`. -/
def Permitted (slug : String) (rest : Set Phase) : Call → Prop
  | .upsert slug' nodeAddr _ _ _ => slug' = slug →
      (∀ phase ∈ rest, ∀ node ∈ phase.openOn, node = nodeAddr) ∧ .cleaning nodeAddr ∉ rest
  | .unregister nodeAddr slug' _ => slug' = slug → .claimed nodeAddr ∉ rest
  | _ => True

@[reducible]
def outline (slug : String) : Outline world Phase where
  Inv := Routed slug
  Sees _ phase _ log _ := phase = phaseOf slug log
  Permits _ _ rest c choice := choice.fails = false ∧ Permitted slug rest c

variable {slug : String} {s s' : Region} {rest : Set Phase}

/-! ## What each call does -/

/-- The calls that may change the registrations or the route row of the slug. -/
def Call.concerns (slug : String) : Call → Bool
  | .upsert slug' .. | .delete slug' _ | .register _ slug' _ _ | .unregister _ slug' _ =>
    slug' = slug
  | .touch .. | .reapExpired _ | .abort .. => true
  | _ => false

structure Untouched (slug : String) (s s' : Region) : Prop where
  registered : ∀ node e, Registered s' node slug e ↔ Registered s node slug e
  routed : s'.routes.get? slug = s.routes.get? slug

variable {nodeAddr tenantId networkId : String} {generation : UInt64} {phases : Set Phase}

theorem untouched_setRegistry {reg : TunnelRegistry}
    (hsame : reg.bySlug.get? slug = (s.registry nodeAddr).bySlug.get? slug) :
    Untouched slug s (s.setRegistry nodeAddr reg) := by
  refine ⟨fun node e => ?_, rfl⟩
  rw [registered_setRegistry_iff]
  split
  · rename_i heq
    rw [heq, hsame]
    rfl
  · rfl

theorem untouched_of_exec {choice : Choice} {c : Call} {r : c.Resp}
    (hc : Call.concerns slug c = false)
    (hexec : world.exec choice c s = some (r, s')) : Untouched slug s s' := by
  cases c with
  | utcNow | getNetwork | getTenant | listOwned | serve | isCancelled =>
    cases hexec
    exact ⟨fun _ _ => Iff.rfl, rfl⟩
  | upsert slug' =>
    have hne : slug ≠ slug' := fun heq => by simp [Call.concerns, heq] at hc
    simp only [Region.exec] at hexec
    split at hexec <;> cases hexec
    · exact ⟨fun _ _ => Iff.rfl, rfl⟩
    · exact ⟨fun _ _ => Iff.rfl, Store.get?_insert_of_ne _ hne _⟩
  | delete slug' =>
    have hne : slug ≠ slug' := fun heq => by simp [Call.concerns, heq] at hc
    simp only [Region.exec] at hexec
    split at hexec <;> cases hexec
    · exact ⟨fun _ _ => Iff.rfl, rfl⟩
    · refine ⟨fun _ _ => Iff.rfl, ?_⟩
      cases hrow : s.routes.get? slug <;> simp [RouteTable.delete, hne, hrow, Option.filter]
  | register node slug' =>
    have hne : slug ≠ slug' := fun heq => by simp [Call.concerns, heq] at hc
    cases hexec
    exact untouched_setRegistry (by simp [register, hne])
  | unregister node slug' =>
    have hne : slug ≠ slug' := fun heq => by simp [Call.concerns, heq] at hc
    cases hexec
    apply untouched_setRegistry
    ext e
    simp [unregister, hne]
  | touch | reapExpired | abort => cases hc

/-- A displaced connection finds nothing to give up. -/
theorem untouched_of_disowned
    (hnone : ∀ e, Registered s nodeAddr slug e → e.generation ≠ generation) :
    Untouched slug s
      (s.setRegistry nodeAddr ((s.registry nodeAddr).unregister slug generation).2) := by
  apply untouched_setRegistry
  simp only [unregister, Store.get?_retain]
  ext e
  simp only [Option.filter_eq_some_iff]
  constructor
  · exact And.left
  · exact fun he => ⟨he, by simp [hnone e he]⟩

/-! ## The invariant -/

theorem Routed.frame (h : Routed slug s phases) (hsame : Untouched slug s s') :
    Routed slug s' phases := by
  have hroute : ∀ node, RoutedTo s slug node → RoutedTo s' slug node := fun node hnode => by
    rw [RoutedTo, hsame.routed]
    exact hnode
  exact
    { owner := fun node e he => h.owner node e ((hsame.registered node e).mp he)
      together := h.together
      resting := fun node hnode => ⟨(h.resting node hnode).1, fun e he =>
        (h.resting node hnode).2 e ((hsame.registered node e).mp he)⟩
      claimed := fun node hnode => hroute node (h.claimed node hnode)
      registered := fun node e he =>
        hroute node (h.registered node e ((hsame.registered node e).mp he)) }

/-- Phases may be dropped as long as every registration keeps its owner. -/
theorem Routed.mono {phases' : Set Phase} (h : Routed slug s phases)
    (hsub : ∀ phase ∈ phases', phase = .away ∨ phase ∈ phases)
    (howner : ∀ node e, Registered s node slug e → .serving node e.generation ∈ phases') :
    Routed slug s phases' := by
  have hold : ∀ phase ∈ phases', phase ≠ .away → phase ∈ phases :=
    fun phase hmem hne => (hsub phase hmem).resolve_left hne
  refine ⟨howner, fun p hp p' hp' node hnode node' hnode' => ?_, fun node hnode => ?_,
    fun node hnode => h.claimed node (hold _ hnode (by simp)), h.registered⟩
  · have hne : p ≠ .away := by rintro rfl; cases hnode
    have hne' : p' ≠ .away := by rintro rfl; cases hnode'
    exact h.together p (hold p hp hne) p' (hold p' hp' hne') node hnode node' hnode'
  · obtain ⟨hclaimed, hnone⟩ := h.resting node (hold _ hnode (by simp))
    exact ⟨fun hmem => hclaimed (hold _ hmem (by simp)), hnone⟩

/-- A connection may leave any phase in which it does not hold a registration. -/
theorem Routed.leave {phase : Phase} (h : Routed slug s (insert phase rest))
    (hphase : ∀ node e, Registered s node slug e → phase ≠ .serving node e.generation) :
    Routed slug s (insert .away rest) := by
  apply h.mono
  · rintro p (rfl | hp)
    · exact .inl rfl
    · exact .inr (.inr hp)
  · intro node e he
    rcases h.owner node e he with heq | hmem
    · exact absurd heq.symm (hphase node e he)
    · exact .inr hmem

/-- A connection claims the row while no other is open elsewhere or cleaning up
here. -/
theorem Routed.upsert {now : Int} (h : Routed slug s (insert .away rest))
    (halone : (∀ phase ∈ rest, ∀ node ∈ phase.openOn, node = nodeAddr) ∧
      .cleaning nodeAddr ∉ rest) :
    Routed slug { s with routes := s.routes.upsert slug nodeAddr networkId tenantId now }
      (insert (.claimed nodeAddr) rest) := by
  have hroute : RoutedTo { s with routes := s.routes.upsert slug nodeAddr networkId tenantId now }
      slug nodeAddr := by
    simp [RoutedTo, RouteTable.upsert]
  have hrest : ∀ {phase}, phase ∈ insert Phase.away rest → phase ≠ .away → phase ∈ rest :=
    fun hmem hne => hmem.resolve_left hne
  have hopen : ∀ phase ∈ insert (Phase.claimed nodeAddr) rest, ∀ node ∈ phase.openOn,
      node = nodeAddr := by
    rintro phase (rfl | hmem) node hnode
    · cases hnode
      rfl
    · exact halone.1 phase hmem node hnode
  exact
    { owner := fun node e he => .inr (hrest (h.owner node e he) (by simp))
      together := fun p hp p' hp' node hnode node' hnode' =>
        (hopen p hp node hnode).trans (hopen p' hp' node' hnode').symm
      resting := by
        rintro node (heq | hmem)
        · cases heq
        refine ⟨?_, (h.resting node (.inr hmem)).2⟩
        rintro (heq | hclaimed)
        · cases heq
          exact halone.2 hmem
        · exact (h.resting node (.inr hmem)).1 (.inr hclaimed)
      claimed := fun node hnode => hopen _ hnode node rfl ▸ hroute
      registered := fun node e he =>
        halone.1 _ (hrest (h.owner node e he) (by simp)) node rfl ▸ hroute }

/-- A connection that has claimed the row registers. -/
theorem Routed.register (h : Routed slug s (insert (.claimed nodeAddr) rest)) : Routed slug
      (s.setRegistry nodeAddr ((s.registry nodeAddr).register slug networkId tenantId).2)
      (insert (.serving nodeAddr (s.registry nodeAddr).nextGen) rest) := by
  have hreg : ∀ node e, Registered
      (s.setRegistry nodeAddr ((s.registry nodeAddr).register slug networkId tenantId).2)
        node slug e →
      (node = nodeAddr ∧ e.generation = (s.registry nodeAddr).nextGen) ∨
        (node ≠ nodeAddr ∧ Registered s node slug e) := by
    intro node e he
    rw [registered_setRegistry_iff] at he
    split at he
    · rename_i heq
      simp only [TunnelRegistry.register, Store.get?_insert_self, Option.some.injEq] at he
      exact .inl ⟨heq, by rw [← he]⟩
    · rename_i hne
      exact .inr ⟨hne, he⟩
  have hroute := h.claimed nodeAddr (Set.mem_insert _ _)
  refine ⟨?_, ?_, ?_, ?_, ?_⟩
  · intro node e he
    rcases hreg node e he with ⟨rfl, hgen⟩ | ⟨-, hold⟩
    · exact .inl (by rw [hgen])
    · rcases h.owner node e hold with heq | hmem
      · cases heq
      · exact .inr hmem
  · -- Registering keeps the connection on its node.
    have hback : ∀ phase ∈ insert (Phase.serving nodeAddr (s.registry nodeAddr).nextGen) rest,
        ∃ phase' ∈ insert (Phase.claimed nodeAddr) rest, phase'.openOn = phase.openOn := by
      rintro phase (rfl | hmem)
      · exact ⟨_, Set.mem_insert _ _, rfl⟩
      · exact ⟨phase, .inr hmem, rfl⟩
    intro p hp p' hp' node hnode node' hnode'
    obtain ⟨q, hq, hopen⟩ := hback p hp
    obtain ⟨q', hq', hopen'⟩ := hback p' hp'
    exact h.together q hq q' hq' node (hopen ▸ hnode) node' (hopen' ▸ hnode')
  · rintro node (heq | hmem)
    · cases heq
    obtain ⟨hclaimed, hnone⟩ := h.resting node (.inr hmem)
    refine ⟨?_, fun e he => ?_⟩
    · rintro (heq | hother)
      · cases heq
      · exact hclaimed (.inr hother)
    · rcases hreg node e he with ⟨rfl, -⟩ | ⟨-, hold⟩
      · exact hclaimed (Set.mem_insert _ _)
      · exact hnone e hold
  · rintro node (heq | hmem)
    · cases heq
    · exact h.claimed node (.inr hmem)
  · intro node e he
    rcases hreg node e he with ⟨rfl, -⟩ | ⟨-, hold⟩
    · exact hroute
    · exact h.registered node e hold

/-- A connection gives up the registration it still owns, while none is being
established on its node. -/
theorem Routed.unregister (h : Routed slug s (insert (.serving nodeAddr generation) rest))
    (howned : ((s.registry nodeAddr).unregister slug generation).1 = true)
    (halone : .claimed nodeAddr ∉ rest) :
    Routed slug (s.setRegistry nodeAddr ((s.registry nodeAddr).unregister slug generation).2)
      (insert (.cleaning nodeAddr) rest) := by
  -- The slug was registered on this node only, and now nowhere.
  have hnone : ∀ node e, ¬ Registered
      (s.setRegistry nodeAddr ((s.registry nodeAddr).unregister slug generation).2)
        node slug e := by
    intro node e he
    rw [registered_setRegistry_iff] at he
    split at he
    · obtain ⟨e', he', hgen⟩ := (Option.any_eq_true _ _).mp howned
      simp only [TunnelRegistry.unregister, Store.get?_retain, he'] at he
      simp [Option.filter, of_decide_eq_true hgen] at he
    · rename_i hne
      exact hne (h.together _ (h.owner node e he) _ (Set.mem_insert _ _) node rfl nodeAddr rfl)
  refine ⟨fun node e he => absurd he (hnone node e), ?_, ?_, ?_,
    fun node e he => absurd he (hnone node e)⟩
  · rintro p (rfl | hp) p' (rfl | hp') node hnode node' hnode'
    · cases hnode
    · cases hnode
    · cases hnode'
    · exact h.together p (.inr hp) p' (.inr hp') node hnode node' hnode'
  · rintro node (heq | hmem)
    · cases heq
      refine ⟨?_, hnone nodeAddr⟩
      rintro (heq | hclaimed)
      · cases heq
      · exact halone hclaimed
    · refine ⟨?_, hnone node⟩
      rintro (heq | hclaimed)
      · cases heq
      · exact (h.resting node (.inr hmem)).1 (.inr hclaimed)
  · rintro node (heq | hmem)
    · cases heq
    · exact h.claimed node (.inr hmem)

/-- A connection that is cleaning up deletes the row if it still names its node. -/
theorem Routed.delete (h : Routed slug s (insert (.cleaning nodeAddr) rest)) :
    Routed slug { s with routes := (s.routes.delete slug nodeAddr).2 }
      (insert (.cleaning nodeAddr) rest) := by
  obtain ⟨hclaimed, hnone⟩ := h.resting nodeAddr (Set.mem_insert _ _)
  have hroute : ∀ node, node ≠ nodeAddr → RoutedTo s slug node →
      RoutedTo { s with routes := (s.routes.delete slug nodeAddr).2 } slug node := by
    intro node hne hnode
    obtain ⟨row, hrow, hrownode⟩ := (Option.any_eq_true _ _).mp hnode
    have hkeep : row.nodeAddr ≠ nodeAddr := of_decide_eq_true hrownode ▸ hne
    simp only [RoutedTo, RouteTable.delete, Store.get?_deleteWhere, hrow]
    simpa [Option.filter, hkeep] using hrownode
  refine ⟨h.owner, h.together, h.resting, fun node hnode => ?_, fun node e he => ?_⟩
  · exact hroute node (fun heq => hclaimed (heq ▸ hnode)) (h.claimed node hnode)
  · exact hroute node (fun heq => hnone e (heq ▸ he)) (h.registered node e he)

/-! ## The procedures follow the outline -/

theorem next_away {e : world.Event} (hc : Call.concerns slug e.call = false) :
    Phase.away.next slug e = .away := by
  obtain ⟨c, r⟩ := e
  cases c with
  | upsert slug' =>
    have hne : slug' ≠ slug := of_decide_eq_false hc
    cases r <;> simp [Phase.next, hne]
  | delete slug' | register node slug' | unregister node slug' =>
    have hne : slug' ≠ slug := of_decide_eq_false hc
    simp [Phase.next, hne]
  | isCancelled => simp [Phase.next]
  | utcNow | getNetwork | getTenant | listOwned | touch | reapExpired | serve | abort => rfl

section

variable {i : ℕ} {task : Task} {log : List world.Event}

theorem wp_aside {α : Type} {p : Proc α} (hall : p.All fun c => Call.concerns slug c = false)
    (hlog : phaseOf slug log = .away) :
    (outline slug).Wp i task (fun phase log' _ => phase = .away ∧ phaseOf slug log' = .away) .away
      log p := by
  apply Outline.Wp.of_stable (K := fun log => phaseOf slug log = .away) _ _ _ hlog hall
  · exact fun log c hK _ => hK.symm
  · intro log c r hK hc
    rw [phaseOf_concat, hK]
    exact next_away hc
  · exact fun s rest c choice r s' hc hinv _ hexec => hinv.frame (untouched_of_exec hc hexec)

theorem wp_cleanup {nodeAddr : String} {token : ℕ} (hlog : phaseOf slug log = .cleaning nodeAddr) :
    (outline slug).Wp i task (fun phase log' _ => phase = phaseOf slug log')
      (.cleaning nodeAddr) log (do
        let cancelled ← issue (.isCancelled nodeAddr token)
        if !cancelled then
          let _ ← issue (.delete slug nodeAddr)) := by
  refine ⟨hlog.symm, fun s rest choice r s' hinv _ hexec => ?_⟩
  have hinv' := hinv.frame (untouched_of_exec rfl hexec)
  cases r with
  | true =>
    refine ⟨.away, hinv'.leave (by simp), ?_⟩
    show Phase.away = phaseOf slug _
    rw [phaseOf_concat]
    rfl
  | false =>
    have hcleaning : phaseOf slug (log ++ [⟨.isCancelled nodeAddr token, false⟩]) =
        .cleaning nodeAddr := by
      rw [phaseOf_concat, hlog]
      rfl
    refine ⟨_, hinv', hcleaning.symm, fun s rest choice r s' hinv hperm hexec => ?_⟩
    refine ⟨.away, ?_, ?_⟩
    · simp only [Region.exec, hperm.1, Bool.false_eq_true, if_false] at hexec
      cases hexec
      exact hinv.delete.leave (by simp)
    · show Phase.away = phaseOf slug _
      rw [phaseOf_concat]
      simp [Phase.next]

theorem wp_run {nodeAddr : String} {reg : Registration}
    (hlog : phaseOf slug log = .serving nodeAddr reg.generation) :
    (outline slug).Wp i task (fun phase log' _ => phase = phaseOf slug log')
      (.serving nodeAddr reg.generation) log (run slug nodeAddr reg) := by
  refine ⟨hlog.symm, fun s rest choice r s' hinv _ hexec => ?_⟩
  refine ⟨.serving nodeAddr reg.generation, hinv.frame (untouched_of_exec rfl hexec), ?_⟩
  have hserving : phaseOf slug (log ++ [⟨.serve nodeAddr slug reg.token, r⟩]) =
      .serving nodeAddr reg.generation := by
    rw [phaseOf_concat, hlog]
    rfl
  refine ⟨hserving.symm, fun s rest choice r s' hinv hperm hexec => ?_⟩
  cases hexec
  cases howned : ((s.registry nodeAddr).unregister slug reg.generation).1 with
  | false =>
    have hnone : ∀ e, Registered s nodeAddr slug e → e.generation ≠ reg.generation := by
      intro e he hgen
      have hany : ((s.registry nodeAddr).unregister slug reg.generation).1 = true :=
        (Option.any_eq_true _ _).mpr ⟨e, he, by simpa using hgen⟩
      rw [howned] at hany
      cases hany
    refine ⟨.away, ?_, ?_⟩
    · apply (hinv.leave ?_).frame (untouched_of_disowned hnone)
      intro node e he heq
      injection heq with hnode hgen
      subst hnode
      exact hnone e he hgen.symm
    · show Phase.away = phaseOf slug _
      rw [phaseOf_concat]
      simp [Phase.next]
  | true =>
    refine ⟨_, hinv.unregister howned (hperm.2 rfl), wp_cleanup ?_⟩
    rw [phaseOf_concat]
    simp [Phase.next]

theorem wp_onUpgrade {slug' nodeAddr networkId tenantId : String}
    (hlog : phaseOf slug log = .away) :
    (outline slug).Wp i task (fun phase log' _ => phase = phaseOf slug log') .away log
      (onUpgrade slug' nodeAddr networkId tenantId) := by
  by_cases hslug : slug' = slug
  · subst hslug
    refine ⟨hlog.symm, fun s rest choice now s' hinv _ hexec => ?_⟩
    refine ⟨.away, hinv.frame (untouched_of_exec rfl hexec), ?_⟩
    have haway : phaseOf slug' (log ++ [⟨.utcNow, now⟩]) = .away := by
      rw [phaseOf_concat, hlog]
      rfl
    refine ⟨haway.symm, fun s rest choice r s' hinv hperm hexec => ?_⟩
    simp only [Region.exec, hperm.1, Bool.false_eq_true, if_false] at hexec
    cases hexec
    refine ⟨_, hinv.upsert (hperm.2 rfl), ?_⟩
    have hclaimed : phaseOf slug' ((log ++ [⟨.utcNow, now⟩]) ++
        [⟨.upsert slug' nodeAddr networkId tenantId now, .ok ()⟩]) = .claimed nodeAddr := by
      rw [phaseOf_concat]
      simp [Phase.next]
    refine ⟨hclaimed.symm, fun s rest choice r s' hinv _ hexec => ?_⟩
    cases hexec
    refine ⟨.serving nodeAddr
      ((s.registry nodeAddr).register slug' networkId tenantId).1.generation,
      hinv.register, wp_run ?_⟩
    rw [phaseOf_concat]
    simp [Phase.next, register]
  · apply (wp_aside ?_ hlog).mono
    · rintro phase log' value ⟨rfl, hlog'⟩
      exact hlog'.symm
    · refine ⟨rfl, fun now => ⟨by simpa [Call.concerns] using hslug, fun claimed => ?_⟩⟩
      cases claimed with
      | error => trivial
      | ok =>
      refine ⟨by simpa [Call.concerns] using hslug, fun reg => ⟨rfl, fun _ =>
        ⟨by simpa [Call.concerns] using hslug, fun owned => ?_⟩⟩⟩
      cases owned with
      | false => trivial
      | true =>
      refine ⟨rfl, fun cancelled => ?_⟩
      cases cancelled with
      | true => trivial
      | false => exact ⟨by simpa [Call.concerns] using hslug, fun _ => trivial⟩

theorem wp_tunnelConnect {caller : Caller} {nodeAddr : String} (hlog : phaseOf slug log = .away) :
    (outline slug).Wp i task (fun phase log' _ => phase = phaseOf slug log') .away log
      (tunnelConnect caller nodeAddr).run := by
  have hnetwork : ∀ networkId, (internalError (issue (.getNetwork networkId))).run.All
      fun c => Call.concerns slug c = false := fun _ => ⟨rfl, fun _ => trivial⟩
  have htenant : ∀ tenantId, (internalError (issue (.getTenant tenantId))).run.All
      fun c => Call.concerns slug c = false := fun _ => ⟨rfl, fun _ => trivial⟩
  cases caller with
  | service | user => exact hlog.symm
  | daemon network =>
  cases network with
  | none => exact hlog.symm
  | some networkId =>
  apply Outline.Wp.exceptBind
  apply (wp_aside (hnetwork networkId) hlog).mono
  rintro phase log' (e | _ | network) ⟨rfl, hlog'⟩
  · exact hlog'.symm
  · exact hlog'.symm
  dsimp only
  split
  · exact hlog'.symm
  apply Outline.Wp.exceptBind
  apply (wp_aside (htenant network.tenantId) hlog').mono
  rintro phase log'' (e | _ | tenant) ⟨rfl, hlog''⟩
  · exact hlog''.symm
  · exact hlog''.symm
  dsimp only
  split
  · exact hlog''.symm
  · apply Outline.Wp.bind
    exact (wp_onUpgrade hlog'').mono fun _ _ _ hphase => hphase

end

/-! ## Whole runs -/

/-- The other connections of the slug let this call be made: a row is claimed only
while none is open on another node or cleaning up on this one, and a registration is
given up only while none is being established on its node. -/
def Orderly (slug : String) (cfg : world.Config) (i : ℕ) : Call → Prop
  | .upsert slug' nodeAddr _ _ _ => slug' = slug → ∀ j < cfg.threads.length, j ≠ i →
      ∀ th ∈ cfg.threads[j]?, (∀ node ∈ (phaseOf slug th.log).openOn, node = nodeAddr) ∧
        phaseOf slug th.log ≠ .cleaning nodeAddr
  | .unregister nodeAddr slug' _ => slug' = slug → ∀ j < cfg.threads.length, j ≠ i →
      ∀ th ∈ cfg.threads[j]?, phaseOf slug th.log ≠ .claimed nodeAddr
  | _ => True

instance (slug : String) (cfg : world.Config) (i : ℕ) (c : Call) :
    Decidable (Orderly slug cfg i c) :=
  match c with
  | .upsert .. | .unregister .. => inferInstanceAs (Decidable (∀ _, _))
  | .utcNow | .getNetwork _ | .getTenant _ | .delete .. | .listOwned _ | .touch .. | .reapExpired _
  | .register .. | .serve .. | .isCancelled .. | .abort .. => isTrue trivial

/-- Only connections run, and no statement fails. -/
def ConnectionsOnly (_ : world.Config) : world.Action → Prop
  | .spawn (.tunnelConnect ..) | .env _ => True
  | .spawn (.abortReaperTick _) | .spawn (.ttlReaperTick _) => False
  | .step _ choice => choice.fails = false

instance (cfg : world.Config) : DecidablePred (ConnectionsOnly cfg)
  | .spawn (.tunnelConnect ..) | .env _ => isTrue trivial
  | .spawn (.abortReaperTick _) | .spawn (.ttlReaperTick _) => isFalse id
  | .step _ choice => inferInstanceAs (Decidable (choice.fails = false))

def OrderlyConnections (slug : String) (cfg : world.Config) : world.Action → Prop
  | .spawn _ | .env _ => True
  | .step i _ => ∀ th ∈ cfg.threads[i]?, ∀ c ∈ th.pending, Orderly slug cfg i c

instance (slug : String) (cfg : world.Config) : DecidablePred (OrderlyConnections slug cfg)
  | .spawn _ | .env _ => isTrue trivial
  | .step _ _ => inferInstanceAs (Decidable (∀ _, _))

/-- An orderly run meets what the connections assume of each other. -/
theorem outline_sound (slug : String) : (outline slug).Sound (fun _ _ => True) fun cfg a =>
      ConnectionsOnly cfg a ∧ OrderlyConnections slug cfg a where
  spawn cfg task notes hguard hinv := by
    cases task with
    | abortReaperTick | ttlReaperTick => exact hguard.1.elim
    | tunnelConnect caller nodeAddr =>
      refine ⟨.away, ?_, ?_⟩
      · apply (wp_tunnelConnect rfl).mono
        exact fun phase log value hphase => ⟨hphase, trivial⟩
      · exact hinv.mono (fun phase hmem => hmem) fun node e he => .inr (hinv.owner node e he)
  env cfg m s' notes _ hinv hmove := by
    obtain ⟨d, -, rfl⟩ := Option.map_eq_some_iff.mp hmove
    exact hinv.frame ⟨fun _ _ => Iff.rfl, rfl⟩
  permits cfg i choice th c next phase rest hguard hth hprog hsees hrest := by
    have horderly := hguard.2 th hth c (by simp [World.Thread.pending, hprog])
    refine ⟨hguard.1, ?_⟩
    cases c with
    | upsert slug' nodeAddr =>
      intro hslug
      refine ⟨fun phase' hmem => ?_, fun hmem => ?_⟩
      · obtain ⟨j, th', hth', rfl, hne⟩ := hrest phase' hmem
        exact (horderly hslug j (List.getElem?_eq_some_iff.mp hth').1 hne th' hth').1
      · obtain ⟨j, th', hth', hphase, hne⟩ := hrest _ hmem
        exact (horderly hslug j (List.getElem?_eq_some_iff.mp hth').1 hne th' hth').2 hphase.symm
    | unregister nodeAddr slug' =>
      intro hslug hmem
      obtain ⟨j, th', hth', hphase, hne⟩ := hrest _ hmem
      exact horderly hslug j (List.getElem?_eq_some_iff.mp hth').1 hne th' hth' hphase.symm
    | _ => trivial

/-- In every run of connections that are orderly for the slug, the route row of the
slug names the node that holds a registration for it. -/
theorem registered_is_routed (slug : String) (s : Region)
    (hstart : ∀ node e, ¬ Registered s node slug e) (acts : List world.Action)
    (honly : world.system.Along ConnectionsOnly (.start s) acts)
    (horderly : world.system.Along (OrderlyConnections slug) (.start s) acts) (cfg : world.Config)
    (hrun : world.system.run (.start s) acts = some cfg) (nodeAddr : String) (e : Entry)
    (hreg : Registered cfg.state nodeAddr slug e) :
    ∃ row, cfg.state.routes.get? slug = some row ∧ row.nodeAddr = nodeAddr := by
  have hinit : (outline slug).Inv s ∅ :=
    ⟨fun node e he => absurd he (hstart node e), fun _ hp => hp.elim, fun _ hp => hp.elim,
      fun _ hp => hp.elim, fun node e he => absurd he (hstart node e)⟩
  obtain ⟨note, -, hinv⟩ := (outline_sound slug).run (Outline.annotates_start hinit)
    (honly.and _ horderly) hrun
  obtain ⟨row, hrow, hnode⟩ := (Option.any_eq_true _ _).mp (hinv.registered nodeAddr e hreg)
  exact ⟨row, hrow, of_decide_eq_true hnode⟩

/-! ## A reconnect in good order, and two that are not -/

/-- The daemon reconnects to its node while the old connection is still serving, and
the old one ends. -/
def sampleReconnect : List world.Action :=
  connect 0 "node-a" ++ connect 1 "node-a" ++ steps 0 2

/-- The daemon reconnects to its node while the old connection is cleaning up. -/
def sampleOverlap : List world.Action :=
  connect 0 "node-a" ++ steps 0 2 ++ connect 1 "node-a" ++ steps 0 2

/-- A connection to another node comes and goes while the first one serves. -/
def sampleVisit : List world.Action :=
  connect 0 "node-a" ++ connect 1 "node-b" ++ steps 1 4

theorem registered_is_routed_sample :
    ∃ row, (world.system.runD (.start sampleRegion) sampleReconnect).state.routes.get? "home" =
      some row ∧ row.nodeAddr = "node-a" :=
  registered_is_routed "home" sampleRegion (fun _ _ he => nomatch he) sampleReconnect (by decide)
    (by decide) _ (System.run_eq_some_runD _ (by decide)) "node-a" ⟨1, 1, "net-1", "tenant-1"⟩
    (by decide)

/-- The run leaves the slug registered on one node only and without a route row, with every
connection either serving or over. -/
def LosesRoute (acts : List world.Action) : Prop :=
  ∃ cfg, world.system.run (.start sampleRegion) acts = some cfg ∧
    world.system.Along ConnectionsOnly (.start sampleRegion) acts ∧
    (∀ th ∈ cfg.threads, (phaseOf "home" th.log).settled = true) ∧
    (∃ e, Registered cfg.state "node-a" "home" e) ∧
    (∀ node ≠ "node-a", ∀ e, ¬ Registered cfg.state node "home" e) ∧
    cfg.state.routes.get? "home" = none

theorem registered_without_route : LosesRoute sampleOverlap ∧ LosesRoute sampleVisit := by
  constructor
  · refine ⟨_, System.run_eq_some_runD _ (by decide), by decide, by decide,
      ⟨⟨1, 1, "net-1", "tenant-1"⟩, by decide⟩, ?_, by decide⟩
    intro node hne e he
    have hnew : (world.system.runD (.start sampleRegion) sampleOverlap).state.registry node =
        .new := by
      change Function.update (Function.update (Function.update _ "node-a" _) "node-a" _) "node-a" _
        node = _
      simp only [Function.update_of_ne hne]
      rfl
    rw [Registered, hnew] at he
    cases he
  · refine ⟨_, System.run_eq_some_runD _ (by decide), by decide, by decide,
      ⟨⟨0, 0, "net-1", "tenant-1"⟩, by decide⟩, ?_, by decide⟩
    intro node hne e he
    by_cases hvisited : node = "node-b"
    · subst hvisited
      have hnone : ((world.system.runD (.start sampleRegion) sampleVisit).state.registry
        "node-b").bySlug.get? "home" = none := by decide
      cases he
    · have hnew : (world.system.runD (.start sampleRegion) sampleVisit).state.registry node =
          .new := by
        change Function.update (Function.update (Function.update _ "node-a" _) "node-b" _) "node-b"
          _ node = _
        simp only [Function.update_of_ne hne, Function.update_of_ne hvisited]
        rfl
      rw [Registered, hnew] at he
      cases he

end Wardnet.Tunnel.Routable
