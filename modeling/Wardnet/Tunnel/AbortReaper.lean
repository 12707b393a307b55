/-
# What an abort pass guarantees

The abort reaper tears down the tunnels whose network or subscription has gone.
It walks the rows of the shared route table that name its own node, and the
tunnels live in the node's registry. A tunnel is therefore reached exactly when
its row still names the node, the network and the tenant at the moment the pass
lists its rows; a row moved by a reconnect to another node, rewritten, or purged
by the TTL reaper leaves the tunnel up.
-/

import Wardnet.Tunnel.World

namespace Wardnet.Tunnel

open Base Tenants

/-- The tunnel serves a network that is gone or being torn down, or a tenant
without a current subscription. -/
def Decommissioned (d : Directory) (e : Entry) : Prop :=
  d.TornDown e.networkId ∨ d.Unsubscribed e.tenantId

def Registered (s : Region) (nodeAddr slug : String) (e : Entry) : Prop :=
  (s.registry nodeAddr).bySlug.get? slug = some e

instance (s : Region) (nodeAddr slug : String) (e : Entry) :
    Decidable (Registered s nodeAddr slug e) :=
  inferInstanceAs (Decidable (_ = some e))

variable {s : Region} {g : Note} {task : Task} {d : Directory}

theorem registered_setRegistry_iff {nodeAddr node slug : String} {reg : TunnelRegistry}
    {e : Entry} :
    Registered (s.setRegistry nodeAddr reg) node slug e ↔
      if node = nodeAddr then reg.bySlug.get? slug = some e else Registered s node slug e := by
  by_cases heq : node = nodeAddr
  · subst heq
    simp [Registered, Region.setRegistry]
  · simp [Registered, Region.setRegistry, heq]

/-- The route row of the slug names the node and what the tunnel serves. -/
def RouteNames (s : Region) (nodeAddr slug : String) (e : Entry) : Prop :=
  (s.routes.get? slug).any fun row =>
    row.nodeAddr = nodeAddr ∧ row.networkId = e.networkId ∧ row.tenantId = e.tenantId

/-- No database statement or mesh read of task `i` fails. -/
def TickSucceeds (i : ℕ) (_ : world.Config) : world.Action → Prop
  | .step j choice => j = i → choice.fails = false
  | _ => True

instance (i : ℕ) (cfg : world.Config) : DecidablePred (TickSucceeds i cfg)
  | .step _ _ => inferInstanceAs (Decidable (∀ _, _))
  | .spawn _ => isTrue trivial
  | .env _ => isTrue trivial

/-- When task `i` lists the rows of the node, the row of the slug names the node
and what the tunnel serves. -/
def ListsTunnel (i : ℕ) (nodeAddr slug : String) (e : Entry) (cfg : world.Config) :
    world.Action → Prop
  | .step j _ => j = i → cfg.threads[j]?.bind World.Thread.pending = some (.listOwned nodeAddr) →
      RouteNames cfg.state nodeAddr slug e
  | _ => True

instance (i : ℕ) (nodeAddr slug : String) (e : Entry) (cfg : world.Config) :
    DecidablePred (ListsTunnel i nodeAddr slug e cfg)
  | .step j _ => inferInstanceAs (Decidable
      (j = i → cfg.threads[j]?.bind World.Thread.pending = some (.listOwned nodeAddr) → _ = true))
  | .spawn _ => isTrue trivial
  | .env _ => isTrue trivial

/-! ## The outline of one pass -/

/-- How far the pass has come with the row of the tunnel: not listed yet, still
to be visited, visited with only the subscription left to condemn it, torn
down. Every other task is `other`. -/
inductive Note
  | other
  | begun
  | walking
  | unsubscribed
  | aborted

structure PassInv (nodeAddr slug : String) (e : Entry) (s : Region) (notes : Set Note) :
    Prop where
  token_lt : e.token < (s.registry nodeAddr).nextToken
  gone : Decommissioned s.directory e
  unsubscribed : .unsubscribed ∈ notes → s.directory.Unsubscribed e.tenantId
  aborted : .aborted ∈ notes → ¬ Registered s nodeAddr slug e
  running : ∃ g ∈ notes, g ≠ .other

/-- The outline of task `i` as a pass of the node, for one of its tunnels. -/
@[reducible]
def outline (i : ℕ) (nodeAddr slug : String) (e : Entry) : Outline world Note where
  Inv := PassInv nodeAddr slug e
  Sees j g _ _ _ := g ≠ .other → j = i
  Permits s g _ c choice := g ≠ .other → choice.fails = false ∧
    (c = .listOwned nodeAddr → RouteNames s nodeAddr slug e)

variable {i : ℕ} {nodeAddr slug : String} {e : Entry}

/-- No call of any task breaks the invariant: a decommissioned network stays so,
and a token once removed from the registry never comes back. -/
theorem outline_stable {s' : Region} {notes : Set Note} {choice : Choice} {c : Call} {r : c.Resp}
    (hinv : (outline i nodeAddr slug e).Inv s notes)
    (hexec : world.exec choice c s = some (r, s')) :
    (outline i nodeAddr slug e).Inv s' notes := by
  obtain ⟨hdir, hlater⟩ := Region.exec_later hexec
  refine ⟨lt_of_lt_of_le hinv.token_lt (hlater nodeAddr).nextToken_le, hdir ▸ hinv.gone,
    fun hmem => hdir ▸ hinv.unsubscribed hmem, fun hmem hreg => ?_, hinv.running⟩
  rcases (hlater nodeAddr).old_or_new slug e hreg with hold | hnew
  · exact hinv.aborted hmem hold
  · exact absurd hinv.token_lt (not_lt.mpr hnew)

theorem PassInv.renote {rest : Set Note} {g' : Note}
    (hinv : PassInv nodeAddr slug e s (insert g rest)) (hrun : g' ≠ .other)
    (hunsub : g' = .unsubscribed → s.directory.Unsubscribed e.tenantId)
    (haborted : g' = .aborted → ¬ Registered s nodeAddr slug e) :
    PassInv nodeAddr slug e s (insert g' rest) where
  token_lt := hinv.token_lt
  gone := hinv.gone
  unsubscribed := by
    intro hmem
    rcases Set.mem_insert_iff.mp hmem with heq | hmem
    · exact hunsub heq.symm
    · exact hinv.unsubscribed (Set.mem_insert_of_mem _ hmem)
  aborted := by
    intro hmem
    rcases Set.mem_insert_iff.mp hmem with heq | hmem
    · exact haborted heq.symm
    · exact hinv.aborted (Set.mem_insert_of_mem _ hmem)
  running := ⟨g', Set.mem_insert _ _, hrun⟩

theorem wp_keep {α : Type} {j : ℕ} (hsees : g ≠ .other → j = i) (log : List world.Event)
    (p : Proc α) :
    (outline i nodeAddr slug e).Wp j task (fun g' _ _ => g' = g) g log p :=
  (Outline.Wp.of_stable (K := fun _ => True) (fun _ _ _ _ => hsees) (fun _ _ _ _ _ => trivial)
    (fun _ _ _ _ _ _ _ hinv _ hexec => outline_stable hinv hexec) trivial p.all_true).mono
    fun _ _ _ h => h.1

/-- A network read of a torn-down network condemns the tunnel by itself. -/
theorem shouldAbort_of_tornDown {networkId : String} (h : d.TornDown networkId)
    (tenant : Option TenantView) :
    shouldAbort (d.getNetwork networkId) tenant = true := by
  rcases h with hretired | ⟨row, hrow, hstate⟩
  · simp [Directory.getNetwork, NetworkTable.findById, d.retired_gone _ hretired, shouldAbort]
  · simp [Directory.getNetwork, NetworkTable.findById, hrow, NetworkRow.view, hstate, shouldAbort]

/-- A tenant read without a current subscription condemns the tunnel by itself. -/
theorem shouldAbort_of_unsubscribed {tenantId : String} (h : d.Unsubscribed tenantId)
    (network : Option NetworkView) :
    shouldAbort network (d.getTenant tenantId) = true := by
  unfold Directory.Unsubscribed at h
  cases network with
  | none => rfl
  | some n =>
    cases htenant : d.getTenant tenantId with
    | none => simp [shouldAbort]
    | some t =>
      rw [htenant] at h
      have hentitled : t.entitled = false := h
      simp [shouldAbort, hentitled]

theorem wp_abort (log : List world.Event) :
    (outline i nodeAddr slug e).Wp i task (fun g' _ _ => g' = .aborted) g log
      (do let _ ← issue (.abort nodeAddr slug); let _ ← issue (.delete slug nodeAddr)) := by
  refine ⟨fun _ => rfl, fun s rest choice r s' hinv _ hexec => ?_⟩
  refine ⟨.aborted, ?_, wp_keep (fun _ => rfl) _ _⟩
  apply (outline_stable hinv hexec).renote (by simp) (by simp)
  intro _ hreg
  cases hexec
  simp [Registered, Region.setRegistry, TunnelRegistry.abort] at hreg

theorem wp_reapRow (lastSeen : Int) (log : List world.Event) :
    (outline i nodeAddr slug e).Wp i task (fun g' _ _ => g' = .aborted) .walking log
      (reapRow nodeAddr ⟨⟨nodeAddr, e.networkId, e.tenantId, lastSeen⟩, slug⟩) := by
  refine ⟨fun _ => rfl, fun s rest choice r s' hinv hperm hexec => ?_⟩
  have hok := (hperm (by simp)).1
  cases hexec
  simp only [hok, Bool.false_eq_true, if_false]
  rcases hinv.gone with htorn | hunsub
  · -- The network alone decides, whatever the tenant read answers.
    refine ⟨.walking, hinv, fun _ => rfl, fun s₂ rest₂ choice₂ r₂ s₂' hinv₂ hperm₂ hexec₂ => ?_⟩
    have hok₂ := (hperm₂ (by simp)).1
    cases hexec₂
    simp only [hok₂, Bool.false_eq_true, if_false, shouldAbort_of_tornDown htorn, if_true]
    exact ⟨.walking, hinv₂, wp_abort _⟩
  · -- The subscription decides, and it stays lost until the tenant is read.
    refine ⟨.unsubscribed, ?_, fun _ => rfl, fun s₂ rest₂ choice₂ r₂ s₂' hinv₂ hperm₂ hexec₂ => ?_⟩
    · exact hinv.renote (by simp) (fun _ => hunsub) (by simp)
    · have hok₂ := (hperm₂ (by simp)).1
      have hunsub₂ := hinv₂.unsubscribed (Set.mem_insert _ _)
      cases hexec₂
      simp only [hok₂, Bool.false_eq_true, if_false, Prog.ret_bind,
        shouldAbort_of_unsubscribed hunsub₂, if_true]
      exact ⟨.unsubscribed, hinv₂, wp_abort _⟩

theorem wp_reapRows (lastSeen : Int) {rows : List TunnelRoute}
    (hrow : ⟨⟨nodeAddr, e.networkId, e.tenantId, lastSeen⟩, slug⟩ ∈ rows) (log : List world.Event) :
    (outline i nodeAddr slug e).Wp i task (fun g' _ _ => g' = .aborted) .walking log
      (reapRows nodeAddr rows) := by
  induction rows generalizing log with
  | nil => cases hrow
  | cons row rows ih =>
    apply Outline.Wp.bind
    rcases List.mem_cons.mp hrow with rfl | hrow
    · apply (wp_reapRow lastSeen log).mono
      rintro g log' _ rfl
      exact wp_keep (fun _ => rfl) log' _
    · apply (wp_keep (fun _ => rfl) log _).mono
      rintro g log' _ rfl
      exact ih hrow log'

theorem wp_abortReaperTick (log : List world.Event) :
    (outline i nodeAddr slug e).Wp i task (fun g' _ _ => g' = .aborted) .begun log
      (abortReaperTick nodeAddr) := by
  refine ⟨fun _ => rfl, fun s rest choice r s' hinv hperm hexec => ?_⟩
  obtain ⟨hok, hroute⟩ := hperm (by simp)
  obtain ⟨row, hrow, hnames⟩ := (Option.any_eq_true _ _).mp (hroute rfl)
  obtain ⟨rfl, hnetwork, htenant⟩ := of_decide_eq_true hnames
  cases hexec
  simp only [hok, Bool.false_eq_true, if_false]
  refine ⟨.walking, hinv.renote (by simp) (by simp) (by simp), wp_reapRows row.lastSeen ?_ _⟩
  rw [← hnetwork, ← htenant]
  exact RouteTable.mem_listOwned_iff.mpr ⟨hrow, rfl⟩

def Ends (g : Note) (_ : Except ApiError Unit) : Prop := g ≠ .other → g = .aborted

/-- A pass whose calls succeed ends with the tunnel aborted. -/
theorem outline_sound (i : ℕ) (nodeAddr slug : String) (e : Entry) :
    (outline i nodeAddr slug e).Sound Ends fun cfg a =>
      TickSucceeds i cfg a ∧ ListsTunnel i nodeAddr slug e cfg a where
  spawn := by
    intro cfg task notes _ hinv
    refine ⟨.other, (wp_keep (by simp) _ _).mono ?_, ?_⟩
    · rintro g _ _ rfl
      exact ⟨by simp, by simp [Ends]⟩
    · obtain ⟨g, hg, hrun⟩ := hinv.running
      exact ⟨hinv.token_lt, hinv.gone, fun hmem => hinv.unsubscribed (by simpa using hmem),
        fun hmem => hinv.aborted (by simpa using hmem), ⟨g, Set.mem_insert_of_mem _ hg, hrun⟩⟩
  env := by
    intro cfg m s' notes _ hinv hmove
    obtain ⟨d, hd, rfl⟩ := Option.map_eq_some_iff.mp hmove
    refine ⟨hinv.token_lt, ?_, fun hmem => (hinv.unsubscribed hmem).apply hd, hinv.aborted,
      hinv.running⟩
    exact hinv.gone.imp (fun h => h.apply hd) (fun h => h.apply hd)
  permits := by
    intro cfg j choice th c next g rest hguard hth hprog hsees _ hg
    obtain rfl := hsees hg
    refine ⟨hguard.1 rfl, fun hlist => hguard.2 rfl ?_⟩
    simp [hth, World.Thread.pending, hprog, hlist]

/-- A node that starts a pass is annotated: the pass has begun, and no other
task matters. -/
theorem annotates_spawn {cfg : world.Config} (hreg : Registered cfg.state nodeAddr slug e)
    (hgone : Decommissioned cfg.state.directory e) :
    ∃ note, (outline cfg.threads.length nodeAddr slug e).Annotates Ends note
      ⟨cfg.state, cfg.threads ++ [⟨.abortReaperTick nodeAddr, [],
        Task.body (.abortReaperTick nodeAddr)⟩]⟩ := by
  refine ⟨Function.update (fun _ => .other) cfg.threads.length .begun, fun j th hth => ?_, ?_⟩
  · by_cases hj : j = cfg.threads.length
    · subst hj
      simp only [List.getElem?_concat_length, Option.some.injEq] at hth
      subst hth
      rw [Function.update_self]
      apply Outline.Wp.bind
      apply (wp_abortReaperTick _).mono
      rintro g log _ rfl
      exact ⟨fun _ => rfl, fun _ => rfl⟩
    · rw [Function.update_of_ne hj]
      apply (wp_keep (by simp) _ _).mono
      rintro g log _ rfl
      exact ⟨by simp, by simp [Ends]⟩
  · have hnotes : ∀ {g : Note} {j : ℕ},
        Function.update (fun _ => Note.other) cfg.threads.length .begun j = g →
          g = .begun ∨ g = .other := by
      intro g j hj
      by_cases heq : j = cfg.threads.length
      · exact .inl (by simpa [heq] using hj.symm)
      · exact .inr (by simpa [heq] using hj.symm)
    refine ⟨(cfg.state.registry nodeAddr).token_lt slug e hreg, hgone, ?_, ?_, ?_⟩
    · rintro ⟨j, -, hj⟩
      simpa using hnotes hj
    · rintro ⟨j, -, hj⟩
      simpa using hnotes hj
    · exact ⟨.begun, ⟨cfg.threads.length, by simp, by simp⟩, by simp⟩

/-- After a pass of a node in which every statement and read succeeds, no tunnel
that was registered when the pass began, and still is, was decommissioned when
the pass began, provided its row still named it when the pass listed the rows. -/
theorem abortReaperTick_leaves_no_decommissioned (nodeAddr slug : String) (e : Entry)
    (acts : List world.Action) {cfg cfg' : world.Config}
    (hrun : world.system.run cfg (.spawn (.abortReaperTick nodeAddr) :: acts) = some cfg')
    (hsucceeds : world.system.Along (TickSucceeds cfg.threads.length) cfg
      (.spawn (.abortReaperTick nodeAddr) :: acts))
    (hlists : world.system.Along (ListsTunnel cfg.threads.length nodeAddr slug e) cfg
      (.spawn (.abortReaperTick nodeAddr) :: acts))
    (hdone : cfg'.threads[cfg.threads.length]?.any World.Thread.done)
    (hbefore : Registered cfg.state nodeAddr slug e)
    (hafter : Registered cfg'.state nodeAddr slug e) :
    ¬ Decommissioned cfg.state.directory e := by
  intro hgone
  obtain ⟨cfg₁, hspawn, hrun⟩ := world.system.run_cons_eq_some.mp hrun
  cases hspawn
  obtain ⟨note, hnote⟩ := (outline_sound _ nodeAddr slug e).run
    (annotates_spawn hbefore hgone) (hsucceeds.2.and _ hlists.2) hrun
  -- Only the pass can carry a note, and it ends with the tunnel torn down.
  obtain ⟨th, hth, hret⟩ := (Option.any_eq_true _ _).mp hdone
  obtain ⟨value, hvalue⟩ := World.Thread.prog_eq_ret_of_done hret
  obtain ⟨_, ⟨j, hj, rfl⟩, hrunning⟩ := hnote.2.running
  have hfollows := hnote.1 j _ (List.getElem?_eq_getElem hj)
  obtain rfl := hfollows.sees hrunning
  have haborted := (hnote.1 _ th hth).fin hvalue hrunning
  exact hnote.2.aborted ⟨_, hj, haborted⟩ hafter

/-! ## A pass that misses a tunnel, and one that does not -/

def sampleRegion : Region where
  directory :=
    { networks := (∅ : NetworkTable).insert "net-1" ⟨"tenant-1", "home", "home", "eu", .active⟩
      tenants := (∅ : Store String (Option SubscriptionView)).insert "tenant-1"
        (some ⟨.active, .default, none, some 2000⟩)
      retired := []
      retired_gone := by simp }
  routes := ∅
  registry _ := .new

def sampleEntry : Entry := ⟨0, 0, "net-1", "tenant-1"⟩

def steps (i n : ℕ) : List world.Action := List.replicate n (.step i ⟨1000, false⟩)

def connect (i : ℕ) (nodeAddr : String) : List world.Action :=
  .spawn (.tunnelConnect (.daemon (some "net-1")) nodeAddr) :: steps i 5

/-- The daemon reconnects to another node, which takes the route row over, and
the subscription ends. A pass of the first node finds no row of its own and
leaves the first tunnel up. -/
theorem abortReaperTick_misses_moved_route :
    ∃ (before acts : List world.Action) (cfg cfg' : world.Config),
      world.system.run (.start sampleRegion) before = some cfg ∧
      world.system.run cfg (.spawn (.abortReaperTick "node-a") :: acts) = some cfg' ∧
      world.system.Along (TickSucceeds cfg.threads.length) cfg
        (.spawn (.abortReaperTick "node-a") :: acts) ∧
      cfg'.threads[cfg.threads.length]?.any World.Thread.done ∧
      Registered cfg.state "node-a" "home" sampleEntry ∧
      Registered cfg'.state "node-a" "home" sampleEntry ∧
      Decommissioned cfg.state.directory sampleEntry :=
  ⟨connect 0 "node-a" ++ connect 1 "node-b" ++ [.env (.loseSubscription "tenant-1")], steps 2 1,
    _, _, System.run_eq_some_runD _ (by decide), System.run_eq_some_runD _ (by decide),
    by decide, by decide, by decide, by decide, .inr (by decide)⟩

/-- A pass over an entitled tunnel keeps it. -/
theorem abortReaperTick_leaves_no_decommissioned_sample : ∃ cfg : world.Config,
      world.system.run (.start sampleRegion) (connect 0 "node-a") = some cfg ∧
      ¬ Decommissioned cfg.state.directory sampleEntry :=
  ⟨_, System.run_eq_some_runD _ (by decide),
    abortReaperTick_leaves_no_decommissioned "node-a" "home" sampleEntry (steps 1 5)
      (System.run_eq_some_runD _ (by decide)) (by decide) (by decide) (by decide) (by decide)
      (by decide)⟩

end Wardnet.Tunnel
