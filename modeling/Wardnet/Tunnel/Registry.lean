/-
# The per-node tunnel registry and the shared route table

A node keeps its live tunnels in memory, keyed by slug. Which node owns a slug
is written to the `tunnel_routes` table, which all nodes of a region share. The
two are updated separately; nothing in the code ties them together.
-/

import Mathlib.Data.List.Sort
import Mathlib.Data.String.Basic
import Wardnet.Base.Store
import Wardnet.Contract

namespace Wardnet.Tunnel

open Base

/-! ## The registry -/

/-- A live tunnel of a node. The abort token is known by the number of its
registration, which is never reused; the source's `generation` is a wrapping
counter. The network and tenant the tunnel was opened for are not part of the
source's entry. They record what a registration serves. -/
structure Entry where
  generation : UInt64
  token : ℕ
  networkId : String
  tenantId : String
  deriving DecidableEq

/-- The handle a tunnel handler holds for its registration. -/
structure Registration where
  generation : UInt64
  token : ℕ
  deriving DecidableEq

/-- The registry of one node, with the tokens cancelled so far. -/
structure TunnelRegistry where
  bySlug : Store String Entry
  nextGen : UInt64
  nextToken : ℕ
  cancelled : List ℕ
  token_lt : ∀ slug e, bySlug.get? slug = some e → e.token < nextToken

namespace TunnelRegistry

def new : TunnelRegistry := ⟨∅, 0, 0, [], by simp⟩

/-- `register`: the prior registration of the slug is replaced and aborted. -/
def register (r : TunnelRegistry) (slug networkId tenantId : String) :
    Registration × TunnelRegistry :=
  (⟨r.nextGen, r.nextToken⟩,
    { bySlug := r.bySlug.insert slug ⟨r.nextGen, r.nextToken, networkId, tenantId⟩
      nextGen := r.nextGen + 1
      nextToken := r.nextToken + 1
      cancelled := ((r.bySlug.get? slug).map Entry.token).toList ++ r.cancelled
      token_lt := by
        intro s e he
        rw [Store.get?_insert] at he
        split at he
        · cases he
          exact Nat.lt_succ_self _
        · exact Nat.lt_succ_of_lt (r.token_lt s e he) })

/-- `unregister`: drop the registration if `generation` still owns it. -/
def unregister (r : TunnelRegistry) (slug : String) (generation : UInt64) :
    Bool × TunnelRegistry :=
  ((r.bySlug.get? slug).any (·.generation = generation),
    { r with
      bySlug := r.bySlug.retain fun s e => !(s = slug ∧ e.generation = generation)
      token_lt := by
        intro s e he
        rw [Store.get?_retain] at he
        exact r.token_lt s e (Option.filter_eq_some_iff.mp he).1 })

/-- `abort`: cancel the token of the slug's tunnel and drop the registration. -/
def abort (r : TunnelRegistry) (slug : String) : Bool × TunnelRegistry :=
  ((r.bySlug.get? slug).isSome,
    { r with
      bySlug := r.bySlug.erase slug
      cancelled := ((r.bySlug.get? slug).map Entry.token).toList ++ r.cancelled
      token_lt := by
        intro s e he
        rw [Store.get?_erase] at he
        split at he
        · cases he
        · exact r.token_lt s e he })

def isCancelled (r : TunnelRegistry) (token : ℕ) : Bool := token ∈ r.cancelled

/-- What any sequence of registry operations may do: an entry of the later
registry was there before, or its token is new. -/
structure Later (r r' : TunnelRegistry) : Prop where
  nextToken_le : r.nextToken ≤ r'.nextToken
  old_or_new : ∀ slug e, r'.bySlug.get? slug = some e →
    r.bySlug.get? slug = some e ∨ r.nextToken ≤ e.token

theorem Later.refl (r : TunnelRegistry) : r.Later r :=
  ⟨le_refl _, fun _ _ he => .inl he⟩

theorem register_later (r : TunnelRegistry) (slug networkId tenantId : String) :
    r.Later (r.register slug networkId tenantId).2 where
  nextToken_le := Nat.le_succ _
  old_or_new := by
    intro s e he
    rcases Store.get?_of_insert he with ⟨-, rfl⟩ | ⟨-, he⟩
    · exact .inr (le_refl _)
    · exact .inl he

theorem unregister_later (r : TunnelRegistry) (slug : String) (generation : UInt64) :
    r.Later (r.unregister slug generation).2 where
  nextToken_le := le_refl _
  old_or_new := by
    intro s e he
    simp only [unregister, Store.get?_retain] at he
    exact .inl (Option.filter_eq_some_iff.mp he).1

theorem abort_later (r : TunnelRegistry) (slug : String) : r.Later (r.abort slug).2 where
  nextToken_le := le_refl _
  old_or_new := by
    intro s e he
    exact .inl (Store.get?_of_erase he).2

end TunnelRegistry

/-! ## The route table -/

/-- A row of `tunnel_routes` without its primary key. -/
structure RouteRow where
  nodeAddr : String
  networkId : String
  tenantId : String
  lastSeen : Int
  deriving DecidableEq

structure TunnelRoute extends RouteRow where
  slug : String
  deriving DecidableEq

abbrev RouteTable := Store String RouteRow

namespace RouteTable

def upsert (routes : RouteTable) (slug nodeAddr networkId tenantId : String) (now : Int) :
    RouteTable :=
  routes.insert slug ⟨nodeAddr, networkId, tenantId, now⟩

def delete (routes : RouteTable) (slug nodeAddr : String) : Bool × RouteTable :=
  let out := routes.deleteWhere fun k row => k = slug ∧ row.nodeAddr = nodeAddr
  (0 < out.1, out.2)

def listOwned (routes : RouteTable) (nodeAddr : String) : List TunnelRoute :=
  ((routes.select fun _ row => row.nodeAddr = nodeAddr).map fun entry =>
    { entry.2 with slug := entry.1 }).insertionSort fun a b => a.slug ≤ b.slug

def touch (routes : RouteTable) (slug nodeAddr : String) (now : Int) : Bool × RouteTable :=
  let out := routes.updateWhere (fun k row => k = slug ∧ row.nodeAddr = nodeAddr)
    fun row => { row with lastSeen := now }
  (0 < out.1, out.2)

/-- Delete every row whose heartbeat is older than the deadline. -/
def reapExpired (routes : RouteTable) (deadline : Int) : ℕ × RouteTable :=
  routes.deleteWhere fun _ row => row.lastSeen < deadline

theorem mem_listOwned_iff {routes : RouteTable} {nodeAddr : String} {route : TunnelRoute} :
    route ∈ routes.listOwned nodeAddr ↔
      routes.get? route.slug = some route.toRouteRow ∧ route.nodeAddr = nodeAddr := by
  simp only [listOwned, List.mem_insertionSort, List.mem_map, Prod.exists,
    Store.mem_select_iff, decide_eq_true_eq]
  constructor
  · rintro ⟨slug, row, ⟨hrow, hnode⟩, rfl⟩
    exact ⟨hrow, hnode⟩
  · intro h
    exact ⟨route.slug, route.toRouteRow, h, rfl⟩

end RouteTable

end Wardnet.Tunnel
