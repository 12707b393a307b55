/-
# Connection ids

The main loop numbers inbound connections with a 32-bit counter that wraps. A connection has its
id while it is pending, while it is active, and as long as its reader runs, which may be after it
was closed. Before an id is given out the loop closes the pending connection that has it. It does
not look at the active ones, nor at the readers, so that a connection that outlives `2 ^ 32` later
ones shares its id.
-/

import Mathlib
import Wardnet.Tunnel.Moves

namespace Wardnet.Tunnel

open Base Option

def Reader.running : Reader → Bool
  | .reading | .sending _ => true
  | .done => false

namespace Handler

/-! ## The ids of open streams -/

/-- No active connection has the id, and no reader runs for it. -/
def Free (s : Handler) (connId : ConnId) : Prop :=
  s.active.contains connId = false ∧
    ∀ c ∈ s.conns, c.connId = connId → c.reader.running = false

/-- A stream that is pending, active or still read from has the id. -/
def InUse (s : Handler) (connId : ConnId) : Prop :=
  s.pending.contains connId = true ∨ ¬ s.Free connId

/-- Ids are not shared: what waits for a READY has a deadline, and is not too much; nothing is
both pending and active; and a connection that is being announced has an id of its own. -/
structure IdsApart (s : Handler) : Prop where
  same : ∀ connId, s.pending.contains connId = s.pendingDeadlines.contains connId
  few : s.pending.size ≤ maxPending
  apart : ∀ connId, s.pending.contains connId = true → s.active.contains connId = false
  fresh : ∀ {frame connId stream}, s.main = .sendingWs frame (.expectReady connId stream) →
    ¬ s.InUse connId

/-- A connection is accepted only with an id that is free. -/
def TakesFree (s : Handler) (step : Step) : Prop :=
  ∀ connId, s.seen step = some (.taken connId) → (s.evict connId).pending.size < maxPending →
    s.Free connId

/-! ## Parts of the state -/

section

variable {s : Handler} {connId id : ConnId}

theorem evict_pending_contains :
    (s.evict connId).pending.contains id = (s.pending.contains id && !decide (id = connId)) := by
  unfold evict
  split
  · exact Store.contains_erase ..
  · rename_i hnot
    by_cases h : id = connId
    · subst h
      simp [hnot]
    · simp [h]

theorem evict_same (hsame : ∀ id, s.pending.contains id = s.pendingDeadlines.contains id) :
    (s.evict connId).pending.contains id = (s.evict connId).pendingDeadlines.contains id := by
  unfold evict
  split
  · rw [Store.contains_erase, Store.contains_erase, hsame]
  · exact hsame id

theorem requested_eq (forward : Chan 64 ForwardRequest) :
    s.requested forward = { s.evict s.nextId with forward, nextId := s.nextId + 1 } := by
  unfold requested evict
  split
  · rfl
  · rfl

theorem evict_rest : (s.evict connId).active = s.active ∧ (s.evict connId).conns = s.conns ∧
    (s.evict connId).main = s.main := by
  unfold evict
  split
  · exact ⟨rfl, rfl, rfl⟩
  · exact ⟨rfl, rfl, rfl⟩

theorem requested_rest (forward : Chan 64 ForwardRequest) :
    (s.requested forward).active = s.active ∧ (s.requested forward).conns = s.conns := by
  exact ⟨evict_rest.1, evict_rest.2.1⟩

theorem evict_size : (s.evict connId).pending.size ≤ s.pending.size := by
  unfold evict
  split
  · exact Store.size_retain_le ..
  · exact Nat.le_refl _

theorem removeActive_active : (s.removeActive connId).active.contains id =
      (s.active.contains id && !decide (id = connId)) := by
  unfold removeActive
  split
  · rename_i hnone
    by_cases h : id = connId
    · subst h
      simp [Store.contains, hnone]
    · simp [h]
  · exact Store.contains_erase ..

theorem removeActive_rest : (s.removeActive connId).pending = s.pending ∧
    (s.removeActive connId).pendingDeadlines = s.pendingDeadlines ∧
    (s.removeActive connId).main = s.main := by
  unfold removeActive
  split
  · exact ⟨rfl, rfl, rfl⟩
  · exact ⟨rfl, rfl, rfl⟩

theorem splice_active {stream : ℕ} : (s.splice connId stream).active.contains id =
      (decide (id = connId) || s.active.contains id) := by
  unfold splice
  rw [Store.contains_insert, removeActive_active]
  by_cases h : id = connId
  · simp [h]
  · simp [h]

theorem splice_rest {stream : ℕ} : (s.splice connId stream).pending = s.pending.erase connId ∧
      (s.splice connId stream).pendingDeadlines = s.pendingDeadlines.erase connId ∧
      (s.splice connId stream).main = s.main := by
  exact removeActive_rest

/-- A task of one connection takes a step: its id stays, and an ended reader stays ended. -/
theorem Free.modifyConn {k : ℕ} {f : Conn → Conn} (h : s.Free connId)
    (hid : ∀ c, (f c).connId = c.connId)
    (hrunning : ∀ c, s.conns[k]? = some c → (f c).reader.running = true →
      c.reader.running = true) : (s.modifyConn k f).Free connId := by
  refine ⟨h.1, fun c' hc' hconnId => ?_⟩
  obtain ⟨i, hi⟩ := List.mem_iff_getElem?.mp hc'
  rw [Handler.modifyConn, List.getElem?_modify] at hi
  obtain ⟨c, hc, rfl⟩ := map_eq_some_iff.mp hi
  split at hconnId
  · rename_i hik
    subst hik
    rw [hid] at hconnId
    rw [if_pos rfl, Bool.eq_false_iff]
    intro hrun
    exact absurd (hrunning c hc hrun) (by simp [h.2 c (List.mem_of_getElem? hc) hconnId])
  · rename_i hik
    rw [if_neg hik]
    exact h.2 c (List.mem_of_getElem? hc) hconnId

end

/-! ## Moves -/

/-- While a connection is being announced there is room for it. -/
structure IdsInv (s : Handler) : Prop extends IdsApart s where
  room : ∀ {frame connId stream}, s.main = .sendingWs frame (.expectReady connId stream) →
    s.pending.size < maxPending

section

variable {s s' : Handler}

theorem IdsInv.quiet (h : IdsInv s) (hpending : s'.pending = s.pending)
    (hdeadlines : s'.pendingDeadlines = s.pendingDeadlines) (hactive : s'.active = s.active)
    (hmain : ∀ frame connId stream, s'.main ≠ .sendingWs frame (.expectReady connId stream)) :
    IdsInv s' where
  same := by
    rw [hpending, hdeadlines]
    exact h.same
  few := by
    rw [hpending]
    exact h.few
  apart := by
    rw [hpending, hactive]
    exact h.apart
  fresh hannounced := absurd hannounced (hmain _ _ _)
  room hannounced := absurd hannounced (hmain _ _ _)

theorem IdsInv.conn (h : IdsInv s) {k : ℕ} {f : Conn → Conn} (tcpOut : Chan 256 (ConnId × Bytes))
    (hid : ∀ c, (f c).connId = c.connId)
    (hrunning : ∀ c, s.conns[k]? = some c → (f c).reader.running = true →
      c.reader.running = true) : IdsInv ({ s with tcpOut }.modifyConn k f) where
  same := h.same
  few := h.few
  apart := h.apart
  fresh := by
    intro frame connId stream hannounced hused
    refine h.fresh hannounced (hused.imp_right fun hbusy hfree => hbusy ?_)
    have hfree' : ({ s with tcpOut } : Handler).Free connId := hfree
    exact hfree'.modifyConn hid hrunning
  room := h.room

theorem IdsInv.took (h : IdsInv s) (hmain : s.main = .selecting) (frame : Bytes)
    (fromPi : Chan 256 Bytes) : IdsInv (s.took frame fromPi) :=
  h.quiet rfl rfl rfl (by simp [Handler.took, hmain])

theorem IdsInv.of_selecting (hmain : s.main = .selecting)
    (hsame : ∀ connId, s.pending.contains connId = s.pendingDeadlines.contains connId)
    (hfew : s.pending.size ≤ maxPending)
    (hapart : ∀ connId, s.pending.contains connId = true → s.active.contains connId = false) :
    IdsInv s where
  same := hsame
  few := hfew
  apart := hapart
  fresh hannounced := by
    rw [hmain] at hannounced
    cases hannounced
  room hannounced := by
    rw [hmain] at hannounced
    cases hannounced

theorem IdsInv.removeActive (h : IdsInv s) (hmain : s.main = .selecting) (connId : ConnId) :
    IdsInv (s.removeActive connId) := by
  obtain ⟨hpending, hdeadlines, hmain'⟩ := @removeActive_rest s connId
  refine .of_selecting (hmain'.trans hmain) ?_ ?_ ?_
  · rw [hpending, hdeadlines]
    exact h.same
  · rw [hpending]
    exact h.few
  · intro id hid
    rw [hpending] at hid
    rw [removeActive_active, h.apart id hid, Bool.false_and]

theorem IdsInv.splice (h : IdsInv s) (hmain : s.main = .selecting) (connId : ConnId)
    (stream : ℕ) : IdsInv (s.splice connId stream) := by
  obtain ⟨hpending, hdeadlines, hmain'⟩ := @splice_rest s connId stream
  refine .of_selecting (hmain'.trans hmain) ?_ ?_ ?_
  · intro id
    rw [hpending, hdeadlines, Store.contains_erase, Store.contains_erase, h.same]
  · rw [hpending]
    exact (Store.size_retain_le ..).trans h.few
  · intro id hid
    rw [hpending, Store.contains_erase, Bool.and_eq_true] at hid
    rw [splice_active, h.apart id hid.1, Bool.or_false, ← Bool.not_eq_true']
    exact hid.2

theorem IdsInv.requested (h : IdsInv s) (hmain : s.main = .selecting)
    (forward : Chan 64 ForwardRequest) : IdsInv (s.requested forward) := by
  rw [requested_eq]
  obtain ⟨hactive, -, hmain'⟩ := @evict_rest s s.nextId
  refine .of_selecting (hmain'.trans hmain) (fun id => evict_same h.same)
    (evict_size.trans h.few) fun id hid => ?_
  rw [evict_pending_contains, Bool.and_eq_true] at hid
  exact (congrArg (·.contains id) hactive).trans (h.apart id hid.1)

/-- A connection whose id was free has an id of its own. -/
theorem requested_not_inUse {forward : Chan 64 ForwardRequest} {main : Main}
    (hfree : s.Free s.nextId) : ¬ ({ s.requested forward with main } : Handler).InUse s.nextId := by
  obtain ⟨hactive, hconns, -⟩ := @evict_rest s s.nextId
  rw [requested_eq]
  rintro (hpending | hbusy)
  · have hgone := @evict_pending_contains s s.nextId s.nextId
    rw [decide_eq_true rfl, Bool.not_true, Bool.and_false] at hgone
    exact absurd (hgone.symm.trans hpending) Bool.false_ne_true
  · refine hbusy ⟨?_, ?_⟩
    · exact (congrArg (·.contains s.nextId) hactive).trans hfree.1
    · intro c hc
      exact hfree.2 c (hconns ▸ hc)

theorem IdsInv.afterSend {frame : Bytes} {after : AfterSend} (h : IdsInv s)
    (hmain : s.main = .sendingWs frame after) (ok : Bool) (wsOut : Chan 256 Bytes) (now : Int) :
    IdsInv ({ s with wsOut, main := .selecting }.afterSend ok now after) := by
  have hquiet : IdsInv { s with wsOut, main := .selecting } := h.quiet rfl rfl rfl (by simp)
  cases after with
  | resume => exact hquiet
  | forget connId => exact hquiet.removeActive rfl connId
  | expectReady connId stream =>
    cases ok with
    | false => exact hquiet
    | true =>
      refine .of_selecting rfl (fun id => ?_) ?_ fun id hid => ?_
      · dsimp only [Handler.afterSend]
        rw [if_pos rfl, Store.contains_insert, Store.contains_insert, h.same]
      · exact (Store.size_insert_le ..).trans (h.room hmain)
      · dsimp only [Handler.afterSend] at hid
        rw [if_pos rfl, Store.contains_insert, Bool.or_eq_true, decide_eq_true_iff] at hid
        rcases hid with rfl | hid
        · by_contra hactive
          exact h.fresh hmain (.inr fun hfree => hactive hfree.1)
        · exact h.apart id hid

/-- Ids stay apart as long as a connection that is accepted gets a free one. -/
theorem IdsInv.move {e : Option Event} (h : IdsInv s)
    (hfree : ∀ connId, e = some (.taken connId) → (s.evict connId).pending.size < maxPending →
      s.Free connId) (hmove : Move s e s') : IdsInv s' := by
  cases hmove with
  | ignored hmain => exact h.took hmain _ _
  | leave | deliver | ping | takeData | takeEof | streamSent | dropClone | joined =>
    exact h.quiet rfl rfl rfl (by simp [Handler.modifyConn])
  | splice hmain hframe hpending =>
    exact (h.took hmain _ _).splice hmain _ _
  | lateReady hmain hframe hpending hrecv =>
    rename_i connId
    refine .of_selecting hmain (fun id => ?_) h.few h.apart
    refine (h.same id).trans (Eq.symm ((Store.contains_erase ..).trans ?_))
    by_cases hid : id = connId
    · rw [hid, ← h.same]
      simp [Store.contains, hpending]
    · simp [hid]
  | closedByPi hmain hframe =>
    exact (h.took hmain _ _).removeActive hmain _
  | drop hmain hfull => exact h.requested hmain _
  | announce hmain hroom =>
    rename_i forward req
    have hrequested := h.requested hmain forward
    refine ⟨⟨hrequested.same, hrequested.few, hrequested.apart, ?_⟩, ?_⟩
    · rintro _ _ _ ⟨⟩
      rw [requested_eq] at hroom
      exact requested_not_inUse (hfree _ rfl hroom)
    · rintro _ _ _ ⟨⟩
      exact hroom
  | sweep now hmain =>
    refine .of_selecting hmain (fun id => ?_) ((Store.size_retain_le ..).trans h.few) ?_
    · dsimp only [Handler.sweep]
      rw [Store.contains_retain_key, Store.contains_retain_key, h.same]
    · intro id hid
      dsimp only [Handler.sweep] at hid
      rw [Store.contains_retain_key, Bool.and_eq_true] at hid
      exact h.apart id hid.1
  | queued now hmain hsend => exact h.afterSend hmain _ _ _
  | finish hmain =>
    refine ⟨⟨fun _ => rfl, Nat.zero_le _, ?_, ?_⟩, ?_⟩
    · rintro id ⟨⟩
    · rintro _ _ _ ⟨⟩
    · rintro _ _ _ ⟨⟩
  | arrive | handOver | wsOther | wsEnd | take | written | registry =>
    exact ⟨⟨h.same, h.few, h.apart, h.fresh⟩, h.room⟩
  | read hconn hreader | readEnd hconn hreader | readSent hconn hreader =>
    refine h.conn _ (fun _ => rfl) fun c hc _ => ?_
    rw [← some.inj (hconn.symm.trans hc), hreader]
    rfl
  | eofSent | readLost => exact h.conn _ (fun _ => rfl) (by rintro _ _ ⟨⟩)
  | receive | receiveEnd | write | writeFails =>
    exact h.conn s.tcpOut (fun _ => rfl) fun _ _ hrun => hrun

end

variable {s : Handler} {connId : ConnId} {steps : List Step}

/-- A connection that is announced with an id of its own has taken one that was free. -/
theorem Move.free_of_fresh {s' : Handler} (hmove : Move s (some (.taken connId)) s')
    (hroom : (s.evict connId).pending.size < maxPending) (hapart : IdsApart s') :
    s.Free connId := by
  cases hmove with
  | drop hmain hfull =>
    rw [requested_eq] at hfull
    exact absurd hroom (Nat.not_lt_of_le hfull)
  | announce hmain hroom' =>
    obtain ⟨hactive, hconns, -⟩ := @evict_rest s s.nextId
    have hfresh := hapart.fresh rfl
    rw [requested_eq] at hfresh
    by_contra hbusy
    refine hfresh (.inr fun hfree => hbusy ⟨?_, ?_⟩)
    · exact (congrArg (·.contains s.nextId) hactive.symm).trans hfree.1
    · intro c hc
      exact hfree.2 c (hconns.symm ▸ hc)

theorem idsInv_start : IdsInv .start := by
  refine .of_selecting rfl (fun _ => rfl) (Nat.zero_le _) ?_
  rintro id ⟨⟩

/-! ## The connections that were spliced -/

def connIds (s : Handler) : List ConnId := s.conns.map (·.connId)

theorem modifyConn_connIds {k : ℕ} {f : Conn → Conn} (hid : ∀ c, (f c).connId = c.connId) :
    (s.modifyConn k f).connIds = s.connIds := by
  apply List.ext_getElem?
  intro i
  simp only [connIds, modifyConn, List.getElem?_map, List.getElem?_modify]
  cases s.conns[i]? with
  | none => rfl
  | some c =>
    by_cases h : k = i
    · simp [h, hid]
    · simp [h]

theorem removeActive_connIds : (s.removeActive connId).connIds = s.connIds := by
  unfold removeActive
  split
  · rfl
  · exact modifyConn_connIds fun _ => rfl

theorem removeActive_get? {id : ConnId} :
    (s.removeActive connId).active.get? id = if id = connId then none else s.active.get? id := by
  unfold removeActive
  split
  · rename_i hnone
    by_cases h : id = connId
    · rw [if_pos h, h, hnone]
    · rw [if_neg h]
  · exact Store.get?_erase ..

theorem returnFromRun_connIds : s.returnFromRun.connIds = s.connIds := by
  apply List.ext_getElem?
  intro i
  simp only [connIds, returnFromRun, List.getElem?_map, List.getElem?_mapIdx, map_map]
  split
  · rfl
  · rfl

theorem removeActive_unpended_connIds (s : Handler) (connId : ConnId) : ({ s with
    pendingDeadlines := s.pendingDeadlines.erase connId
    pending := s.pending.erase connId }.removeActive connId).connIds = s.connIds :=
  removeActive_connIds

theorem splice_connIds {stream : ℕ} : (s.splice connId stream).connIds = s.connIds ++ [connId] := by
  rw [← removeActive_unpended_connIds s connId]
  simp [splice, connIds]

theorem splice_get? {id : ConnId} {stream : ℕ} : (s.splice connId stream).active.get? id =
      if id = connId then some s.connIds.length else s.active.get? id := by
  unfold splice
  rw [Store.get?_insert, removeActive_get?, ← removeActive_unpended_connIds s connId, connIds,
    List.length_map]
  by_cases h : id = connId
  · simp [h]
  · simp [h]

/-- Only the active connections have a sender to their writer, and they have one. -/
structure Linked (s : Handler) : Prop where
  active : ∀ {connId k}, s.active.get? connId = some k → s.connIds[k]? = some connId
  senders : ∀ {k c}, s.conns[k]? = some c → c.toWriter.senders = 0 ∨
    c.toWriter.senders = 1 ∧ s.active.get? c.connId = some k

theorem modifyConn_getElem? {k i : ℕ} {f : Conn → Conn} :
    (s.modifyConn k f).conns[i]? = (s.conns[i]?).map fun c => if k = i then f c else c :=
  List.getElem?_modify ..

theorem removeActive_getElem? {i : ℕ} :
    (s.removeActive connId).conns[i]? = (s.conns[i]?).map fun c =>
      if s.active.get? connId = some i then { c with toWriter := c.toWriter.dropSender }
      else c := by
  unfold removeActive
  split
  · rename_i hnone
    simp [hnone]
  · rename_i k hk
    rw [modifyConn_getElem?, hk]
    simp

section

variable {s s' : Handler}

theorem Linked.conn (h : Linked s) {k : ℕ} {f : Conn → Conn} (main : Main)
    (tcpOut : Chan 256 (ConnId × Bytes)) (hid : ∀ c, (f c).connId = c.connId)
    (hsenders : ∀ c, s.conns[k]? = some c → (f c).toWriter.senders = c.toWriter.senders) :
    Linked ({ s with main, tcpOut }.modifyConn k f) where
  active hget := by
    rw [modifyConn_connIds hid]
    exact h.active hget
  senders {i c'} hc' := by
    rw [modifyConn_getElem?] at hc'
    obtain ⟨c, hc, rfl⟩ := map_eq_some_iff.mp hc'
    split
    · rename_i hi
      subst hi
      rw [hsenders c hc, hid]
      exact h.senders hc
    · exact h.senders hc

theorem Linked.removeActive (h : Linked s) (connId : ConnId) : Linked (s.removeActive connId) where
  active hget := by
    rw [removeActive_get?] at hget
    rw [removeActive_connIds]
    split at hget
    · cases hget
    · exact h.active hget
  senders {i c'} hc' := by
    rw [removeActive_getElem?] at hc'
    obtain ⟨c, hc, rfl⟩ := map_eq_some_iff.mp hc'
    have hold := h.senders hc
    split
    · rename_i hi
      left
      show c.toWriter.senders - 1 = 0
      omega
    · rename_i hi
      refine hold.imp_right fun hone => ⟨hone.1, ?_⟩
      rw [removeActive_get?, if_neg]
      · exact hone.2
      · rintro rfl
        exact hi hone.2

theorem Linked.splice (h : Linked s) (connId : ConnId) (stream : ℕ) :
    Linked (s.splice connId stream) := by
  have hremoved : Linked ({ s with
      pendingDeadlines := s.pendingDeadlines.erase connId
      pending := s.pending.erase connId }.removeActive connId) :=
    (⟨h.active, h.senders⟩ : Linked { s with
      pendingDeadlines := s.pendingDeadlines.erase connId
      pending := s.pending.erase connId }).removeActive connId
  have hids : ({ s with
      pendingDeadlines := s.pendingDeadlines.erase connId
      pending := s.pending.erase connId }.removeActive connId).connIds = s.connIds :=
    removeActive_connIds
  refine ⟨fun {id k} hget => ?_, fun {i c} hc => ?_⟩
  · rw [splice_get?] at hget
    rw [splice_connIds]
    split at hget
    · rename_i hid
      cases hget
      rw [hid, List.getElem?_concat_length]
    · have hold := h.active hget
      rw [List.getElem?_append_left (List.getElem?_eq_some_iff.mp hold).1, hold]
  · unfold Handler.splice at hc
    rw [List.getElem?_append] at hc
    split at hc
    · refine (hremoved.senders hc).imp_right fun hone => ⟨hone.1, ?_⟩
      have hget := hone.2
      rw [removeActive_get?] at hget
      rw [splice_get?]
      split at hget
      · cases hget
      · rename_i hne
        rw [if_neg hne]
        exact hget
    · rename_i hi
      have hlast : i = s.connIds.length := by
        have hbound := (List.getElem?_eq_some_iff.mp hc).1
        have hlength := congrArg List.length hids
        simp only [connIds, List.length_map, List.length_singleton] at hbound hlength ⊢
        omega
      obtain rfl := List.mem_singleton.mp (List.mem_of_getElem? hc)
      refine .inr ⟨rfl, ?_⟩
      rw [splice_get?, if_pos rfl, hlast]

theorem Linked.returnFromRun (h : Linked s) : Linked s.returnFromRun where
  active hget := by cases hget
  senders {k c'} hc' := by
    rw [Handler.returnFromRun, List.getElem?_mapIdx] at hc'
    obtain ⟨c, hc, rfl⟩ := map_eq_some_iff.mp hc'
    left
    rcases h.senders hc with hzero | ⟨hone, hactive⟩
    · split
      · exact (congrArg (· - 1) hzero).trans rfl
      · exact hzero
    · have hany : (s.active.entries.any fun entry => entry.2 = k) = true :=
        List.any_eq_true.mpr ⟨_, Store.get?_eq_some_iff.mp hactive, decide_eq_true rfl⟩
      rw [if_pos hany]
      exact (congrArg (· - 1) hone).trans rfl

/-- A sender to a writer comes and goes with the entry of its connection. -/
theorem Linked.move {e : Option Event} (h : Linked s) (hmove : Move s e s') : Linked s' := by
  have hsame : ∀ {s' : Handler}, s'.active = s.active → s'.conns = s.conns → Linked s' := by
    intro s' hactive hconns
    refine ⟨?_, ?_⟩
    · rw [hactive, connIds, hconns]
      exact h.active
    · rw [hactive, hconns]
      exact h.senders
  cases hmove with
  | splice => exact (hsame (@rfl _ (s.took _ _).active) rfl).splice _ _
  | closedByPi => exact (hsame (@rfl _ (s.took _ _).active) rfl).removeActive _
  | drop | announce => exact hsame (requested_rest _).1 (requested_rest _).2
  | queued now hmain hsend =>
    rename_i after ok wsOut
    have hsent : Linked { s with wsOut, main := .selecting } := hsame rfl rfl
    cases after with
    | resume => exact hsent
    | expectReady =>
      cases ok with
      | true => exact hsame rfl rfl
      | false => exact hsent
    | forget => exact hsent.removeActive _
  | finish hmain => exact h.returnFromRun
  | leave | lateReady | deliver | ping | ignored | takeData | takeEof | sweep | dropClone
  | joined | arrive | handOver | wsOther | wsEnd | take | written | registry => exact hsame rfl rfl
  | read | readEnd | readSent | eofSent | readLost | write | writeFails =>
    exact h.conn _ _ (fun _ => rfl) fun _ _ => rfl
  | streamSent hmain hconn hsend =>
    refine h.conn _ _ (fun _ => rfl) fun c hc => ?_
    rw [← some.inj (hconn.symm.trans hc)]
    exact Chan.senders_of_send hsend
  | receive hconn hwriter hrecv =>
    refine h.conn _ _ (fun _ => rfl) fun c hc => ?_
    rw [← some.inj (hconn.symm.trans hc)]
    exact Chan.senders_of_recv hrecv
  | receiveEnd hconn =>
    refine h.conn _ _ (fun _ => rfl) fun c hc => ?_
    rw [← some.inj (hconn.symm.trans hc)]
    rfl

end

/-! ## Fewer connections than ids -/

def announced (s : Handler) : Option ConnId :=
  match s.main with
  | .sendingWs _ (.expectReady connId _) => some connId
  | _ => none

def Event.isTaken : Event → Bool
  | .taken _ => true
  | _ => false

def taken (events : List Event) : ℕ := events.countP Event.isTaken

theorem taken_append (events more : List Event) :
    taken (events ++ more) = taken events + taken more :=
  List.countP_append ..

theorem requested_announced (hmain : s.main = .selecting) (forward : Chan 64 ForwardRequest) :
    (s.requested forward).announced = none := by
  have hmain' : (s.requested forward).main = .selecting := by
    exact evict_rest.2.2.trans hmain
  rw [announced, hmain']

/-- Ids have been given out in order, from 0 on: those that wait are not those of spliced
connections, which have one each. -/
structure Numbered (n : ℕ) (s : Handler) : Prop where
  next : s.nextId = UInt32.ofNat n
  waiting : ∀ connId, (s.pending.contains connId = true ∨ s.announced = some connId) →
    connId.toNat < n ∧ connId ∉ s.connIds
  spliced : ∀ connId ∈ s.connIds, connId.toNat < n
  nodup : s.connIds.Nodup

section

variable {n : ℕ} {s s' : Handler}

theorem Numbered.shrink (h : Numbered n s) (hnext : s'.nextId = s.nextId)
    (hwaiting : ∀ connId, (s'.pending.contains connId = true ∨ s'.announced = some connId) →
      s.pending.contains connId = true ∨ s.announced = some connId)
    (hids : s'.connIds = s.connIds) : Numbered n s' where
  next := hnext.trans h.next
  waiting connId hwait := by
    rw [hids]
    exact h.waiting connId (hwaiting connId hwait)
  spliced := by
    rw [hids]
    exact h.spliced
  nodup := by
    rw [hids]
    exact h.nodup

theorem Numbered.removeActive (h : Numbered n s) (connId : ConnId) :
    Numbered n (s.removeActive connId) := by
  obtain ⟨hpending, -, hmain⟩ := @removeActive_rest s connId
  refine h.shrink ?_ ?_ removeActive_connIds
  · unfold Handler.removeActive
    split
    · rfl
    · rfl
  · intro id hwait
    rwa [hpending, Handler.announced, hmain] at hwait

theorem Numbered.splice (h : Numbered n s) (hselecting : s.main = .selecting) {connId : ConnId}
    (stream : ℕ) (hpending : s.pending.contains connId = true) :
    Numbered n (s.splice connId stream) := by
  obtain ⟨hpending', -, hmain⟩ := @splice_rest s connId stream
  obtain ⟨hlt, hnew⟩ := h.waiting connId (.inl hpending)
  refine ⟨?_, ?_, ?_, ?_⟩
  · refine Eq.trans ?_ h.next
    unfold Handler.splice Handler.removeActive
    split
    · rfl
    · rfl
  · intro id hwait
    rw [hpending', Store.contains_erase, Handler.announced, hmain, hselecting] at hwait
    rcases hwait with hold | hannounced
    · obtain ⟨hold, hne⟩ := Bool.and_eq_true_iff.mp hold
      obtain ⟨hid, hnot⟩ := h.waiting id (.inl hold)
      refine ⟨hid, ?_⟩
      rw [splice_connIds, List.mem_append, List.mem_singleton]
      rintro (hmem | rfl)
      · exact hnot hmem
      · simp at hne
    · cases hannounced
  · intro id hid
    rw [splice_connIds, List.mem_append, List.mem_singleton] at hid
    rcases hid with hold | rfl
    · exact h.spliced id hold
    · exact hlt
  · rw [splice_connIds, List.nodup_append]
    refine ⟨h.nodup, List.nodup_singleton _, ?_⟩
    rintro a ha b hb rfl
    exact hnew (List.mem_singleton.mp hb ▸ ha)

theorem Numbered.requested (h : Numbered n s) (hfew : n < 2 ^ 32)
    (forward : Chan 64 ForwardRequest) {main : Main}
    (hannounced : ∀ connId, ({ s.requested forward with main } : Handler).announced = some connId →
      connId = s.nextId) : Numbered (n + 1) { s.requested forward with main } := by
  have hnext : s.nextId.toNat = n := by
    rw [h.next, UInt32.toNat_ofNat', Nat.mod_eq_of_lt hfew]
  have hids : ({ s.requested forward with main } : Handler).connIds = s.connIds := by
    rw [connIds, (requested_rest forward).2, connIds]
  refine ⟨?_, ?_, ?_, ?_⟩
  · rw [requested_eq, UInt32.ofNat_add, ← h.next]
    rfl
  · intro id hwait
    rw [hids]
    rcases hwait with hpending | hann
    · rw [requested_eq] at hpending
      have hold := (@evict_pending_contains s s.nextId id).symm.trans hpending
      obtain ⟨hlt, hnot⟩ := h.waiting id (.inl (Bool.and_eq_true_iff.mp hold).1)
      exact ⟨Nat.lt_succ_of_lt hlt, hnot⟩
    · obtain rfl := hannounced id hann
      refine ⟨Nat.lt_succ_of_le (Nat.le_of_eq hnext), fun hmem => ?_⟩
      exact absurd (h.spliced _ hmem) (by rw [hnext]; exact Nat.lt_irrefl n)
  · intro id hid
    rw [hids] at hid
    exact Nat.lt_succ_of_lt (h.spliced id hid)
  · rw [hids]
    exact h.nodup

theorem Numbered.afterSend {frame : Bytes} {after : AfterSend} (h : Numbered n s)
    (hmain : s.main = .sendingWs frame after) (ok : Bool) (wsOut : Chan 256 Bytes) (now : Int) :
    Numbered n ({ s with wsOut, main := .selecting }.afterSend ok now after) := by
  have hshrink : Numbered n { s with wsOut, main := .selecting } := by
    refine h.shrink rfl (fun id hwait => hwait.imp_right fun hann => ?_) rfl
    cases hann
  cases after with
  | resume => exact hshrink
  | forget connId => exact hshrink.removeActive connId
  | expectReady connId stream =>
    cases ok with
    | false => exact hshrink
    | true =>
      refine h.shrink rfl (fun id hwait => ?_) rfl
      rcases hwait with hpending | hann
      · dsimp only [Handler.afterSend] at hpending
        rw [if_pos rfl, Store.contains_insert, Bool.or_eq_true, decide_eq_true_iff] at hpending
        rcases hpending with rfl | hold
        · exact .inr (by rw [announced, hmain])
        · exact .inl hold
      · cases hann

theorem numbered_start : Numbered 0 .start := by
  refine ⟨rfl, ?_, ?_, List.nodup_nil⟩
  · rintro _ (⟨⟨⟩⟩ | ⟨⟨⟩⟩)
  · rintro _ ⟨⟩

/-- Until the counter wraps, ids are given out in order. -/
theorem Numbered.move {e : Option Event} (h : Numbered n s) (hmove : Move s e s')
    (hfew : ∀ connId, e = some (.taken connId) → n < 2 ^ 32) :
    Numbered (n + taken e.toList) s' := by
  have htook : ∀ (frame : Bytes) (fromPi : Chan 256 Bytes), Numbered n (s.took frame fromPi) :=
    fun _ _ => h.shrink rfl (fun _ => id) rfl
  have hconn : ∀ (tcpOut : Chan 256 (ConnId × Bytes)) (k : ℕ) (f : Conn → Conn),
      (∀ c, (f c).connId = c.connId) → Numbered n ({ s with tcpOut }.modifyConn k f) :=
    fun tcpOut k f hid => h.shrink rfl (fun _ => id) (modifyConn_connIds hid)
  cases hmove with
  | splice hmain hframe hpending =>
    exact (htook _ _).splice hmain _ (Store.contains_eq_true_iff.mpr ⟨_, hpending⟩)
  | lateReady | arrive | handOver | wsOther | wsEnd | take | written | registry =>
    exact h.shrink rfl (fun _ => id) rfl
  | closedByPi => exact (htook _ _).removeActive _
  | ignored => exact htook _ _
  | leave | deliver | ping | takeData | takeEof | dropClone | joined =>
    exact h.shrink rfl (fun _ hwait => hwait.imp_right fun hann => by cases hann) rfl
  | drop hmain hfull =>
    refine h.requested (hfew _ rfl) _ fun id hann => ?_
    exact absurd ((requested_announced hmain _).symm.trans hann) (by simp)
  | announce hmain hroom =>
    refine h.requested (hfew _ rfl) _ ?_
    rintro id ⟨⟩
    rfl
  | sweep now hmain =>
    refine h.shrink rfl (fun id hwait => hwait.imp_left fun hpending => ?_) rfl
    dsimp only [Handler.sweep] at hpending
    rw [Store.contains_retain_key, Bool.and_eq_true] at hpending
    exact hpending.1
  | queued now hmain hsend => exact h.afterSend hmain _ _ _
  | streamSent hmain =>
    refine h.shrink rfl (fun _ hwait => hwait.imp_right fun hann => by cases hann)
      (modifyConn_connIds fun _ => rfl)
  | finish hmain =>
    refine h.shrink rfl ?_ returnFromRun_connIds
    rintro id (⟨⟨⟩⟩ | ⟨⟨⟩⟩)
  | read | readEnd | readSent | eofSent | readLost | receive | receiveEnd | write | writeFails =>
    exact hconn _ _ _ fun _ => rfl

end

/-! ## Whole runs -/

theorem linked_of_run (hrun : system.run .start steps = some s) : Linked s := by
  refine moves_invariant (I := fun _ s => Linked s) ?_ (fun h hmove => h.move hmove) hrun
  constructor
  · rintro _ _ ⟨⟩
  · rintro _ _ ⟨⟩

/-- A connection that is taken while fewer connections were taken than there are ids has a free
one. -/
theorem Numbered.free {n : ℕ} (h : Numbered n s) (hlinked : Linked s) (hfew : n < 2 ^ 32) :
    s.Free s.nextId := by
  have hnext : s.nextId.toNat = n := by
    rw [h.next, UInt32.toNat_ofNat', Nat.mod_eq_of_lt hfew]
  have hnew : s.nextId ∉ s.connIds := by
    intro hmem
    have hlt := h.spliced _ hmem
    omega
  constructor
  · by_contra hcontains
    obtain ⟨k, hget⟩ := Store.contains_eq_true_iff.mp (eq_true_of_ne_false hcontains)
    exact hnew (List.mem_of_getElem? (hlinked.active hget))
  · intro c hc hid
    exact absurd (List.mem_map.mpr ⟨c, hc, hid⟩) hnew

theorem numbered_of_run (hrun : system.run .start steps = some s)
    (hfew : taken (trace steps) ≤ 2 ^ 32) :
    Numbered (taken (trace steps)) s := by
  have hinv : taken (trace steps) ≤ 2 ^ 32 → Numbered (taken (trace steps)) s := by
    refine moves_invariant (I := fun events s => taken events ≤ 2 ^ 32 →
      Numbered (taken events) s) (fun _ => numbered_start) (fun {events s e s'} ih hmove hle => ?_)
      hrun
    rw [taken_append] at hle ⊢
    refine (ih (Nat.le_trans (Nat.le_add_right _ _) hle)).move hmove ?_
    rintro connId rfl
    exact hle
  exact hinv hfew

/-- The ids are apart in every state of a run exactly if every connection is accepted with an id
that no active connection and no running reader has. -/
theorem ids_apart_iff {steps : List Step} {s : Handler} (hrun : system.run .start steps = some s) :
    (∀ before after mid, steps = before ++ after → system.run .start before = some mid →
        IdsApart mid) ↔
      system.Along TakesFree .start steps := by
  constructor
  · intro hapart
    refine system.along_of_forall_split fun before step after mid hsplit hmid => ?_
    intro connId hseen hroom
    -- The step is possible, because the run goes on.
    rw [hsplit, system.run_append, hmid, bind_some] at hrun
    obtain ⟨next, hstep, -⟩ := system.run_cons_eq_some.mp hrun
    have hmove := step_move hstep
    rw [hseen] at hmove
    refine hmove.free_of_fresh hroom (hapart (before ++ [step]) after next ?_ ?_)
    · rw [hsplit, List.append_assoc, List.singleton_append]
    · exact system.run_concat_eq_some.mpr ⟨mid, hmid, hstep⟩
  · rintro halong before after mid rfl hmid
    have hstep : ∀ s step s', TakesFree s step → IdsInv s → system.step s step = some s' →
        IdsInv s' := fun s step s' hfree h hstep => h.move hfree (step_move hstep)
    exact (system.run_invariant_along hstep idsInv_start (system.along_append_left halong)
      hmid).toIdsApart

/-- This is so in particular if not more connections were taken than there are ids. -/
theorem takesFree_of_few (hrun : system.run .start steps = some s)
    (hfew : taken (trace steps) ≤ 2 ^ 32) :
    system.Along TakesFree .start steps := by
  refine system.along_of_forall_split fun before step after mid hsplit hmid connId hseen _ => ?_
  rw [hsplit, system.run_append, hmid, bind_some] at hrun
  obtain ⟨next, hstep, -⟩ := system.run_cons_eq_some.mp hrun
  have hcount : taken (trace before) + 1 ≤ taken (trace steps) := by
    have htrace : trace steps = trace before ++ system.observed seen mid (step :: after) := by
      rw [hsplit]
      exact system.observed_append hmid _
    rw [htrace, taken_append, System.observed, hseen, taken_append]
    exact Nat.add_le_add_left (Nat.le_add_right 1 _) _
  have hnumbered := numbered_of_run hmid (by omega)
  have hmove := step_move hstep
  rw [hseen] at hmove
  have hid : connId = mid.nextId := by
    cases hmove with
    | drop | announce => rfl
  rw [hid]
  exact hnumbered.free (linked_of_run hmid) (by omega)

/-! ## A connection that outlives all others -/

def sampleReady : Bytes := frameReady :: beBytes32 0

def sampleSpliced : List Step :=
  [.registry (.enqueue ⟨0, 443⟩), .main .forwardRequest, .main (.sent 0), .ws .take,
    .ws (.written true), .ws (.message (.binary sampleReady)), .ws .sentToPi, .main .piFrame]

/-- One connection is taken, and its id is its own. -/
theorem ids_apart_sample : IdsApart (system.runD .start sampleSpliced) := by
  have hrun := system.run_eq_some_runD
    (by decide +kernel : (system.run .start sampleSpliced).isSome = true)
  have hfew : taken (trace sampleSpliced) ≤ 2 ^ 32 :=
    (by decide +kernel : taken (trace sampleSpliced) = 1).symm ▸ by decide
  exact (ids_apart_iff hrun).mpr (takesFree_of_few hrun hfew) _ [] _ (List.append_nil _).symm hrun

/-- The tunnel with the spliced connection, after more connections were announced. -/
def sampleOpen (nextId : ConnId) (wire : List Bytes) : Handler :=
  { system.runD .start sampleSpliced with nextId, wire }

/-- A connection is accepted and announced to the Pi. -/
def sampleAnnounced (now : Int) : List Step :=
  [.registry (.enqueue ⟨1, 443⟩), .main .forwardRequest, .main (.sent now), .ws .take,
    .ws (.written true)]

/-- Connections come and are swept one after the other, each when its time is up. -/
def sampleExpired : ℕ → Int → List Step
  | 0, _ => []
  | n + 1, now => sampleAnnounced now ++ .main (.cleanup (now + 10)) :: sampleExpired n (now + 10)

theorem run_sampleAnnounced (now : Int) (nextId : ConnId) (wire : List Bytes) :
    system.run (sampleOpen nextId wire) (sampleAnnounced now) =
      some { sampleOpen (nextId + 1) (wire ++ [encodeConnect nextId 443]) with
        pending := (∅ : Store ConnId ℕ).insert nextId 1
        pendingDeadlines := (∅ : Store ConnId Int).insert nextId (now + 10) } := rfl

theorem sweep_insert_empty (s : Handler) (connId : ConnId) (stream : ℕ) (now : Int) : { s with
      pending := (∅ : Store ConnId ℕ).insert connId stream
      pendingDeadlines := (∅ : Store ConnId Int).insert connId now }.sweep now =
      { s with pending := ∅, pendingDeadlines := ∅ } := by
  simp [sweep, Store.select, Store.insert, Store.retain, EmptyCollection.emptyCollection,
    Store.empty]

/-- Any number of connections come and go while the spliced one stays. -/
theorem run_sampleExpired (n : ℕ) (now : Int) (nextId : ConnId) (wire : List Bytes) :
    ∃ wire', system.run (sampleOpen nextId wire) (sampleExpired n now) =
      some (sampleOpen (nextId + UInt32.ofNat n) wire') := by
  induction n generalizing now nextId wire with
  | zero => exact ⟨wire, by simp [sampleExpired]⟩
  | succ n ih =>
    obtain ⟨wire', hrest⟩ := ih (now + 10) (nextId + 1) (wire ++ [encodeConnect nextId 443])
    refine ⟨wire', ?_⟩
    rw [sampleExpired, system.run_append, run_sampleAnnounced, bind_some]
    refine system.run_cons_eq_some.mpr ⟨_, congrArg some (sweep_insert_empty ..), ?_⟩
    rw [UInt32.ofNat_add, UInt32.add_comm (UInt32.ofNat n), ← UInt32.add_assoc]
    exact hrest

/-- After the spliced connection `2 ^ 32 - 1` others are taken. The next one has its id: it is
pending while the first one is active and its reader runs. -/
theorem ids_apart_counterexample :
    ∃ steps s c, system.run .start steps = some s ∧ s.pending.contains 0 = true ∧
      s.active.get? 0 = some 0 ∧ s.conns[0]? = some c ∧ c.connId = 0 ∧ c.reader = .reading := by
  have hspliced : system.run .start sampleSpliced =
      some (sampleOpen 1 (system.runD .start sampleSpliced).wire) := rfl
  obtain ⟨wire, hmany⟩ :=
    run_sampleExpired (2 ^ 32 - 1) 0 1 (system.runD .start sampleSpliced).wire
  have hwrapped : (1 : ConnId) + UInt32.ofNat (2 ^ 32 - 1) = 0 := by decide
  rw [hwrapped] at hmany
  have hrun : system.run .start
      (sampleSpliced ++ sampleExpired (2 ^ 32 - 1) 0 ++ sampleAnnounced (10 * (2 ^ 32 - 1))) =
        system.run (sampleOpen 0 wire) (sampleAnnounced (10 * (2 ^ 32 - 1))) := by
    rw [system.run_append, system.run_append, hspliced, bind_some, hmany, bind_some]
  exact ⟨_, _, ⟨0, 0, .new, .reading, .receiving, [], []⟩,
    hrun.trans (run_sampleAnnounced _ 0 wire), rfl, rfl, rfl, rfl, rfl⟩

end Handler

end Wardnet.Tunnel
