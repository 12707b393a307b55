/-
# Integrity of the streams

A reader hands over what its client sends in the order it came, and the end of the stream last.
All frames that the main loop queues are given to the socket in their order. So the Pi gets, for
every connection, a CONNECT, then DATA with the first bytes of the client, and at most one CLOSE
at the end. Together with what is written to the clients this is the integrity of the tunnel, for
as long as ids are not used twice.
-/

import Wardnet.Tunnel.Flow
import Wardnet.Tunnel.Inbound

namespace Wardnet.Tunnel

open Base List Option Handler Chan

/-! ## What the readers hand over -/

def Reader.held : Reader → Bytes
  | .sending data => data
  | .reading | .done => []

/-- What a reader has handed over is what its client sent, and then the end of the stream. -/
def Handed (c : Conn) (items : List Item) : Prop :=
  ∃ chunks : List Bytes, chunks.flatten <+: c.fromClient ∧
    (items = chunks.map .data ∧
        (c.reader ≠ .done → chunks.flatten ++ c.reader.held = c.fromClient) ∨
      items = chunks.map .data ++ [.close] ∧ c.reader = .done)

section

variable {c : Conn} {items : List Item} {data : Bytes}

section

variable (h : Handed c items)
include h

theorem Handed.of_same {c' : Conn} (hreader : c'.reader = c.reader)
    (hclient : c'.fromClient = c.fromClient) : Handed c' items := by
  unfold Handed at h ⊢
  rwa [hreader, hclient]

theorem Handed.live (hreader : c.reader ≠ .done) : ∃ chunks : List Bytes, items = chunks.map .data ∧
      chunks.flatten ++ c.reader.held = c.fromClient := by
  obtain ⟨chunks, -, ⟨hitems, heq⟩ | ⟨-, hdone⟩⟩ := h
  · exact ⟨chunks, hitems, heq hreader⟩
  · exact absurd hdone hreader

theorem Handed.read (hreader : c.reader = .reading) :
    Handed { c with reader := .sending data, fromClient := c.fromClient ++ data } items := by
  obtain ⟨chunks, hitems, heq⟩ := h.live (by simp [hreader])
  rw [hreader, Reader.held, append_nil] at heq
  refine ⟨chunks, ?_, .inl ⟨hitems, fun _ => ?_⟩⟩
  · rw [heq]
    exact prefix_append _ _
  · rw [heq]
    rfl

theorem Handed.readEnd (hreader : c.reader = .reading) :
    Handed { c with reader := .sending [] } items := by
  obtain ⟨chunks, hitems, heq⟩ := h.live (by simp [hreader])
  rw [hreader] at heq
  exact ⟨chunks, ⟨_, heq⟩, .inl ⟨hitems, fun _ => heq⟩⟩

theorem Handed.readSent (hreader : c.reader = .sending data) :
    Handed { c with reader := .reading } (items ++ [.data data]) := by
  obtain ⟨chunks, rfl, heq⟩ := h.live (by simp [hreader])
  rw [hreader, Reader.held] at heq
  have hall : (chunks ++ [data]).flatten = c.fromClient := by simpa using heq
  refine ⟨chunks ++ [data], ?_, .inl ⟨by simp, fun _ => ?_⟩⟩
  · exact ⟨[], (append_nil _).trans hall⟩
  · exact (append_nil _).trans hall

theorem Handed.eofSent (hreader : c.reader = .sending []) :
    Handed { c with reader := .done } (items ++ [.close]) := by
  obtain ⟨chunks, rfl, heq⟩ := h.live (by simp [hreader])
  exact ⟨chunks, ⟨_, heq⟩, .inr ⟨rfl, rfl⟩⟩

theorem Handed.readLost (hreader : c.reader = .sending data) :
    Handed { c with reader := .done } items := by
  obtain ⟨chunks, hitems, heq⟩ := h.live (by simp [hreader])
  exact ⟨chunks, ⟨_, heq⟩, .inl ⟨hitems, fun hdone => absurd rfl hdone⟩⟩

end

end

namespace Handler

def offeredItems (connId : ConnId) (events : List Event) : List Item :=
  events.filterMap (Event.offeredItem connId)

def sentItems (connId : ConnId) (events : List Event) : List Item :=
  events.filterMap (Event.sentItem connId)

structure AllHanded (events : List Event) (s : Handler) : Prop where
  conn : ∀ {k : ℕ} {c : Conn}, s.conns[k]? = some c → Handed c (offeredItems c.connId events)
  nothing : ∀ connId, connId ∉ s.connIds → offeredItems connId events = []

section

variable {events : List Event} {s s' : Handler} {e : Option Event}

section

variable (h : AllHanded events s)
include h

theorem AllHanded.keep
    (hoffered : ∀ connId, offeredItems connId (events ++ e.toList) = offeredItems connId events)
    (hconns : ∀ (k : ℕ) c', s'.conns[k]? = some c' → ∃ c, s.conns[k]? = some c ∧ c'.connId =
      c.connId ∧ c'.reader = c.reader ∧ c'.fromClient = c.fromClient)
    (hids : s'.connIds = s.connIds) : AllHanded (events ++ e.toList) s' where
  conn {k c'} hc' := by
    obtain ⟨c, hc, hid, hreader, hclient⟩ := hconns k c' hc'
    rw [hoffered, hid]
    exact (h.conn hc).of_same hreader hclient
  nothing connId hnot := by
    rw [hoffered]
    exact h.nothing connId (hids ▸ hnot)

theorem AllHanded.step {k : ℕ} {c : Conn} {f : Conn → Conn} (hnodup : s.connIds.Nodup) (main : Main)
    (tcpOut : Chan 256 (ConnId × Bytes)) (hconn : s.conns[k]? = some c)
    (hid : ∀ c, (f c).connId = c.connId)
    (hother : ∀ connId, connId ≠ c.connId → offeredItems connId (events ++ e.toList) = offeredItems
      connId events) (hself : Handed (f c) (offeredItems c.connId (events ++ e.toList))) :
    AllHanded (events ++ e.toList) ({ s with main, tcpOut }.modifyConn k f) where
  conn {i c'} hc' := by
    rw [modifyConn_getElem?] at hc'
    obtain ⟨c₀, hc₀, rfl⟩ := map_eq_some_iff.mp hc'
    by_cases hi : k = i
    · subst hi
      cases hconn.symm.trans hc₀
      rw [if_pos rfl, hid]
      exact hself
    · rw [if_neg hi, hother]
      · exact h.conn hc₀
      · intro heq
        have hlt := (List.getElem?_eq_some_iff.mp hconn).1
        refine hi ((List.getElem?_inj (by simpa [connIds] using hlt) hnodup).mp ?_)
        simp [connIds, hconn, hc₀, heq]
  nothing connId hnot := by
    rw [modifyConn_connIds hid] at hnot
    have hmem : c.connId ∈ s.connIds := List.mem_map_of_mem (List.mem_of_getElem? hconn)
    rw [hother connId fun heq => hnot (heq ▸ hmem)]
    exact h.nothing connId hnot

theorem AllHanded.splice {id : ConnId} {stream : ℕ} (hnew : id ∉ s.connIds) :
    AllHanded events (s.splice id stream) where
  conn {k c'} hc' := by
    unfold Handler.splice at hc'
    rw [getElem?_append] at hc'
    split at hc'
    · rw [removeActive_getElem?] at hc'
      obtain ⟨c, hc, rfl⟩ := map_eq_some_iff.mp hc'
      split
      · exact (h.conn hc).of_same rfl rfl
      · exact h.conn hc
    · obtain rfl := mem_singleton.mp (mem_of_getElem? hc')
      rw [h.nothing id hnew]
      exact ⟨[], nil_prefix, .inl ⟨rfl, fun _ => rfl⟩⟩
  nothing connId hnot := by
    rw [splice_connIds, mem_append, not_or] at hnot
    exact h.nothing connId hnot.1

theorem AllHanded.removeActive (id : ConnId) : AllHanded events (s.removeActive id) where
  conn {k c'} hc' := by
    rw [removeActive_getElem?] at hc'
    obtain ⟨c, hc, rfl⟩ := map_eq_some_iff.mp hc'
    split
    · exact (h.conn hc).of_same rfl rfl
    · exact h.conn hc
  nothing connId hnot := h.nothing connId (removeActive_connIds ▸ hnot)

theorem AllHanded.returnFromRun : AllHanded events s.returnFromRun where
  conn {k c'} hc' := by
    rw [Handler.returnFromRun, getElem?_mapIdx] at hc'
    obtain ⟨c, hc, rfl⟩ := map_eq_some_iff.mp hc'
    split
    · exact (h.conn hc).of_same rfl rfl
    · exact h.conn hc
  nothing connId hnot := h.nothing connId (returnFromRun_connIds ▸ hnot)

end

theorem offeredItems_append (connId : ConnId) (events more : List Event) :
    offeredItems connId (events ++ more) = offeredItems connId events ++ offeredItems connId more :=
  filterMap_append

/-- Readers hand over what they have read, in this order. -/
theorem AllHanded.move (h : AllHanded events s) {n : ℕ} (hnumbered : Numbered n s)
    (hmove : Move s e s') : AllHanded (events ++ e.toList) s' := by
  have hquiet : ∀ {e : Option Event} {s' : Handler}, (∀ connId, offeredItems connId e.toList = []) →
      s'.conns = s.conns → AllHanded (events ++ e.toList) s' := by
    intro e s' hnothing hconns
    refine h.keep (fun connId => ?_) (fun k c hc => ⟨c, hconns ▸ hc, rfl, rfl, rfl⟩) ?_
    · rw [offeredItems_append, hnothing, append_nil]
    · rw [connIds, hconns, connIds]
  have hlocal : ∀ {k : ℕ} {c : Conn} {f : Conn → Conn} {main : Main}
      {tcpOut : Chan 256 (ConnId × Bytes)}, s.conns[k]? = some c →
      (∀ c, (f c).connId = c.connId) → Handed (f c) (offeredItems c.connId events) →
      AllHanded (events ++ (none : Option Event).toList)
        ({ s with main, tcpOut }.modifyConn k f) := by
    intro k c f main tcpOut hconn hid hself
    refine h.step hnumbered.nodup main tcpOut hconn hid (fun _ _ => by simp) ?_
    rwa [toList_none, append_nil]
  cases hmove with
  | splice hmain hframe hpending hrecv =>
    rename_i frame payload fromPi connId stream
    have htook : AllHanded (events ++ [.handled frame]) (s.took frame fromPi) :=
      hquiet (e := some (.handled frame)) (fun _ => rfl) rfl
    refine htook.splice ?_
    exact (hnumbered.waiting connId (.inl (Store.contains_eq_true_iff.mpr ⟨_, hpending⟩))).2
  | closedByPi =>
    rename_i frame payload fromPi connId hmain hframe hrecv
    have htook : AllHanded (events ++ [.handled frame]) (s.took frame fromPi) :=
      hquiet (e := some (.handled frame)) (fun _ => rfl) rfl
    exact htook.removeActive _
  | drop | announce => exact hquiet (fun _ => rfl) (requested_rest _).2
  | queued now hmain hsend =>
    rename_i frame after ok wsOut
    have hsent : AllHanded (events ++ [.queued frame]) { s with wsOut, main := .selecting } :=
      hquiet (e := some (.queued frame)) (fun _ => rfl) rfl
    cases after with
    | resume => exact hsent
    | expectReady =>
      cases ok with
      | true => exact hquiet (e := some (.queued frame)) (fun _ => rfl) rfl
      | false => exact hsent
    | forget => exact hsent.removeActive _
  | streamSent hmain hconn =>
    exact hlocal hconn (fun _ => rfl) ((h.conn hconn).of_same rfl rfl)
  | finish =>
    rw [toList_none, append_nil]
    exact h.returnFromRun
  | leave | lateReady | deliver | ping | ignored | takeData | takeEof | sweep | dropClone
  | joined | arrive | handOver | wsOther | wsEnd | take | written | registry =>
    exact hquiet (fun _ => rfl) rfl
  | read hconn hreader =>
    exact hlocal hconn (fun _ => rfl) ((h.conn hconn).read hreader)
  | readEnd hconn hreader =>
    exact hlocal hconn (fun _ => rfl) ((h.conn hconn).readEnd hreader)
  | readSent hconn hreader hdata hsend =>
    refine h.step hnumbered.nodup _ _ hconn (fun _ => rfl) (fun connId hne => ?_) ?_
    · rw [offeredItems_append]
      simp [offeredItems, Event.offeredItem, Ne.symm hne]
    · rw [offeredItems_append]
      have hitem := (h.conn hconn).readSent hreader
      simpa [offeredItems, Event.offeredItem, Item.ofBytes, hdata] using hitem
  | eofSent hconn hreader hsend =>
    refine h.step hnumbered.nodup _ _ hconn (fun _ => rfl) (fun connId hne => ?_) ?_
    · rw [offeredItems_append]
      simp [offeredItems, Event.offeredItem, Ne.symm hne]
    · rw [offeredItems_append]
      have hitem := (h.conn hconn).eofSent hreader
      simpa [offeredItems, Event.offeredItem, Item.ofBytes] using hitem
  | readLost hconn hreader =>
    exact hlocal hconn (fun _ => rfl) ((h.conn hconn).readLost hreader)
  | receive hconn | receiveEnd hconn | write hconn | writeFails count hconn =>
    exact hlocal hconn (fun _ => rfl) ((h.conn hconn).of_same rfl rfl)

end

/-! ## What the main loop sends to the Pi -/

/-- What is on the way to the Pi is of connections that were spliced. -/
structure Known (s : Handler) : Prop where
  queue : ∀ item ∈ s.tcpOut.queue, item.1 ∈ s.connIds
  main : ∀ frame after connId item, s.main = .sendingWs frame after →
    readItem connId frame = some item → connId ∈ s.connIds

section

variable {s s' : Handler} {e : Option Event}

theorem Known.keep (h : Known s) (hqueue : s'.tcpOut.queue = s.tcpOut.queue)
    (hids : ∀ connId ∈ s.connIds, connId ∈ s'.connIds)
    (hmain : ∀ frame after connId item, s'.main = .sendingWs frame after →
      readItem connId frame = some item → s.main = .sendingWs frame after) : Known s' where
  queue item hmem := hids _ (h.queue item (hqueue ▸ hmem))
  main frame after connId item hsending hitem :=
    hids _ (h.main frame after connId item (hmain _ _ _ _ hsending hitem) hitem)

theorem Known.offered (h : Known s) {k : ℕ} {c : Conn} {f : Conn → Conn} {data : Bytes}
    {tcpOut : Chan 256 (ConnId × Bytes)} (hconn : s.conns[k]? = some c)
    (hid : ∀ c, (f c).connId = c.connId)
    (hqueue : tcpOut.queue = s.tcpOut.queue ++ [(c.connId, data)]) :
    Known ({ s with tcpOut }.modifyConn k f) := by
  have hids : ({ s with tcpOut }.modifyConn k f).connIds = s.connIds := modifyConn_connIds hid
  refine ⟨fun item hmem => ?_, ?_⟩
  · rw [hids]
    rw [modifyConn, hqueue, mem_append, mem_singleton] at hmem
    rcases hmem with hold | rfl
    · exact h.queue item hold
    · exact mem_map_of_mem (mem_of_getElem? hconn)
  · rw [hids]
    exact h.main

theorem Known.taken (h : Known s) {connId : ConnId} {data frame : Bytes} {after : AfterSend}
    {tcpOut : Chan 256 (ConnId × Bytes)}
    (hrecv : s.tcpOut.recv = some (some (connId, data), tcpOut))
    (hframe : itemFrame (connId, data) = frame) :
    Known { s with tcpOut, main := .sendingWs frame after } := by
  have hqueue := (queue_of_recv hrecv).1
  refine ⟨fun item hmem => h.queue item (hqueue ▸ mem_cons_of_mem _ hmem), ?_⟩
  rintro _ _ id item ⟨⟩ hitem
  have hid := readItem_itemFrame id connId data
  rw [hframe, hitem] at hid
  split at hid
  · rename_i heq
    exact heq ▸ h.queue (connId, data) (hqueue ▸ mem_cons_self)
  · cases hid

/-- Only spliced connections send anything to the Pi. -/
theorem Known.move (h : Known s) (hmove : Move s e s') : Known s' := by
  have hids : ∀ {s' : Handler}, s'.conns = s.conns → ∀ connId ∈ s.connIds, connId ∈ s'.connIds := by
    intro s' hconns connId hmem
    rwa [connIds, hconns, ← connIds]
  -- The main loop goes on without a frame of a connection.
  have hidle : ∀ {s' : Handler}, s'.tcpOut.queue = s.tcpOut.queue →
      (∀ connId ∈ s.connIds, connId ∈ s'.connIds) →
      (∀ frame after, s'.main ≠ .sendingWs frame after) → Known s' :=
    fun hqueue hids hmain => h.keep hqueue hids fun _ _ _ _ hsending => absurd hsending (hmain _ _)
  have hother : ∀ {s' : Handler}, s'.tcpOut.queue = s.tcpOut.queue →
      s'.connIds = s.connIds → s'.main = s.main → Known s' := by
    intro s' hqueue hids hmain
    exact h.keep hqueue (fun _ hmem => hids ▸ hmem) fun _ _ _ _ hsending _ => hmain ▸ hsending
  cases hmove with
  | leave | deliver | dropClone | joined => exact hidle rfl (hids rfl) (by simp)
  | splice hmain =>
    refine hidle (SamePipe.splice _ _ _).queue (fun connId hmem => ?_) ?_
    · rw [splice_connIds]
      exact mem_append_left _ hmem
    · simp [splice_rest.2.2, took, hmain]
  | lateReady hmain | ignored hmain => exact hidle rfl (hids rfl) (by simp [took, hmain])
  | closedByPi hmain =>
    refine hidle (SamePipe.removeActive _ _).queue (fun connId hmem => ?_) ?_
    · rw [removeActive_connIds]
      exact hmem
    · simp [removeActive_rest.2.2, took, hmain]
  | ping =>
    refine h.keep rfl (hids rfl) ?_
    rintro _ _ connId item ⟨⟩ hitem
    rw [readItem_encodePong] at hitem
    cases hitem
  | drop hmain =>
    refine hidle (SamePipe.requested _ _).queue (hids (requested_rest _).2) ?_
    simp [(SamePipe.requested s _).main, hmain]
  | announce =>
    refine h.keep (SamePipe.requested _ _).queue (hids (requested_rest _).2) ?_
    rintro _ _ connId item ⟨⟩ hitem
    rw [readItem_encodeConnect] at hitem
    cases hitem
  | takeData hmain hrecv hdata => exact h.taken hrecv (if_neg hdata)
  | takeEof hmain hrecv => exact h.taken hrecv (if_pos rfl)
  | queued now hmain hsend =>
    rename_i frame after ok wsOut
    have hafter := SamePipe.afterSend { s with wsOut, main := .selecting } ok now after
    refine hidle hafter.queue (fun connId hmem => ?_) (by simp [hafter.main])
    cases after with
    | resume => exact hmem
    | expectReady =>
      cases ok with
      | true | false => exact hmem
    | forget =>
      rw [afterSend, removeActive_connIds]
      exact hmem
  | streamSent =>
    refine hidle rfl (fun connId hmem => ?_) (by simp [modifyConn])
    rw [modifyConn_connIds]
    · exact hmem
    · exact fun _ => rfl
  | finish =>
    refine ⟨fun item hmem => ?_, ?_⟩
    · cases hmem
    · rintro _ _ _ _ ⟨⟩
  | readSent hconn _ _ hsend | eofSent hconn _ hsend =>
    exact h.offered hconn (fun _ => rfl) (queue_of_send hsend).1
  | sweep | arrive | handOver | wsOther | wsEnd | take | written | registry =>
    exact hother rfl rfl rfl
  | read | readEnd | readLost | receive | receiveEnd | write | writeFails =>
    exact hother rfl (modifyConn_connIds fun _ => rfl) rfl

end

variable {s : Handler} {steps : List Step}

def Event.handledFrame : Event → Option Bytes
  | .handled frame => some frame
  | _ => none

def Event.arrivedFrame : Event → Option Bytes
  | .arrived frame => some frame
  | _ => none

/-- The frame of the Pi that the WebSocket task wants to hand over. -/
def wsHeld : Ws → List Bytes
  | .sendingPi frame => [frame]
  | _ => []

/-- The frames of the Pi that have arrived and that the main loop has still to handle. -/
def arriving (s : Handler) : List Bytes := s.fromPi.queue ++ wsHeld s.ws

/-- The main loop handles the frames of the Pi as they have arrived, and in this order. None is lost
before it returns. -/
structure Inward (handled arrived : List Bytes) (s : Handler) : Prop where
  deaf : s.fromPi.receiving = false → s.main = .returned
  kept : s.main ≠ .returned → handled ++ s.arriving = arrived
  first : handled <+: arrived

section

variable {s' : Handler} {handled arrived : List Bytes}

theorem wsHeld_eq_nil {ws : Ws} (h : ∀ frame, ws ≠ .sendingPi frame) : wsHeld ws = [] := by
  unfold wsHeld
  split
  · exact absurd rfl (h _)
  · rfl

theorem Inward.quiet (h : Inward handled arrived s) (harriving : s'.arriving = s.arriving)
    (hreceiving : s'.fromPi.receiving = s.fromPi.receiving)
    (hmain : s'.main = .returned ↔ s.main = .returned) :
    Inward (handled ++ []) (arrived ++ []) s' := by
  rw [append_nil, append_nil]
  refine ⟨?_, ?_, h.first⟩
  · rw [hreceiving, hmain]
    exact h.deaf
  · rw [Ne, hmain, harriving]
    exact h.kept

/-- The main loop takes the frame that has waited longest. -/
theorem Inward.handle {frame : Bytes} {fromPi : Chan 256 Bytes} (h : Inward handled arrived s)
    (hmain : s.main = .selecting) (hrecv : s.fromPi.recv = some (some frame, fromPi))
    (hfromPi : s'.fromPi = fromPi) (hws : s'.ws = s.ws) :
    Inward (handled ++ [frame]) (arrived ++ []) s' := by
  have hopen : s.main ≠ .returned := by simp [hmain]
  obtain ⟨hqueue, hreceiving⟩ := queue_of_recv hrecv
  have hnext : handled ++ [frame] ++ s'.arriving = arrived := by
    rw [← h.kept hopen, arriving, arriving, hqueue, hfromPi, hws]
    simp
  rw [append_nil]
  refine ⟨fun hdeaf => absurd (h.deaf ?_) hopen, fun _ => hnext, ⟨_, hnext⟩⟩
  rw [← hreceiving, ← hfromPi]
  exact hdeaf

/-- A frame of the Pi moves from the socket to the main loop and overtakes no other. -/
theorem Inward.move {e : Option Event} (h : Inward handled arrived s) (hmove : Move s e s') :
    Inward (handled ++ e.toList.filterMap Event.handledFrame)
      (arrived ++ e.toList.filterMap Event.arrivedFrame) s' := by
  cases hmove with
  | splice hmain hframe hpending hrecv =>
    exact h.handle hmain hrecv (removeActive_fromPi _ _) (SamePipe.splice _ _ _).ws
  | closedByPi hmain hframe hrecv =>
    exact h.handle hmain hrecv (removeActive_fromPi _ _) (SamePipe.removeActive _ _).ws
  | lateReady hmain hframe hpending hrecv | ignored hmain hframe hrecv | ping hmain hframe hrecv
  | deliver hmain hframe hpayload hactive hrecv => exact h.handle hmain hrecv rfl rfl
  | drop | announce hmain =>
    have hsame := SamePipe.requested s
    have hfromPi := requested_fromPi s
    refine h.quiet ?_ (congrArg receiving (hfromPi _)) ?_
    · show queue _ ++ wsHeld _ = _
      rw [hfromPi, (hsame _).ws]
      rfl
    · simp [(hsame _).main, *]
  | leave reason hmain | takeData hmain | takeEof hmain | streamSent hmain | dropClone hmain
  | joined hmain => exact h.quiet rfl rfl (by simp [hmain, modifyConn])
  | queued now hmain hsend =>
    rename_i frame after ok wsOut
    have hsame := SamePipe.afterSend { s with wsOut, main := .selecting } ok now after
    have hfromPi := afterSend_fromPi { s with wsOut, main := .selecting } ok now after
    refine h.quiet ?_ (congrArg receiving hfromPi) (by simp [hsame.main, hmain])
    rw [arriving, hfromPi, hsame.ws, arriving]
  -- What still waits is lost.
  | finish =>
    refine ⟨fun _ => rfl, fun hopen => absurd rfl hopen, ?_⟩
    simpa using h.first
  | arrive hws =>
    have hheld : wsHeld s.ws = [] := by rw [hws]; rfl
    refine ⟨h.deaf, fun hopen => ?_, ?_⟩
    · show handled ++ [] ++ (s.fromPi.queue ++ [_]) = arrived ++ [_]
      rw [← h.kept hopen, arriving, hheld]
      simp
    · show handled ++ [] <+: arrived ++ [_]
      rw [append_nil]
      exact h.first.trans (prefix_append _ _)
  | handOver hws hsend =>
    refine h.quiet ?_ (receiving_of_send hsend) Iff.rfl
    simp [arriving, wsHeld, hws, (queue_of_send hsend).1]
  | wsOther ws hdone hbefore hafter hlive hidle hfree =>
    refine h.quiet ?_ rfl Iff.rfl
    rw [arriving, arriving, wsHeld_eq_nil hidle, wsHeld_eq_nil hfree]
  | wsEnd hdone hbefore hheld =>
    by_cases hfree : ∀ frame, s.ws ≠ .sendingPi frame
    · refine h.quiet ?_ rfl Iff.rfl
      rw [arriving, arriving, wsHeld_eq_nil hfree]
      rfl
    · -- Only a main loop that has returned takes no frame.
      obtain ⟨frame, hws⟩ := not_forall_not.mp hfree
      have hreturned := h.deaf (hheld frame hws)
      refine ⟨fun _ => hreturned, fun hopen => absurd hreturned hopen, ?_⟩
      simpa using h.first
  | take hws hrecv | written wire hws =>
    refine h.quiet ?_ rfl Iff.rfl
    rw [arriving, arriving, hws]
    rfl
  | _ => exact h.quiet rfl rfl Iff.rfl

end

theorem inward_of_run (hrun : system.run .start steps = some s) :
    Inward ((trace steps).filterMap Event.handledFrame) ((trace steps).filterMap Event.arrivedFrame)
      s := by
  refine moves_invariant (I := fun events s => Inward (events.filterMap Event.handledFrame)
    (events.filterMap Event.arrivedFrame) s) ⟨by rintro ⟨⟩, fun _ => rfl, nil_prefix⟩
    (fun h hmove => ?_) hrun
  rw [filterMap_append, filterMap_append]
  exact h.move hmove

/-! ## What the phases tell -/

section

variable {connId : ConnId} {events : List Event}

end

/-! ## Whole runs -/

theorem handed_of_run (hrun : system.run .start steps = some s)
    (hfew : taken (trace steps) ≤ 2 ^ 32) : AllHanded (trace steps) s := by
  have hinv : taken (trace steps) ≤ 2 ^ 32 →
      Numbered (taken (trace steps)) s ∧ AllHanded (trace steps) s := by
    refine moves_invariant (I := fun events s => taken events ≤ 2 ^ 32 →
      Numbered (taken events) s ∧ AllHanded events s)
      (fun _ => ⟨numbered_start, ?_, fun _ _ => rfl⟩) (fun {events s e s'} ih hmove hle => ?_) hrun
    · rintro _ _ ⟨⟩
    · rw [taken_append] at hle ⊢
      obtain ⟨hnumbered, hhanded⟩ := ih (Nat.le_trans (Nat.le_add_right _ _) hle)
      refine ⟨hnumbered.move hmove ?_, hhanded.move hnumbered hmove⟩
      rintro connId rfl
      exact hle
  exact (hinv hfew).2

variable {after before : List Event} {frame : Bytes} {connId : ConnId} {item : Item}

/-- A byte of the client is sent to the Pi, and two bytes of the Pi are written to the client. -/
def sampleBothWays : List Step :=
  sampleSpliced ++ [.conn 0 (.read (some [1])), .conn 0 .readSent, .main .streamItem,
    .main (.sent 0), .ws .take, .ws (.written true), .ws (.message (.binary (encodeData 0 [2, 3]))),
    .ws .sentToPi, .main .piFrame, .main .streamSent, .conn 0 .receive, .conn 0 (.write none)]

/-- What was read from a client is sent, on the way or held, in its order, while the WebSocket task
and the reader are there; and so is what was handled for the client while its writer is. Of what
has arrived from the Pi nothing is lost before it is handled, until the main loop has returned. -/
theorem bytes_conserved {steps : List Step} {s : Handler}
    (hrun : system.run .start steps = some s) (hfew : taken (trace steps) < 2 ^ 32) {k : ℕ}
    {c : Conn} (hc : s.conns[k]? = some c) :
    (s.ws ≠ .done → c.reader ≠ .done → ∃ chunks : List Bytes,
      sentItems c.connId (trace steps) ++ s.pipe c.connId = chunks.map .data ∧
        chunks.flatten ++ c.reader.held = c.fromClient) ∧
    (c.writer ≠ .done → c.toClient ++ c.writer.held ++ c.toWriter.queue.flatten ++ s.onWay k =
      (inbound c.connId (trace steps)).bytes) ∧
    (s.main ≠ .returned → (trace steps).filterMap Event.handledFrame ++ s.arriving =
      (trace steps).filterMap Event.arrivedFrame) := by
  refine ⟨fun hws hreader => ?_, ((tracked_of_run hrun hfew.le).fed k c hc).live,
    (inward_of_run hrun).kept⟩
  obtain ⟨chunks, hitems, hbytes⟩ := ((handed_of_run hrun hfew.le).conn hc).live hreader
  refine ⟨chunks, ?_, hbytes⟩
  have hopen : s.wsOut.receiving = true := by
    simpa [(wired_of_run hrun).gone] using hws
  rw [← hitems]
  exact (flow_of_run c.connId (@wired_of_run [] .start rfl) hrun).2 hopen

theorem bytes_conserved_sample : ∃ s c, ∃ chunks : List Bytes,
      system.run .start sampleBothWays = some s ∧ s.conns[0]? = some c ∧
      sentItems c.connId (trace sampleBothWays) ++ s.pipe c.connId = chunks.map .data ∧
      chunks.flatten ++ c.reader.held = c.fromClient ∧
      (trace sampleBothWays).filterMap Event.handledFrame ++ s.arriving =
        (trace sampleBothWays).filterMap Event.arrivedFrame := by
  have hrun := system.run_eq_some_runD
    (by decide +kernel : (system.run .start sampleBothWays).isSome = true)
  have hfew : taken (trace sampleBothWays) < 2 ^ 32 :=
    (by decide +kernel : taken (trace sampleBothWays) = 1).symm ▸ by decide
  obtain ⟨hsent, -, harrived⟩ := bytes_conserved hrun hfew (k := 0) rfl
  obtain ⟨chunks, hitems, hbytes⟩ := hsent nofun nofun
  exact ⟨_, _, chunks, hrun, rfl, hitems, hbytes, harrived nofun⟩

end Handler

end Wardnet.Tunnel
