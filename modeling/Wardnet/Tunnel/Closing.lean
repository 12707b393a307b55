/-
# A CLOSE from the Pi

A CLOSE removes the connection from the active ones, so that its writer ends once it has written
what was queued. It does nothing to a connection that is still pending, which a READY then
splices, and nothing to the reader, which goes on sending what the client sends until the client
closes. So a CLOSE ends a connection exactly if it is not pending and the client has closed
before.
-/

import Wardnet.Tunnel.ConnIds
import Wardnet.Tunnel.Flow

namespace Wardnet.Tunnel

open Base List Option

/-- The reader has read to the end of its stream. -/
def Conn.ReadToEnd (c : Conn) : Prop := c.reader = .sending [] ∨ c.reader = .done

theorem Conn.ReadToEnd.not_reading {c : Conn} (h : c.ReadToEnd) : c.reader ≠ .reading := by
  intro hreader
  rcases h with h | h
  · cases hreader.symm.trans h
  · cases hreader.symm.trans h

theorem Conn.ReadToEnd.eq_nil {c : Conn} {data : Bytes} (h : c.ReadToEnd)
    (hreader : c.reader = .sending data) : data = [] := by
  rcases h with h | h
  · cases hreader.symm.trans h
    rfl
  · cases hreader.symm.trans h

def Item.payload : Item → Option Bytes
  | .data payload => some payload
  | .close => none

namespace Handler

/-! ## The end of a connection -/

def queuedData (s : Handler) (connId : ConnId) : List Bytes :=
  (s.pipe connId).filterMap Item.payload

/-- The payload of a DATA frame of a connection that is given to the socket. -/
def Event.sentData (connId : ConnId) (e : Event) : Option Bytes :=
  (e.sentItem connId).bind Item.payload

/-- The writer of a connection ends by its own steps: it takes what is queued, writes it, and does
not wait for the main loop. -/
def WriterEnds (s : Handler) (k : ℕ) : Prop :=
  ∃ steps : List ConnStep, (∀ step ∈ steps, step = .receive ∨ step = .write none) ∧
    ∃ t c, system.run s (steps.map (.conn k)) = some t ∧ t.conns[k]? = some c ∧ c.writer = .done

/-- The connection is over: it is neither pending nor active, and both halves of its stream are
given up. -/
structure Over (connId : ConnId) (s : Handler) : Prop where
  notPending : s.pending.contains connId = false
  notActive : s.active.contains connId = false
  readHalf : ∀ c ∈ s.conns, c.connId = connId → c.ReadToEnd
  writeHalf : ∀ k c, s.conns[k]? = some c → c.connId = connId → s.WriterEnds k

/-- From here on, and until the id is given out again, the connection is over, and no DATA is sent
for it but what was queued. -/
def Ended (connId : ConnId) (s : Handler) : Prop :=
  ∀ steps t, system.run s steps = some t → .taken connId ∉ system.observed seen s steps →
    Over connId t ∧
      (system.observed seen s steps).filterMap (Event.sentData connId) <+: s.queuedData connId

/-! ## The writer -/

variable {s : Handler} {k : ℕ} {c c' : Conn} {connId : ConnId}

theorem connStep_receive {data : Bytes} {rest : List Bytes} (hconn : s.conns[k]? = some c)
    (hwriter : c.writer = .receiving) (hqueue : c.toWriter.queue = data :: rest) :
    system.step s (.conn k .receive) = some (s.modifyConn k fun c' =>
      { c' with toWriter := c.toWriter.pop, writer := .writing data }) := by
  simp [system, connStep, hconn, hwriter, Chan.recv_of_cons hqueue]

theorem connStep_receiveEnd (hconn : s.conns[k]? = some c) (hwriter : c.writer = .receiving)
    (hqueue : c.toWriter.queue = []) (hsenders : c.toWriter.senders = 0) :
    system.step s (.conn k .receive) = some (s.modifyConn k fun c' =>
      { c' with toWriter := c.toWriter.dropReceiver, writer := .done }) := by
  simp [system, connStep, hconn, hwriter, Chan.recv, hqueue, hsenders]

theorem connStep_write {data : Bytes} (hconn : s.conns[k]? = some c)
    (hwriter : c.writer = .writing data) :
    system.step s (.conn k (.write none)) = some (s.modifyConn k fun c' =>
      { c' with writer := .receiving, toClient := c'.toClient ++ data }) := by
  simp [system, connStep, hconn, hwriter]

theorem WriterEnds.step {s' : Handler} {step : ConnStep}
    (hstep : system.step s (.conn k step) = some s') (hkind : step = .receive ∨ step = .write none)
    (h : s'.WriterEnds k) : s.WriterEnds k := by
  obtain ⟨steps, hsteps, t, c, hrun, hc, hdone⟩ := h
  refine ⟨step :: steps, ?_, t, c, ?_, hc, hdone⟩
  · rintro step' hmem
    rcases mem_cons.mp hmem with rfl | hmem
    · exact hkind
    · exact hsteps step' hmem
  · exact system.run_cons_eq_some.mpr ⟨s', hstep, hrun⟩

theorem modifyConn_self {f : Conn → Conn} (hconn : s.conns[k]? = some c) :
    (s.modifyConn k f).conns[k]? = some (f c) := by
  rw [modifyConn_getElem?, hconn, map_some, if_pos rfl]

/-- A writer that waits in vain has nothing left to do but what is queued. -/
theorem writerEnds_of_receiving {queue : List Bytes} (hconn : s.conns[k]? = some c)
    (hsenders : c.toWriter.senders = 0) (hwriter : c.writer = .receiving)
    (hqueue : c.toWriter.queue = queue) : s.WriterEnds k := by
  induction queue generalizing s c with
  | nil =>
    refine .step (connStep_receiveEnd hconn hwriter hqueue hsenders) (.inl rfl) ?_
    exact ⟨[], by simp, _, _, rfl, modifyConn_self hconn, rfl⟩
  | cons data rest ih =>
    refine .step (connStep_receive hconn hwriter hqueue) (.inl rfl) ?_
    have hwriting := modifyConn_self (f := fun c' =>
      { c' with toWriter := c.toWriter.pop, writer := .writing data }) hconn
    refine .step (connStep_write hwriting rfl) (.inr rfl) ?_
    refine ih (modifyConn_self hwriting) hsenders rfl ?_
    show c.toWriter.queue.tail = rest
    rw [hqueue, tail_cons]

theorem writerEnds_of_senders (hconn : s.conns[k]? = some c) (hsenders : c.toWriter.senders = 0) :
    s.WriterEnds k := by
  cases hwriter : c.writer with
  | receiving => exact writerEnds_of_receiving hconn hsenders hwriter rfl
  | writing data =>
    refine .step (connStep_write hconn hwriter) (.inr rfl) ?_
    exact writerEnds_of_receiving (modifyConn_self hconn) hsenders rfl rfl
  | done => exact ⟨[], by simp, s, c, rfl, hconn, hwriter⟩

/-! ## Until the id is given out again -/

theorem mem_modifyConn {f : Conn → Conn} (h : c' ∈ (s.modifyConn k f).conns) :
    c' ∈ s.conns ∨ ∃ c, s.conns[k]? = some c ∧ c' = f c := by
  obtain ⟨i, hi⟩ := mem_iff_getElem?.mp h
  rw [modifyConn_getElem?] at hi
  obtain ⟨c, hc, rfl⟩ := map_eq_some_iff.mp hi
  split
  · rename_i hk
    subst hk
    exact .inr ⟨c, hc, rfl⟩
  · exact .inl (mem_of_getElem? hc)

theorem mem_removeActive (h : c' ∈ (s.removeActive connId).conns) :
    ∃ c ∈ s.conns, c.connId = c'.connId ∧ c.reader = c'.reader := by
  obtain ⟨i, hi⟩ := mem_iff_getElem?.mp h
  rw [removeActive_getElem?] at hi
  obtain ⟨c, hc, rfl⟩ := map_eq_some_iff.mp hi
  refine ⟨c, mem_of_getElem? hc, ?_⟩
  split
  · exact ⟨rfl, rfl⟩
  · exact ⟨rfl, rfl⟩

theorem exists_mem_removeActive (h : c ∈ s.conns) :
    ∃ c' ∈ (s.removeActive connId).conns, c'.connId = c.connId ∧ c'.reader = c.reader := by
  obtain ⟨i, hi⟩ := mem_iff_getElem?.mp h
  have hi' := @removeActive_getElem? s connId i
  rw [hi, map_some] at hi'
  refine ⟨_, mem_of_getElem? hi', ?_⟩
  split
  · exact ⟨rfl, rfl⟩
  · exact ⟨rfl, rfl⟩

theorem mem_returnFromRun (h : c' ∈ s.returnFromRun.conns) :
    ∃ c ∈ s.conns, c.connId = c'.connId ∧ c.reader = c'.reader := by
  obtain ⟨i, hi⟩ := mem_iff_getElem?.mp h
  rw [returnFromRun, getElem?_mapIdx] at hi
  obtain ⟨c, hc, rfl⟩ := map_eq_some_iff.mp hi
  refine ⟨c, mem_of_getElem? hc, ?_⟩
  split
  · exact ⟨rfl, rfl⟩
  · exact ⟨rfl, rfl⟩

/-- The id is not in the tables, and the clients of all its connections have closed. -/
structure Shut (connId : ConnId) (s : Handler) : Prop where
  notPending : s.pending.contains connId = false
  notAnnounced : s.announced ≠ some connId
  notActive : s.active.get? connId = none
  read : ∀ c ∈ s.conns, c.connId = connId → c.ReadToEnd

section

variable {connId : ConnId} {s s' : Handler} {e : Option Event}

section

variable (h : Shut connId s)
include h

theorem Shut.over (hlinked : Linked s) : Over connId s where
  notPending := h.notPending
  notActive := by rw [Store.contains, h.notActive, isSome_none]
  readHalf := h.read
  writeHalf k c hc hid := by
    refine writerEnds_of_senders hc ?_
    rcases hlinked.senders hc with hzero | ⟨-, hactive⟩
    · exact hzero
    · rw [hid, h.notActive] at hactive
      cases hactive

theorem Shut.keep
    (hpending : s'.pending.contains connId = true → s.pending.contains connId = true ∨ s.announced =
      some connId) (hannounced : s'.announced = some connId → s.announced = some connId)
    (hactive : ∀ k, s'.active.get? connId = some k → s.active.get? connId = some k)
    (hread : ∀ c' ∈ s'.conns, c'.connId = connId → c'.ReadToEnd ∨ ∃ c ∈ s.conns, c.connId = connId ∧
      c.reader = c'.reader) : Shut connId s' where
  notPending := by
    by_contra hin
    rcases hpending (eq_true_of_ne_false hin) with hold | hann
    · rw [h.notPending] at hold
      cases hold
    · exact h.notAnnounced hann
  notAnnounced hann := h.notAnnounced (hannounced hann)
  notActive := by
    rw [eq_none_iff_forall_ne_some]
    intro k hget
    have hold := hactive k hget
    rw [h.notActive] at hold
    cases hold
  read c' hc' hid := by
    rcases hread c' hc' hid with hend | ⟨c, hc, hcid, hreader⟩
    · exact hend
    · rw [Conn.ReadToEnd, ← hreader]
      exact h.read c hc hcid

theorem Shut.conn {k : ℕ} {f : Conn → Conn} (tcpOut : Chan 256 (ConnId × Bytes))
    (hid : ∀ c, (f c).connId = c.connId)
    (hread : ∀ c, s.conns[k]? = some c → c.ReadToEnd → (f c).ReadToEnd) :
    Shut connId ({ s with tcpOut }.modifyConn k f) := by
  refine h.keep .inl id (fun _ => id) fun c' hc' hconnId => ?_
  rcases mem_modifyConn hc' with hold | ⟨c, hc, rfl⟩
  · exact .inr ⟨c', hold, hconnId, rfl⟩
  · rw [hid] at hconnId
    exact .inl (hread c hc (h.read c (mem_of_getElem? hc) hconnId))

theorem Shut.removeActive (id : ConnId) : Shut connId (s.removeActive id) := by
  obtain ⟨hpending, -, hmain⟩ := @removeActive_rest s id
  refine h.keep ?_ ?_ ?_ ?_
  · rw [hpending]
    exact .inl
  · rw [announced, hmain]
    exact fun hann => hann
  · intro k hget
    rw [removeActive_get?] at hget
    split at hget
    · cases hget
    · exact hget
  · intro c' hc' hid
    obtain ⟨c, hc, hsame, hreader⟩ := mem_removeActive hc'
    exact .inr ⟨c, hc, hsame.trans hid, hreader⟩

theorem Shut.splice {id : ConnId} (stream : ℕ) (hpending : s.pending.contains id = true) :
    Shut connId (s.splice id stream) := by
  have hne : connId ≠ id := by
    rintro rfl
    rw [h.notPending] at hpending
    cases hpending
  obtain ⟨hpending', -, hmain⟩ := @splice_rest s id stream
  refine h.keep ?_ ?_ ?_ ?_
  · rw [hpending', Store.contains_erase, Bool.and_eq_true]
    exact fun hin => .inl hin.1
  · rw [announced, hmain]
    exact fun hann => hann
  · intro k hget
    rwa [splice_get?, if_neg hne] at hget
  · intro c' hc' hid
    rcases mem_append.mp hc' with hold | hnew
    · obtain ⟨c, hc, hsame, hreader⟩ := mem_removeActive hold
      exact .inr ⟨c, hc, hsame.trans hid, hreader⟩
    · rw [mem_singleton.mp hnew] at hid
      exact absurd hid.symm hne

theorem Shut.requested (hne : connId ≠ s.nextId) (forward : Chan 64 ForwardRequest) {main : Main}
    (hannounced : ({ s.requested forward with main } : Handler).announced = some connId → connId =
      s.nextId) : Shut connId { s.requested forward with main } := by
  refine h.keep ?_ (fun hann => absurd (hannounced hann) hne) ?_ ?_
  · rw [requested_eq]
    intro hin
    have hold := (@evict_pending_contains s s.nextId connId).symm.trans hin
    exact .inl (Bool.and_eq_true_iff.mp hold).1
  · rw [(requested_rest forward).1]
    exact fun _ => id
  · intro c' hc' hid
    rw [(requested_rest forward).2] at hc'
    exact .inr ⟨c', hc', hid, rfl⟩

theorem Shut.afterSend {frame : Bytes} {after : AfterSend} (hmain : s.main = .sendingWs frame after)
    (ok : Bool) (wsOut : Chan 256 Bytes) (now : Int) :
    Shut connId ({ s with wsOut, main := .selecting }.afterSend ok now after) := by
  have hselecting : Shut connId { s with wsOut, main := .selecting } :=
    h.keep .inl nofun (fun _ => id) fun c' hc' hid => .inr ⟨c', hc', hid, rfl⟩
  cases after with
  | resume => exact hselecting
  | forget id => exact hselecting.removeActive id
  | expectReady id stream =>
    cases ok with
    | false => exact hselecting
    | true =>
      refine h.keep (fun hin => ?_) nofun (fun _ hget => hget)
        fun c' hc' hid => .inr ⟨c', hc', hid, rfl⟩
      dsimp only [Handler.afterSend] at hin
      rw [if_pos rfl, Store.contains_insert, Bool.or_eq_true, decide_eq_true_iff] at hin
      rcases hin with rfl | hold
      · exact .inr (by rw [announced, hmain])
      · exact .inl hold

/-- Until its id is given out again, a closed connection stays closed. -/
theorem Shut.move (hmove : Move s e s') (hkept : e ≠ some (.taken connId)) : Shut connId s' := by
  have hsame : ∀ {s' : Handler}, s'.pending = s.pending → s'.active = s.active →
      s'.conns = s.conns → (s'.announced = none ∨ s'.main = s.main) → Shut connId s' := by
    intro s' hpending hactive hconns hmain
    refine h.keep (by rw [hpending]; exact .inl) ?_ (by rw [hactive]; exact fun _ => id) ?_
    · intro hann
      rcases hmain with hnone | hmain
      · rw [hnone] at hann
        cases hann
      · rwa [announced, hmain] at hann
    · intro c' hc' hid
      exact .inr ⟨c', hconns ▸ hc', hid, rfl⟩
  have htook : ∀ (frame : Bytes) (fromPi : Chan 256 Bytes), Shut connId (s.took frame fromPi) :=
    fun _ _ => hsame rfl rfl rfl (.inr rfl)
  cases hmove with
  | splice hmain hframe hpending =>
    exact (htook _ _).splice _ (Store.contains_eq_true_iff.mpr ⟨_, hpending⟩)
  | lateReady | arrive | handOver | wsOther | wsEnd | take | written | registry =>
    exact hsame rfl rfl rfl (.inr rfl)
  | closedByPi => exact (htook _ _).removeActive _
  | ignored => exact htook _ _
  | leave | deliver | ping | takeData | takeEof | dropClone | joined =>
    exact hsame rfl rfl rfl (.inl rfl)
  | drop hmain hfull =>
    have hne : connId ≠ s.nextId := fun heq => hkept (by rw [heq])
    refine h.requested hne _ fun hann => ?_
    exact absurd ((requested_announced hmain _).symm.trans hann) (by simp)
  | announce hmain hroom =>
    have hne : connId ≠ s.nextId := fun heq => hkept (by rw [heq])
    refine h.requested hne _ fun hann => ?_
    exact (some.inj hann).symm
  | sweep now hmain =>
    refine h.keep (fun hin => ?_) id (fun _ => id) fun c' hc' hid => .inr ⟨c', hc', hid, rfl⟩
    dsimp only [Handler.sweep] at hin
    rw [Store.contains_retain_key, Bool.and_eq_true] at hin
    exact .inl hin.1
  | queued now hmain hsend => exact h.afterSend hmain _ _ _
  | streamSent hmain =>
    have hselecting : Shut connId { s with main := .selecting } :=
      hsame rfl rfl rfl (.inl rfl)
    exact hselecting.conn _ (fun _ => rfl) fun _ _ hend => hend
  | finish hmain =>
    refine h.keep (by rintro ⟨⟩) (by rintro ⟨⟩) (by rintro _ ⟨⟩) fun c' hc' hid => ?_
    obtain ⟨c, hc, hsame, hreader⟩ := mem_returnFromRun hc'
    exact .inr ⟨c, hc, hsame.trans hid, hreader⟩
  | read hconn hreader hdata =>
    refine h.conn _ (fun _ => rfl) fun c hc hend => ?_
    rw [← some.inj (hconn.symm.trans hc)] at hend
    exact absurd hreader hend.not_reading
  | readEnd hconn hreader => exact h.conn _ (fun _ => rfl) fun _ _ _ => .inl rfl
  | readSent hconn hreader hdata =>
    refine h.conn _ (fun _ => rfl) fun c hc hend => ?_
    rw [← some.inj (hconn.symm.trans hc)] at hend
    exact absurd (hend.eq_nil hreader) hdata
  | eofSent | readLost => exact h.conn _ (fun _ => rfl) fun _ _ _ => .inr rfl
  | receive | receiveEnd | write | writeFails =>
    exact h.conn _ (fun _ => rfl) fun _ _ hend => hend

theorem Shut.offered (hmove : Move s e s') :
    (e.toList.filterMap (Event.offeredItem connId)).filterMap Item.payload = [] := by
  cases hmove with
  | readSent hconn hreader hdata hsend =>
    rename_i c data tcpOut
    by_cases hid : c.connId = connId
    · exact absurd ((h.read c (mem_of_getElem? hconn) hid).eq_nil hreader) hdata
    · simp [Event.offeredItem, hid]
  | eofSent hconn hreader hsend =>
    rename_i c tcpOut
    by_cases hid : c.connId = connId
    · simp [Event.offeredItem, hid, Item.ofBytes, Item.payload]
    · simp [Event.offeredItem, hid]
  | _ => rfl

end

end

theorem Shut.ended (h : Shut connId s) (hlinked : Linked s) (hwired : Wired s) :
    Ended connId s := by
  intro steps t hrun hkept
  have hinv := moves_invariant (I := fun events u => .taken connId ∉ events →
    Shut connId u ∧ Linked u ∧
      (events.filterMap (Event.offeredItem connId)).filterMap Item.payload = [])
    (fun _ => ⟨h, hlinked, rfl⟩) (fun {events u e u'} ih hmove hnot => ?_) hrun hkept
  · obtain ⟨hshut, hlinked', hoffered⟩ := hinv
    refine ⟨hshut.over hlinked', ?_⟩
    have hsent : (system.observed seen s steps).filterMap (Event.sentData connId) =
        ((system.observed seen s steps).filterMap (Event.sentItem connId)).filterMap
          Item.payload := by
      rw [filterMap_filterMap]
      rfl
    have hprefix := (flow_of_run connId hwired hrun).1.filterMap Item.payload
    rwa [filterMap_append, hoffered, append_nil, ← hsent] at hprefix
  · rw [mem_append, not_or] at hnot
    obtain ⟨hshut, hlinked', hoffered⟩ := ih hnot.1
    refine ⟨hshut.move hmove ?_, hlinked'.move hmove, ?_⟩
    · rintro rfl
      exact hnot.2 (mem_singleton.mpr rfl)
    · rw [filterMap_append, filterMap_append, hoffered, hshut.offered hmove]
      rfl

theorem Move.of_close {s' : Handler} {frame payload : Bytes}
    (hmove : Move s (some (.handled frame)) s')
    (hclose : readFrame frame = some (frameClose, connId, payload)) :
    s.main = .selecting ∧ ∃ fromPi, s' = (s.took frame fromPi).removeActive connId := by
  cases hmove with
  | closedByPi hmain hframe =>
    cases hclose.symm.trans hframe
    exact ⟨hmain, _, rfl⟩
  | splice hmain hframe | lateReady hmain hframe =>
    exact absurd (hclose.symm.trans hframe) (by simp [frameClose, frameReady])
  | deliver hmain hframe =>
    exact absurd (hclose.symm.trans hframe) (by simp [frameClose, frameData])
  | ping hmain hframe | ignored hmain hframe => exact absurd rfl (hframe _ _ _ hclose).2.1

/-- When the handler has processed a CLOSE the connection is over, with no more DATA sent than was
queued, exactly if it was not pending and its client had closed. -/
theorem pi_close_ends_iff {steps : List Step} {s s' : Handler} {frame payload : Bytes}
    {connId : ConnId} (hrun : system.run .start steps = some s)
    (hframe : s.fromPi.queue.head? = some frame)
    (hclose : readFrame frame = some (frameClose, connId, payload))
    (hstep : system.step s (.main .piFrame) = some s') :
    Ended connId s' ↔ s.pending.contains connId = false ∧
        ∀ c ∈ s.conns, c.connId = connId → c.ReadToEnd := by
  have hmove := step_move hstep
  have hseen : s.seen (.main .piFrame) = some (.handled frame) := by
    rw [seen, hframe, map_some]
  rw [hseen] at hmove
  obtain ⟨hmain, fromPi, rfl⟩ := hmove.of_close hclose
  obtain ⟨hpending, -, hmain'⟩ := @removeActive_rest (s.took frame fromPi) connId
  constructor
  · intro hended
    have hover := (hended [] _ rfl (by simp [System.observed])).1
    refine ⟨?_, fun c hc hid => ?_⟩
    · have hgone := hover.notPending
      rwa [hpending] at hgone
    · obtain ⟨c', hc', hsame, hreader⟩ :=
        @exists_mem_removeActive (s.took frame fromPi) c connId hc
      rw [Conn.ReadToEnd, ← hreader]
      exact hover.readHalf c' hc' (hsame.trans hid)
  · rintro ⟨hgone, hread⟩
    have hshut : Shut connId ((s.took frame fromPi).removeActive connId) := by
      refine ⟨?_, ?_, ?_, ?_⟩
      · rw [hpending]
        exact hgone
      · have hselecting : ((s.took frame fromPi).removeActive connId).main = .selecting :=
          hmain'.trans hmain
        simp [announced, hselecting]
      · rw [removeActive_get?, if_pos rfl]
      · intro c' hc' hid
        obtain ⟨c, hc, hsame, hreader⟩ := mem_removeActive hc'
        rw [Conn.ReadToEnd, ← hreader]
        exact hread c hc (hsame.trans hid)
    exact hshut.ended ((linked_of_run hrun).move hmove) ((wired_of_run hrun).move hmove)

/-! ## Runs -/

def sampleFrame (frame : Bytes) : List Step := [.ws (.message (.binary frame)), .ws .sentToPi]

/-- The client of a connection closes, and then the Pi sends CLOSE. -/
def sampleClosed : List Step :=
  sampleSpliced ++ [.conn 0 (.read none), .conn 0 .readSent] ++ sampleFrame (encodeClose 0)

/-- The CLOSE ends the connection. -/
theorem pi_close_ends_sample : ∃ s s', system.run .start sampleClosed = some s ∧
      system.step s (.main .piFrame) = some s' ∧ Ended 0 s' := by
  have hrun := system.run_eq_some_runD
    (by decide +kernel : (system.run .start sampleClosed).isSome = true)
  obtain ⟨s', hstep⟩ := isSome_iff_exists.mp (by decide +kernel :
    (system.step (system.runD .start sampleClosed) (.main .piFrame)).isSome = true)
  refine ⟨_, s', hrun, hstep,
    (pi_close_ends_iff hrun rfl (readFrame_encodeClose 0) hstep).mpr ⟨rfl, ?_⟩⟩
  intro c hc _
  obtain rfl := mem_singleton.mp hc
  exact .inr rfl

/-- The Pi sends CLOSE for a connection that is pending. -/
def sampleEarlyClose : List Step :=
  sampleAnnounced 0 ++ sampleFrame (encodeClose 0)

def sampleLateReady : List Step := sampleFrame sampleReady ++ [.main .piFrame]

/-- The Pi sends CLOSE for a connection whose client is still there. -/
def sampleHalfClosed : List Step := sampleSpliced ++ sampleFrame (encodeClose 0)

def sampleLateData : List Step :=
  [.conn 0 (.read (some [1])), .conn 0 .readSent, .main .streamItem, .main (.sent 0), .ws .take,
    .ws (.written true)]

/-- A connection that was closed while it was pending becomes active. And a byte that a client
sends after the CLOSE is sent to the Pi, while nothing was queued. -/
theorem pi_close_ends_counterexample : (∃ s s' t, system.run .start sampleEarlyClose = some s ∧
      s.fromPi.queue.head? = some (encodeClose 0) ∧
      system.step s (.main .piFrame) = some s' ∧ system.run s' sampleLateReady = some t ∧
      .taken 0 ∉ system.observed seen s' sampleLateReady ∧ t.active.contains 0 = true) ∧
    ∃ s s' t, system.run .start sampleHalfClosed = some s ∧
      s.fromPi.queue.head? = some (encodeClose 0) ∧
      system.step s (.main .piFrame) = some s' ∧ system.run s' sampleLateData = some t ∧
      .taken 0 ∉ system.observed seen s' sampleLateData ∧ s'.queuedData 0 = [] ∧
      (system.observed seen s' sampleLateData).filterMap (Event.sentData 0) = [[1]] := by
  constructor
  · have hclosed : (system.run .start (sampleEarlyClose ++ [.main .piFrame])).isSome = true := by
      decide +kernel
    have hready : (system.run .start
        ((sampleEarlyClose ++ [.main .piFrame]) ++ sampleLateReady)).isSome = true := by
      decide +kernel
    exact ⟨_, _, _, (system.run_runD_append hclosed).1, by decide +kernel,
      system.step_runD_concat hclosed, (system.run_runD_append hready).2, by decide +kernel,
      by decide +kernel⟩
  · have hclosed : (system.run .start (sampleHalfClosed ++ [.main .piFrame])).isSome = true := by
      decide +kernel
    have hdata : (system.run .start
        ((sampleHalfClosed ++ [.main .piFrame]) ++ sampleLateData)).isSome = true := by
      decide +kernel
    exact ⟨_, _, _, (system.run_runD_append hclosed).1, by decide +kernel,
      system.step_runD_concat hclosed, (system.run_runD_append hdata).2, by decide +kernel,
      by decide +kernel, by decide +kernel⟩

end Handler

end Wardnet.Tunnel
