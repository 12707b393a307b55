/-
# What a step of the tunnel can do

Every step of a tunnel is one of a few moves of its tasks. A move may be seen from outside: a
frame is taken from or given to the socket, a frame of the Pi is handled, one for the Pi is queued,
or new work is taken. The list of what was seen during a run is its trace. Invariants of the tunnel
are proved from the moves, and never from the step function.
-/

import Wardnet.Base.Trace
import Wardnet.Tunnel.Handler

namespace Wardnet.Tunnel

open Base Chan

/-! ## Frames -/

theorem fromBeBytes_beBytes32 (n : UInt32) :
    fromBeBytes (n >>> 24).toUInt8 (n >>> 16).toUInt8 (n >>> 8).toUInt8 n.toUInt8 = n := by
  have hbits : (fromBeBytes (n >>> 24).toUInt8 (n >>> 16).toUInt8 (n >>> 8).toUInt8
      n.toUInt8).toBitVec = ((n.toBitVec >>> 24).setWidth 8).setWidth 32 <<< 24 |||
          ((n.toBitVec >>> 16).setWidth 8).setWidth 32 <<< 16 |||
          ((n.toBitVec >>> 8).setWidth 8).setWidth 32 <<< 8 |||
          (n.toBitVec.setWidth 8).setWidth 32 := rfl
  rw [← UInt32.toBitVec_inj, hbits]
  ext i hi
  simp only [BitVec.getElem_or, BitVec.getElem_setWidth, BitVec.getElem_shiftLeft,
    BitVec.getLsbD_ushiftRight, BitVec.getLsbD_setWidth]
  -- Every bit is in one of the four bytes.
  have hbyte : i < 8 ∨ (8 ≤ i ∧ i < 16) ∨ (16 ≤ i ∧ i < 24) ∨ 24 ≤ i := by omega
  rcases hbyte with h | ⟨h, h'⟩ | ⟨h, h'⟩ | h
  · grind
  · grind
  · grind
  · grind

/-- The type, the connection and the payload of a frame, as `handle_pi_frame` reads them. -/
def readFrame : Bytes → Option (UInt8 × ConnId × Bytes)
  | frameType :: a :: b :: c :: d :: payload => some (frameType, fromBeBytes a b c d, payload)
  | _ => none

theorem readFrame_cons (frameType : UInt8) (connId : ConnId) (payload : Bytes) :
    readFrame (frameType :: beBytes32 connId ++ payload) = some (frameType, connId, payload) := by
  simp [beBytes32, readFrame, fromBeBytes_beBytes32]

@[simp]
theorem readFrame_encodeConnect (connId : ConnId) (destPort : UInt16) :
    readFrame (encodeConnect connId destPort) = some (frameConnect, connId, beBytes16 destPort) :=
  readFrame_cons ..

@[simp]
theorem readFrame_encodeData (connId : ConnId) (data : Bytes) :
    readFrame (encodeData connId data) = some (frameData, connId, data) :=
  readFrame_cons ..

@[simp]
theorem readFrame_encodeClose (connId : ConnId) :
    readFrame (encodeClose connId) = some (frameClose, connId, []) := by
  simpa [encodeClose] using readFrame_cons frameClose connId []

@[simp]
theorem readFrame_encodePong : readFrame encodePong = some (framePong, 0, []) := by
  simpa [encodePong] using readFrame_cons framePong 0 []

namespace Handler

/-! ## The parts of a step -/

def took (s : Handler) (frame : Bytes) (fromPi : Chan 256 Bytes) : Handler :=
  { s with fromPi, handled := s.handled ++ [frame] }

def evict (s : Handler) (connId : ConnId) : Handler :=
  if s.pending.contains connId then
    { s with
      pending := s.pending.erase connId
      pendingDeadlines := s.pendingDeadlines.erase connId }
  else s

def requested (s : Handler) (forward : Chan 64 ForwardRequest) : Handler :=
  { s with forward, nextId := s.nextId + 1 }.evict s.nextId

def splice (s : Handler) (connId : ConnId) (stream : ℕ) : Handler :=
  let s := { s with
    pendingDeadlines := s.pendingDeadlines.erase connId
    pending := s.pending.erase connId }.removeActive connId
  { s with
    active := s.active.insert connId s.conns.length
    conns := s.conns ++ [⟨connId, stream, .new, .reading, .receiving, [], []⟩]
    tcpOut := s.tcpOut.clone }

inductive Event
  /-- A frame of the Pi is handled. -/
  | handled (frame : Bytes)
  /-- A frame for the Pi is queued for the WebSocket task. -/
  | queued (frame : Bytes)
  /-- A frame is given to the socket. -/
  | sent (frame : Bytes)
  /-- A frame of the Pi is taken from the socket. -/
  | arrived (frame : Bytes)
  /-- An inbound connection is taken from the queue, with an id. -/
  | taken (connId : ConnId)
  /-- The main loop takes an item of a stream. -/
  | collected (connId : ConnId) (data : Bytes)
  /-- A reader hands bytes of its client to the main loop, or none at the end of the stream. -/
  | offered (connId : ConnId) (data : Bytes)
  deriving DecidableEq

/-- A frame of the Pi that the handler does nothing with: it is neither READY nor CLOSE, and if it
is DATA then it has no payload or its connection is not active. -/
def Ignored (s : Handler) (frame : Bytes) : Prop :=
  ∀ frameType connId payload, readFrame frame = some (frameType, connId, payload) →
    frameType ≠ frameReady ∧ frameType ≠ frameClose ∧
      (frameType = frameData → s.active.get? connId = none ∨ payload = [])

/-- Everything that a step of the tunnel can do, and what is seen of it. -/
inductive Move : Handler → Option Event → Handler → Prop
  /-- `run` leaves its loop. -/
  | leave {s : Handler} (reason : Exit) (hmain : s.main = .selecting) :
      Move s none { s with main := .left reason }
  /-- READY: a pending stream is spliced. -/
  | splice {s : Handler} {frame payload : Bytes} {fromPi : Chan 256 Bytes} {connId : ConnId}
      {stream : ℕ} (hmain : s.main = .selecting)
      (hframe : readFrame frame = some (frameReady, connId, payload))
      (hpending : s.pending.get? connId = some stream)
      (hrecv : s.fromPi.recv = some (some frame, fromPi)) :
      Move s (some (.handled frame)) ((s.took frame fromPi).splice connId stream)
  /-- READY for a connection that is not pending. -/
  | lateReady {s : Handler} {frame payload : Bytes} {fromPi : Chan 256 Bytes} {connId : ConnId}
      (hmain : s.main = .selecting)
      (hframe : readFrame frame = some (frameReady, connId, payload))
      (hpending : s.pending.get? connId = none)
      (hrecv : s.fromPi.recv = some (some frame, fromPi)) :
      Move s (some (.handled frame))
        { s.took frame fromPi with pendingDeadlines := s.pendingDeadlines.erase connId }
  /-- DATA: the payload is for the writer of the connection. -/
  | deliver {s : Handler} {frame payload : Bytes} {fromPi : Chan 256 Bytes} {connId : ConnId}
      {k : ℕ} (hmain : s.main = .selecting)
      (hframe : readFrame frame = some (frameData, connId, payload)) (hpayload : payload ≠ [])
      (hactive : s.active.get? connId = some k)
      (hrecv : s.fromPi.recv = some (some frame, fromPi)) :
      Move s (some (.handled frame)) { s.took frame fromPi with main := .sendingStream k payload }
  /-- CLOSE. -/
  | closedByPi {s : Handler} {frame payload : Bytes} {fromPi : Chan 256 Bytes} {connId : ConnId}
      (hmain : s.main = .selecting)
      (hframe : readFrame frame = some (frameClose, connId, payload))
      (hrecv : s.fromPi.recv = some (some frame, fromPi)) :
      Move s (some (.handled frame)) ((s.took frame fromPi).removeActive connId)
  /-- PING. -/
  | ping {s : Handler} {frame : Bytes} {fromPi : Chan 256 Bytes} (hmain : s.main = .selecting)
      (hframe : s.Ignored frame) (hrecv : s.fromPi.recv = some (some frame, fromPi)) :
      Move s (some (.handled frame))
        { s.took frame fromPi with main := .sendingWs encodePong .resume }
  | ignored {s : Handler} {frame : Bytes} {fromPi : Chan 256 Bytes} (hmain : s.main = .selecting)
      (hframe : s.Ignored frame) (hrecv : s.fromPi.recv = some (some frame, fromPi)) :
      Move s (some (.handled frame)) (s.took frame fromPi)
  /-- A request is dropped because too many are pending. -/
  | drop {s : Handler} {forward : Chan 64 ForwardRequest} (hmain : s.main = .selecting)
      (hfull : maxPending ≤ (s.requested forward).pending.size) :
      Move s (some (.taken s.nextId)) (s.requested forward)
  /-- A request is to be announced to the Pi. -/
  | announce {s : Handler} {forward : Chan 64 ForwardRequest} {req : ForwardRequest}
      (hmain : s.main = .selecting)
      (hroom : (s.requested forward).pending.size < maxPending) :
      Move s (some (.taken s.nextId)) { s.requested forward with
        main := .sendingWs (encodeConnect s.nextId req.destPort)
          (.expectReady s.nextId req.stream) }
  /-- Bytes of a client are to be sent to the Pi. -/
  | takeData {s : Handler} {connId : ConnId} {data : Bytes} {tcpOut : Chan 256 (ConnId × Bytes)}
      (hmain : s.main = .selecting)
      (hrecv : s.tcpOut.recv = some (some (connId, data), tcpOut)) (hdata : data ≠ []) :
      Move s (some (.collected connId data))
        { s with tcpOut, main := .sendingWs (encodeData connId data) .resume }
  /-- A client has closed. -/
  | takeEof {s : Handler} {connId : ConnId} {tcpOut : Chan 256 (ConnId × Bytes)}
      (hmain : s.main = .selecting) (hrecv : s.tcpOut.recv = some (some (connId, []), tcpOut)) :
      Move s (some (.collected connId []))
        { s with tcpOut, main := .sendingWs (encodeClose connId) (.forget connId) }
  | sweep {s : Handler} (now : Int) (hmain : s.main = .selecting) : Move s none (s.sweep now)
  /-- An awaited send to the Pi is over. -/
  | queued {s : Handler} {frame : Bytes} {after : AfterSend} {ok : Bool} {wsOut : Chan 256 Bytes}
      (now : Int) (hmain : s.main = .sendingWs frame after)
      (hsend : s.wsOut.send frame = some (ok, wsOut)) :
      Move s (some (.queued frame))
        ({ s with wsOut, main := .selecting }.afterSend ok now after)
  /-- An awaited send to a stream writer is over. -/
  | streamSent {s : Handler} {k : ℕ} {c : Conn} {data : Bytes} {ok : Bool}
      {toWriter : Chan 64 Bytes} (hmain : s.main = .sendingStream k data)
      (hconn : s.conns[k]? = some c) (hsend : c.toWriter.send data = some (ok, toWriter)) :
      Move s none ({ s with main := .selecting }.modifyConn k fun c => { c with toWriter })
  | dropClone {s : Handler} {reason : Exit} (hmain : s.main = .left reason) :
      Move s none { s with main := .awaitingWs reason, wsOut := s.wsOut.dropSender }
  | joined {s : Handler} {reason : Exit} (hmain : s.main = .awaitingWs reason)
      (hws : s.ws = .done) : Move s none { s with main := .cleaningUp reason }
  | finish {s : Handler} {reason : Exit} (hmain : s.main = .cleaningUp reason) :
      Move s none s.returnFromRun
  /-- The WebSocket task has taken a frame of the Pi. -/
  | arrive {s : Handler} {frame : Bytes} (hws : s.ws = .selecting) :
      Move s (some (.arrived frame)) { s with ws := .sendingPi frame }
  /-- The WebSocket task has handed the frame over to the main loop. -/
  | handOver {s : Handler} {frame : Bytes} {fromPi : Chan 256 Bytes}
      (hws : s.ws = .sendingPi frame) (hsend : s.fromPi.send frame = some (true, fromPi)) :
      Move s none { s with fromPi, ws := .selecting }
  /-- The WebSocket task does something else than to take, to hand over or to write a frame. -/
  | wsOther {s : Handler} (ws : Ws) (hdone : s.ws ≠ .done)
      (hbefore : ∀ frame, s.ws ≠ .writing (.binary frame))
      (hafter : ∀ frame, ws ≠ .writing (.binary frame)) (hlive : ws ≠ .done)
      (hidle : ∀ frame, ws ≠ .sendingPi frame) (hfree : ∀ frame, s.ws ≠ .sendingPi frame) :
      Move s none { s with ws }
  /-- The WebSocket task ends. It holds a frame of the Pi only if the main loop is gone. -/
  | wsEnd {s : Handler} (hdone : s.ws ≠ .done)
      (hbefore : ∀ frame, s.ws ≠ .writing (.binary frame))
      (hheld : ∀ frame, s.ws = .sendingPi frame → s.fromPi.receiving = false) :
      Move s none s.endWs
  | take {s : Handler} {frame : Bytes} {wsOut : Chan 256 Bytes} (hws : s.ws = .selecting)
      (hrecv : s.wsOut.recv = some (some frame, wsOut)) :
      Move s none { s with wsOut, ws := .writing (.binary frame) }
  | written {s : Handler} {frame : Bytes} (wire : List Bytes)
      (hws : s.ws = .writing (.binary frame)) :
      Move s (some (.sent frame)) { s with ws := .selecting, wire }
  | read {s : Handler} {k : ℕ} {c : Conn} {data : Bytes} (hconn : s.conns[k]? = some c)
      (hreader : c.reader = .reading) (hdata : data ≠ []) :
      Move s none (s.modifyConn k fun c =>
        { c with reader := .sending data, fromClient := c.fromClient ++ data })
  | readEnd {s : Handler} {k : ℕ} {c : Conn} (hconn : s.conns[k]? = some c)
      (hreader : c.reader = .reading) :
      Move s none (s.modifyConn k fun c => { c with reader := .sending [] })
  | readSent {s : Handler} {k : ℕ} {c : Conn} {data : Bytes} {tcpOut : Chan 256 (ConnId × Bytes)}
      (hconn : s.conns[k]? = some c) (hreader : c.reader = .sending data) (hdata : data ≠ [])
      (hsend : s.tcpOut.send (c.connId, data) = some (true, tcpOut)) :
      Move s (some (.offered c.connId data))
        ({ s with tcpOut }.modifyConn k fun c => { c with reader := .reading })
  | eofSent {s : Handler} {k : ℕ} {c : Conn} {tcpOut : Chan 256 (ConnId × Bytes)}
      (hconn : s.conns[k]? = some c) (hreader : c.reader = .sending [])
      (hsend : s.tcpOut.send (c.connId, []) = some (true, tcpOut)) :
      Move s (some (.offered c.connId []))
        ({ s with tcpOut := tcpOut.dropSender }.modifyConn k fun c => { c with reader := .done })
  /-- The main loop is gone. -/
  | readLost {s : Handler} {k : ℕ} {c : Conn} {data : Bytes} (hconn : s.conns[k]? = some c)
      (hreader : c.reader = .sending data) (hlost : s.tcpOut.receiving = false) :
      Move s none ({ s with tcpOut := s.tcpOut.dropSender }.modifyConn k fun c =>
        { c with reader := .done })
  | receive {s : Handler} {k : ℕ} {c : Conn} {data : Bytes} {toWriter : Chan 64 Bytes}
      (hconn : s.conns[k]? = some c) (hwriter : c.writer = .receiving)
      (hrecv : c.toWriter.recv = some (some data, toWriter)) :
      Move s none (s.modifyConn k fun c => { c with toWriter, writer := .writing data })
  | receiveEnd {s : Handler} {k : ℕ} {c : Conn} (hconn : s.conns[k]? = some c)
      (hwriter : c.writer = .receiving) (hsenders : c.toWriter.senders = 0)
      (hqueue : c.toWriter.queue = []) :
      Move s none (s.modifyConn k fun c' =>
        { c' with toWriter := c.toWriter.dropReceiver, writer := .done })
  | write {s : Handler} {k : ℕ} {c : Conn} {data : Bytes} (hconn : s.conns[k]? = some c)
      (hwriter : c.writer = .writing data) :
      Move s none (s.modifyConn k fun c =>
        { c with writer := .receiving, toClient := c.toClient ++ data })
  | writeFails {s : Handler} {k : ℕ} {c : Conn} {data : Bytes} (count : ℕ)
      (hconn : s.conns[k]? = some c) (hwriter : c.writer = .writing data) :
      Move s none (s.modifyConn k fun c =>
        { c with
          writer := .done
          toClient := c.toClient ++ data.take count
          toWriter := c.toWriter.dropReceiver })
  /-- The registry queues a request, cancels the token or drops its entry. -/
  | registry {s : Handler} (forward : Chan 64 ForwardRequest) (abortCancelled : Bool) :
      Move s none { s with forward, abortCancelled }

/-! ## Every step is one of them -/

/-- What the reader of a connection hands over, if the main loop is there. -/
def offer (s : Handler) (c : Conn) : Option Event :=
  match c.reader with
  | .sending data => if s.tcpOut.receiving then some (.offered c.connId data) else none
  | _ => none

def seen (s : Handler) : Step → Option Event
  | .main .piFrame => s.fromPi.queue.head?.map .handled
  | .main .forwardRequest => s.forward.queue.head?.map fun _ => .taken s.nextId
  | .main .streamItem => s.tcpOut.queue.head?.map fun item => .collected item.1 item.2
  | .main (.sent _) =>
    match s.main with
    | .sendingWs frame _ => some (.queued frame)
    | _ => none
  | .ws (.message (.binary frame)) => some (.arrived frame)
  | .ws (.written _) =>
    match s.ws with
    | .writing (.binary frame) => some (.sent frame)
    | _ => none
  | .conn k .readSent => s.conns[k]?.bind s.offer
  | _ => none

variable {s s' : Handler}

theorem handlePiFrame_move {frame : Bytes} {fromPi : Chan 256 Bytes} (hmain : s.main = .selecting)
    (hrecv : s.fromPi.recv = some (some frame, fromPi)) :
    Move s (some (.handled frame)) ((s.took frame fromPi).handlePiFrame frame) := by
  unfold handlePiFrame
  split
  · rename_i frameType a b c d payload
    dsimp only
    split
    · rename_i htype
      subst htype
      unfold ready
      dsimp only
      split
      · rename_i hpending
        exact .lateReady hmain rfl hpending hrecv
      · rename_i stream hpending
        exact .splice hmain rfl hpending hrecv
    · rename_i hready
      split
      · rename_i htype
        subst htype
        split
        · rename_i k hactive
          split
          · rename_i hpayload
            refine .ignored hmain ?_ hrecv
            rintro _ _ _ ⟨⟩
            exact ⟨by decide, by decide, fun _ => .inr hpayload⟩
          · rename_i hpayload
            exact .deliver hmain rfl hpayload hactive hrecv
        · rename_i hactive
          refine .ignored hmain ?_ hrecv
          rintro _ _ _ ⟨⟩
          exact ⟨by decide, by decide, fun _ => .inl hactive⟩
      · rename_i hdata
        split
        · rename_i htype
          subst htype
          exact .closedByPi hmain rfl hrecv
        · rename_i hclose
          have hframe : s.Ignored (frameType :: a :: b :: c :: d :: payload) := by
            rintro _ _ _ ⟨⟩
            exact ⟨hready, hclose, fun h => absurd h hdata⟩
          split
          · exact .ping hmain hframe hrecv
          · exact .ignored hmain hframe hrecv
  · rename_i hshort
    refine .ignored hmain (fun frameType connId payload hframe => ?_) hrecv
    unfold readFrame at hframe
    split at hframe
    · exact absurd rfl (hshort _ _ _ _ _ _)
    · cases hframe

theorem acceptRequest_move {req : ForwardRequest} {forward : Chan 64 ForwardRequest}
    (hmain : s.main = .selecting) :
    Move s (some (.taken s.nextId)) ({ s with forward }.acceptRequest req) := by
  have heq : { s with forward }.acceptRequest req =
      if maxPending ≤ (s.requested forward).pending.size then s.requested forward
      else { s.requested forward with
        main := .sendingWs (encodeConnect s.nextId req.destPort)
          (.expectReady s.nextId req.stream) } := rfl
  rw [heq]
  split
  · rename_i hfull
    exact .drop hmain hfull
  · rename_i hroom
    exact .announce hmain (Nat.lt_of_not_le hroom)

/-- A step of the main loop is one of the moves. -/
theorem mainStep_move {step : MainStep} (hstep : s.mainStep step = some s') :
    Move s (s.seen (.main step)) s' := by
  cases step with
  | abort =>
    simp only [mainStep] at hstep
    split at hstep
    · rename_i hmain
      split at hstep
      · cases hstep
        exact .leave .aborted hmain
      · cases hstep
    · cases hstep
  | piFrame =>
    simp only [mainStep] at hstep
    split at hstep
    · rename_i hmain
      obtain ⟨⟨item, fromPi⟩, hrecv, rfl⟩ := Option.map_eq_some_iff.mp hstep
      cases item with
      | none =>
        obtain ⟨-, hqueue, -⟩ := eq_of_recv_none hrecv
        simp only [seen, hqueue, List.head?_nil, Option.map_none]
        exact .leave .wsClosed hmain
      | some frame =>
        simp only [seen, (queue_of_recv hrecv).1, List.head?_cons, Option.map_some]
        exact handlePiFrame_move hmain hrecv
    · cases hstep
  | forwardRequest =>
    simp only [mainStep] at hstep
    split at hstep
    · rename_i hmain
      obtain ⟨⟨item, forward⟩, hrecv, rfl⟩ := Option.map_eq_some_iff.mp hstep
      cases item with
      | none =>
        obtain ⟨-, hqueue, -⟩ := eq_of_recv_none hrecv
        simp only [seen, hqueue, List.head?_nil, Option.map_none]
        exact .leave .forwardClosed hmain
      | some req =>
        simp only [seen, (queue_of_recv hrecv).1, List.head?_cons, Option.map_some]
        exact acceptRequest_move hmain
    · cases hstep
  | streamItem =>
    simp only [mainStep] at hstep
    split at hstep
    · rename_i hmain
      obtain ⟨⟨item, tcpOut⟩, hrecv, rfl⟩ := Option.map_eq_some_iff.mp hstep
      cases item with
      | none =>
        obtain ⟨-, hqueue, -⟩ := eq_of_recv_none hrecv
        simp only [seen, hqueue, List.head?_nil, Option.map_none]
        exact .leave .streamsClosed hmain
      | some item =>
        obtain ⟨connId, data⟩ := item
        simp only [seen, (queue_of_recv hrecv).1, List.head?_cons, Option.map_some]
        by_cases hdata : data = []
        · subst hdata
          exact .takeEof hmain hrecv
        · have heq : { s with tcpOut }.streamItem connId data =
              { s with tcpOut, main := .sendingWs (encodeData connId data) .resume } :=
            if_neg hdata
          rw [heq]
          exact .takeData hmain hrecv hdata
    · cases hstep
  | cleanup now =>
    simp only [mainStep] at hstep
    split at hstep
    · rename_i hmain
      cases hstep
      exact .sweep now hmain
    · cases hstep
  | sent now =>
    simp only [mainStep] at hstep
    split at hstep
    · rename_i frame after hmain
      obtain ⟨⟨ok, wsOut⟩, hsend, rfl⟩ := Option.map_eq_some_iff.mp hstep
      simp only [seen, hmain]
      exact .queued now hmain hsend
    · cases hstep
  | streamSent =>
    simp only [mainStep] at hstep
    split at hstep
    · rename_i k data hmain
      simp only [Option.bind_eq_bind, Option.bind_eq_some_iff, Option.some.injEq] at hstep
      obtain ⟨c, hconn, ⟨ok, toWriter⟩, hsend, rfl⟩ := hstep
      exact .streamSent hmain hconn hsend
    · cases hstep
  | dropClone =>
    simp only [mainStep] at hstep
    split at hstep
    · rename_i reason hmain
      cases hstep
      exact .dropClone hmain
    · cases hstep
  | joined =>
    simp only [mainStep] at hstep
    split at hstep
    · rename_i reason hmain hws
      cases hstep
      exact .joined hmain hws
    · cases hstep
  | finish =>
    simp only [mainStep] at hstep
    split at hstep
    · rename_i reason hmain
      cases hstep
      exact .finish hmain
    · cases hstep

/-- A step of the WebSocket task is one of the moves. -/
theorem wsStep_move {step : WsStep} (hstep : s.wsStep step = some s') :
    Move s (s.seen (.ws step)) s' := by
  cases step with
  | message m =>
    simp only [wsStep] at hstep
    split at hstep
    · rename_i hws
      cases hstep
      exact .arrive hws
    · rename_i hws
      cases hstep
      exact .wsEnd (by simp [hws]) (by simp [hws]) (by simp [hws])
    · rename_i hws
      cases hstep
      exact .wsOther s.ws (by simp [hws]) (by simp [hws]) (by simp [hws]) (by simp [hws])
        (by simp [hws]) (by simp [hws])
    · cases hstep
  | idle =>
    simp only [wsStep] at hstep
    split at hstep
    · rename_i hws
      cases hstep
      exact .wsEnd (by simp [hws]) (by simp [hws]) (by simp [hws])
    · cases hstep
  | sentToPi =>
    simp only [wsStep] at hstep
    split at hstep
    · rename_i data hws
      obtain ⟨⟨ok, fromPi⟩, hsend, rfl⟩ := Option.map_eq_some_iff.mp hstep
      cases ok with
      | true => exact .handOver hws hsend
      | false =>
        obtain ⟨rfl, hgone⟩ := eq_of_send_false hsend
        exact .wsEnd (by simp [hws]) (by simp [hws]) fun _ _ => hgone
    · cases hstep
  | take =>
    simp only [wsStep] at hstep
    split at hstep
    · rename_i hws
      obtain ⟨⟨item, wsOut⟩, hrecv, rfl⟩ := Option.map_eq_some_iff.mp hstep
      cases item with
      | none =>
        obtain ⟨rfl, -, -⟩ := eq_of_recv_none hrecv
        exact .wsEnd (by simp [hws]) (by simp [hws]) (by simp [hws])
      | some frame => exact .take hws hrecv
    · cases hstep
  | keepalive =>
    simp only [wsStep] at hstep
    split at hstep
    · rename_i hws
      cases hstep
      exact .wsOther _ (by simp [hws]) (by simp [hws]) (by simp) (by simp) (by simp) (by simp [hws])
    · cases hstep
  | written ok =>
    simp only [wsStep] at hstep
    split at hstep
    · rename_i frame hws
      cases hstep
      simp only [seen, hws]
      exact .written _ hws
    · rename_i hws
      cases hstep
      simp only [seen, hws]
      cases ok with
      | true =>
        exact .wsOther .selecting (by simp [hws]) (by simp [hws]) (by simp) (by simp) (by simp)
          (by simp [hws])
      | false => exact .wsEnd (by simp [hws]) (by simp [hws]) (by simp [hws])
    · cases hstep

/-- A step of a reader or writer is one of the moves. -/
theorem connStep_move {k : ℕ} {step : ConnStep} (hstep : s.connStep k step = some s') :
    Move s (s.seen (.conn k step)) s' := by
  simp only [connStep, Option.bind_eq_bind, Option.bind_eq_some_iff] at hstep
  obtain ⟨c, hconn, hstep⟩ := hstep
  cases step with
  | read result =>
    simp only at hstep
    split at hstep
    · rename_i hreader
      cases hstep
      exact .readEnd hconn hreader
    · rename_i data hreader
      split at hstep
      · rename_i hdata
        cases hstep
        exact .read hconn hreader hdata.1
      · cases hstep
    · cases hstep
  | readSent =>
    simp only at hstep
    split at hstep
    · rename_i data hreader
      obtain ⟨⟨ok, tcpOut⟩, hsend, rfl⟩ := Option.map_eq_some_iff.mp hstep
      cases ok with
      | false =>
        obtain ⟨rfl, hlost⟩ := eq_of_send_false hsend
        simp only [seen, hconn, Option.bind_some, offer, hreader, hlost, Bool.false_eq_true,
          or_true, if_true, if_false]
        exact .readLost hconn hreader hlost
      | true =>
        obtain ⟨-, hopen, -⟩ := queue_of_send hsend
        simp only [seen, hconn, Option.bind_some, offer, hreader, hopen, if_true]
        by_cases hdata : data = []
        · subst hdata
          exact .eofSent hconn hreader hsend
        · simp only [hdata, Bool.true_eq_false, or_self, if_false]
          exact .readSent hconn hreader hdata hsend
    · cases hstep
  | receive =>
    simp only at hstep
    split at hstep
    · rename_i hwriter
      obtain ⟨⟨item, toWriter⟩, hrecv, rfl⟩ := Option.map_eq_some_iff.mp hstep
      cases item with
      | none =>
        obtain ⟨rfl, hqueue, hsenders⟩ := eq_of_recv_none hrecv
        exact .receiveEnd hconn hwriter hsenders hqueue
      | some data => exact .receive hconn hwriter hrecv
    · cases hstep
  | write count =>
    simp only at hstep
    split at hstep
    · rename_i data hwriter
      cases hstep
      exact .write hconn hwriter
    · rename_i data n hwriter
      cases hstep
      exact .writeFails n hconn hwriter
    · cases hstep

theorem registryStep_move {step : RegistryStep} (hstep : s.registryStep step = some s') :
    Move s none s' := by
  cases step with
  | enqueue req =>
    simp only [registryStep] at hstep
    split at hstep
    · cases hstep
    · split at hstep
      · rename_i forward hsend
        cases hstep
        exact .registry forward s.abortCancelled
      · cases hstep
  | cancel =>
    cases hstep
    exact .registry s.forward true
  | dropEntry =>
    cases hstep
    exact .registry s.forward.dropSender s.abortCancelled

theorem step_move {step : Step} (hstep : system.step s step = some s') :
    Move s (s.seen step) s' := by
  cases step with
  | main step => exact mainStep_move hstep
  | ws step => exact wsStep_move hstep
  | conn k step => exact connStep_move hstep
  | registry step => exact registryStep_move hstep

def trace (steps : List Step) : List Event := system.observed seen .start steps

/-- What every move keeps of the state and of what was seen holds throughout a run. -/
theorem moves_invariant {I : List Event → Handler → Prop} {t : Handler} (hstart : I [] s)
    (hmove : ∀ {events s e s'}, I events s → Move s e s' → I (events ++ e.toList) s')
    {steps : List Step} (hrun : system.run s steps = some t) :
    I (system.observed seen s steps) t :=
  system.observed_invariant (fun _ _ _ _ h hstep => hmove h (step_move hstep)) hstart hrun

end Handler

end Wardnet.Tunnel
