/-
# The tunnel handler

One Pi connection is driven by two tasks: the main loop of `run`, and `drive_ws`,
which owns the WebSocket. They feed each other through two bounded channels.
Every spliced client stream adds a reader and a writer task. The model is the
product of these tasks: a step lets one of them finish what it is waiting for
or take a ready branch of its `select`.

Timers may fire at any time. What the peers send, what the client sockets
deliver, and the outcome of a socket write are part of the step's label.
-/

import Wardnet.Base.Channel
import Wardnet.Base.Run
import Wardnet.Base.Store

namespace Wardnet.Tunnel

open Base

abbrev ConnId := UInt32

abbrev Bytes := List UInt8

/-! ## Frames -/

def frameConnect : UInt8 := 0x01
def frameReady : UInt8 := 0x02
def frameData : UInt8 := 0x03
def frameClose : UInt8 := 0x04
def framePing : UInt8 := 0x05
def framePong : UInt8 := 0x06

def beBytes32 (n : UInt32) : Bytes :=
  [(n >>> 24).toUInt8, (n >>> 16).toUInt8, (n >>> 8).toUInt8, n.toUInt8]

def beBytes16 (n : UInt16) : Bytes := [(n >>> 8).toUInt8, n.toUInt8]

/-- `u32::from_be_bytes`. -/
def fromBeBytes (a b c d : UInt8) : UInt32 :=
  a.toUInt32 <<< 24 ||| b.toUInt32 <<< 16 ||| c.toUInt32 <<< 8 ||| d.toUInt32

def encodeConnect (connId : ConnId) (destPort : UInt16) : Bytes :=
  frameConnect :: beBytes32 connId ++ beBytes16 destPort

def encodeData (connId : ConnId) (data : Bytes) : Bytes :=
  frameData :: beBytes32 connId ++ data

def encodeClose (connId : ConnId) : Bytes := frameClose :: beBytes32 connId

def encodePong : Bytes := framePong :: beBytes32 0

/-- Most inbound connections that may wait for a READY. -/
def maxPending : ℕ := 256

/-- Seconds to wait for a READY. -/
def pendingTimeout : Int := 10

/-- Most bytes one read of a client stream delivers. -/
def readBufferSize : ℕ := 16384

/-! ## The tasks -/

/-- An inbound connection handed to the tunnel. The stream is known by a
number. -/
structure ForwardRequest where
  stream : ℕ
  destPort : UInt16

/-- `stream_reader`. -/
inductive Reader
  | reading
  | sending (data : Bytes)
  | done

/-- `stream_writer`. -/
inductive Writer
  | receiving
  | writing (data : Bytes)
  | done

/-- A spliced connection: its reader and writer, the channel to the writer, and
the bytes read from and written to the client so far. -/
structure Conn where
  connId : ConnId
  stream : ℕ
  toWriter : Chan 64 Bytes
  reader : Reader
  writer : Writer
  fromClient : Bytes
  toClient : Bytes

/-- What the main loop does once an awaited frame is on its way. -/
inductive AfterSend
  /-- Nothing: a PONG or DATA frame. -/
  | resume
  /-- Wait for the READY of a connection that was announced to the Pi. -/
  | expectReady (connId : ConnId) (stream : ℕ)
  /-- Forget a connection whose client has closed. -/
  | forget (connId : ConnId)

inductive Exit
  | aborted
  | wsClosed
  | forwardClosed
  | streamsClosed
  deriving DecidableEq

inductive Main
  | selecting
  | sendingWs (frame : Bytes) (after : AfterSend)
  | sendingStream (conn : ℕ) (data : Bytes)
  /-- The loop was left; the clone of the outgoing sender is still held. -/
  | left (reason : Exit)
  /-- `ws_task.await`. -/
  | awaitingWs (reason : Exit)
  /-- The registration and the route row are given up. -/
  | cleaningUp (reason : Exit)
  | returned

/-- What `drive_ws` writes to the socket. -/
inductive WsWrite
  | binary (frame : Bytes)
  | ping

inductive Ws
  | selecting
  | sendingPi (data : Bytes)
  | writing (message : WsWrite)
  | done

inductive WsMessage
  | binary (data : Bytes)
  /-- End of the stream, a close message or an error. -/
  | closed
  /-- A text, ping or pong message. -/
  | other

/-- The state of one tunnel: the locals of `run`, the channels, the tasks, the
frames written to the socket and the Pi frames handled so far. -/
structure Handler where
  main : Main
  nextId : ConnId
  active : Store ConnId ℕ
  pending : Store ConnId ℕ
  pendingDeadlines : Store ConnId Int
  wsOut : Chan 256 Bytes
  tcpOut : Chan 256 (ConnId × Bytes)
  fromPi : Chan 256 Bytes
  forward : Chan 64 ForwardRequest
  abortCancelled : Bool
  ws : Ws
  conns : List Conn
  wire : List Bytes
  handled : List Bytes

namespace Handler

/-- `run` after its channels are made and `drive_ws` is spawned. Two senders of
the outgoing channel exist: the one `mpsc::channel` returned, and the clone that
the loop uses. -/
def start : Handler where
  main := .selecting
  nextId := 0
  active := ∅
  pending := ∅
  pendingDeadlines := ∅
  wsOut := Chan.new.clone
  tcpOut := .new
  fromPi := .new
  forward := .new
  abortCancelled := false
  ws := .selecting
  conns := []
  wire := []
  handled := []

/-! ## The main loop -/

def modifyConn (s : Handler) (k : ℕ) (f : Conn → Conn) : Handler :=
  { s with conns := s.conns.modify k f }

/-- `active.remove`: the sender to the writer task is dropped with the entry. -/
def removeActive (s : Handler) (connId : ConnId) : Handler :=
  match s.active.get? connId with
  | none => s
  | some k =>
    { s with active := s.active.erase connId }.modifyConn k fun c =>
      { c with toWriter := c.toWriter.dropSender }

/-- A READY from the Pi: splice the pending stream. -/
def ready (s : Handler) (connId : ConnId) : Handler :=
  let s := { s with pendingDeadlines := s.pendingDeadlines.erase connId }
  match s.pending.get? connId with
  | none => s
  | some stream =>
    -- Inserting into `active` drops the sender of a displaced entry.
    let s := { s with pending := s.pending.erase connId }.removeActive connId
    { s with
      active := s.active.insert connId s.conns.length
      conns := s.conns ++ [⟨connId, stream, .new, .reading, .receiving, [], []⟩]
      tcpOut := s.tcpOut.clone }

/-- `handle_pi_frame`, up to the send it awaits. -/
def handlePiFrame (s : Handler) (data : Bytes) : Handler :=
  match data with
  | frameType :: a :: b :: c :: d :: payload =>
    let connId := fromBeBytes a b c d
    if frameType = frameReady then s.ready connId
    else if frameType = frameData then
      match s.active.get? connId with
      | some k => if payload = [] then s else { s with main := .sendingStream k payload }
      | none => s
    else if frameType = frameClose then s.removeActive connId
    else if frameType = framePing ∧ connId = 0 then
      { s with main := .sendingWs encodePong .resume }
    else s
  | _ => s

/-- A new inbound connection: drop it at the cap, else announce it to the Pi. -/
def acceptRequest (s : Handler) (req : ForwardRequest) : Handler :=
  let connId := s.nextId
  let s := { s with nextId := s.nextId + 1 }
  -- On wrap-around a displaced pending entry is closed.
  let s := if s.pending.contains connId then
      { s with
        pending := s.pending.erase connId
        pendingDeadlines := s.pendingDeadlines.erase connId }
    else s
  if maxPending ≤ s.pending.size then s
  else { s with
    main := .sendingWs (encodeConnect connId req.destPort) (.expectReady connId req.stream) }

/-- Data or EOF of a spliced stream: send it to the Pi. -/
def streamItem (s : Handler) (connId : ConnId) (data : Bytes) : Handler :=
  if data = [] then
    { s with main := .sendingWs (encodeClose connId) (.forget connId) }
  else
    { s with main := .sendingWs (encodeData connId data) .resume }

/-- The periodic sweep of connections whose READY did not arrive in time. -/
def sweep (s : Handler) (now : Int) : Handler :=
  let expired := (s.pendingDeadlines.select fun _ deadline => deadline ≤ now).map Prod.fst
  { s with
    pending := s.pending.retain fun connId _ => connId ∉ expired
    pendingDeadlines := s.pendingDeadlines.retain fun connId _ => connId ∉ expired }

/-- The loop goes on after an awaited send to the Pi; `ok` says whether the
WebSocket task was there to take the frame. -/
def afterSend (s : Handler) (ok : Bool) (now : Int) : AfterSend → Handler
  | .resume => s
  | .expectReady connId stream =>
    if ok then
      { s with
        pending := s.pending.insert connId stream
        pendingDeadlines := s.pendingDeadlines.insert connId (now + pendingTimeout) }
    else s
  | .forget connId => s.removeActive connId

/-- `run` returns and drops its locals. -/
def returnFromRun (s : Handler) : Handler :=
  { s with
    main := .returned
    active := ∅
    pending := ∅
    pendingDeadlines := ∅
    wsOut := s.wsOut.dropSender
    tcpOut := s.tcpOut.dropSender.dropReceiver
    fromPi := s.fromPi.dropReceiver
    forward := s.forward.dropReceiver
    conns := s.conns.mapIdx fun k c =>
      if s.active.entries.any fun entry => entry.2 = k then
        { c with toWriter := c.toWriter.dropSender }
      else c }

/-- A branch of the main loop's `select`, or the end of an awaited operation. -/
inductive MainStep
  | abort
  | piFrame
  | forwardRequest
  | streamItem
  | cleanup (now : Int)
  | sent (now : Int)
  | streamSent
  | dropClone
  | joined
  | finish

def mainStep (s : Handler) : MainStep → Option Handler
  | .abort =>
    match s.main with
    | .selecting => if s.abortCancelled then some { s with main := .left .aborted } else none
    | _ => none
  | .piFrame =>
    match s.main with
    | .selecting => s.fromPi.recv.map fun
        | (none, _) => { s with main := .left .wsClosed }
        | (some data, fromPi) =>
          { s with fromPi, handled := s.handled ++ [data] }.handlePiFrame data
    | _ => none
  | .forwardRequest =>
    match s.main with
    | .selecting => s.forward.recv.map fun
        | (none, _) => { s with main := .left .forwardClosed }
        | (some req, forward) => { s with forward }.acceptRequest req
    | _ => none
  | .streamItem =>
    match s.main with
    | .selecting => s.tcpOut.recv.map fun
        | (none, _) => { s with main := .left .streamsClosed }
        | (some (connId, data), tcpOut) => { s with tcpOut }.streamItem connId data
    | _ => none
  | .cleanup now =>
    match s.main with
    | .selecting => some (s.sweep now)
    | _ => none
  | .sent now =>
    match s.main with
    | .sendingWs frame after => (s.wsOut.send frame).map fun
        | (ok, wsOut) => { s with wsOut, main := .selecting }.afterSend ok now after
    | _ => none
  | .streamSent =>
    match s.main with
    | .sendingStream k data => do
        let c ← s.conns[k]?
        let (_, toWriter) ← c.toWriter.send data
        some ({ s with main := .selecting }.modifyConn k fun c => { c with toWriter })
    | _ => none
  | .dropClone =>
    match s.main with
    | .left reason => some { s with main := .awaitingWs reason, wsOut := s.wsOut.dropSender }
    | _ => none
  | .joined =>
    match s.main, s.ws with
    | .awaitingWs reason, .done => some { s with main := .cleaningUp reason }
    | _, _ => none
  | .finish =>
    match s.main with
    | .cleaningUp _ => some s.returnFromRun
    | _ => none

/-! ## The WebSocket task -/

/-- A branch of the `select` of `drive_ws`, or the end of an awaited operation. -/
inductive WsStep
  | message (m : WsMessage)
  | idle
  | sentToPi
  | take
  | keepalive
  | written (ok : Bool)

/-- `drive_ws` returns: its sender and its receiver are dropped. -/
def endWs (s : Handler) : Handler :=
  { s with
    ws := .done
    fromPi := s.fromPi.dropSender
    wsOut := s.wsOut.dropReceiver }

def wsStep (s : Handler) : WsStep → Option Handler
  | .message m =>
    match s.ws, m with
    | .selecting, .binary data => some { s with ws := .sendingPi data }
    | .selecting, .closed => some s.endWs
    | .selecting, .other => some s
    | _, _ => none
  | .idle =>
    match s.ws with
    | .selecting => some s.endWs
    | _ => none
  | .sentToPi =>
    match s.ws with
    | .sendingPi data => (s.fromPi.send data).map fun
        | (true, fromPi) => { s with fromPi, ws := .selecting }
        | (false, fromPi) => { s with fromPi }.endWs
    | _ => none
  | .take =>
    match s.ws with
    | .selecting => s.wsOut.recv.map fun
        | (some frame, wsOut) => { s with wsOut, ws := .writing (.binary frame) }
        | (none, wsOut) => { s with wsOut }.endWs
    | _ => none
  | .keepalive =>
    match s.ws with
    | .selecting => some { s with ws := .writing .ping }
    | _ => none
  | .written ok =>
    match s.ws with
    -- The result of a frame write is ignored; a failed ping ends the task.
    | .writing (.binary frame) =>
      some { s with ws := .selecting, wire := if ok then s.wire ++ [frame] else s.wire }
    | .writing .ping => some (if ok then { s with ws := .selecting } else s.endWs)
    | _ => none

/-! ## The stream tasks and the surroundings -/

inductive ConnStep
  /-- A read delivers data, or `none` for the end of the stream or an error. -/
  | read (result : Option Bytes)
  | readSent
  | receive
  /-- A write succeeds, or fails after `count` bytes. -/
  | write (count : Option ℕ)

/-- One step of `stream_reader` or `stream_writer` of connection `k`. -/
def connStep (s : Handler) (k : ℕ) (step : ConnStep) : Option Handler := do
  let c ← s.conns[k]?
  match step with
  | .read result =>
    match c.reader, result with
    | .reading, none => some (s.modifyConn k fun c => { c with reader := .sending [] })
    | .reading, some data =>
      if data ≠ [] ∧ data.length ≤ readBufferSize then
        some (s.modifyConn k fun c =>
          { c with reader := .sending data, fromClient := c.fromClient ++ data })
      else none
    | _, _ => none
  | .readSent =>
    match c.reader with
    | .sending data =>
      (s.tcpOut.send (c.connId, data)).map fun
      | (ok, tcpOut) =>
        if data = [] ∨ ok = false then
          { s with tcpOut := tcpOut.dropSender }.modifyConn k fun c =>
            { c with reader := .done }
        else
          { s with tcpOut }.modifyConn k fun c => { c with reader := .reading }
    | _ => none
  | .receive =>
    match c.writer with
    | .receiving => c.toWriter.recv.map fun
        | (some data, toWriter) =>
          s.modifyConn k fun c => { c with toWriter, writer := .writing data }
        | (none, toWriter) =>
          s.modifyConn k fun c =>
            { c with toWriter := toWriter.dropReceiver, writer := .done }
    | _ => none
  | .write count =>
    match c.writer, count with
    | .writing data, none =>
      some (s.modifyConn k fun c =>
        { c with writer := .receiving, toClient := c.toClient ++ data })
    | .writing data, some n =>
      some (s.modifyConn k fun c =>
        { c with
          writer := .done
          toClient := c.toClient ++ data.take n
          toWriter := c.toWriter.dropReceiver })
    | _, _ => none

inductive RegistryStep
  /-- `forward` queues a connection. -/
  | enqueue (req : ForwardRequest)
  /-- The abort token is cancelled. -/
  | cancel
  /-- The registry entry, which holds the sender, is dropped. -/
  | dropEntry

def registryStep (s : Handler) : RegistryStep → Option Handler
  | .enqueue req =>
    if s.forward.senders = 0 then none
    else match s.forward.send req with
      | some (true, forward) => some { s with forward }
      | _ => none
  | .cancel => some { s with abortCancelled := true }
  | .dropEntry => some { s with forward := s.forward.dropSender }

inductive Step
  | main (step : MainStep)
  | ws (step : WsStep)
  | conn (k : ℕ) (step : ConnStep)
  | registry (step : RegistryStep)

def system : System Handler Step where
  step s
    | .main step => s.mainStep step
    | .ws step => s.wsStep step
    | .conn k step => s.connStep k step
    | .registry step => s.registryStep step

end Handler

end Wardnet.Tunnel
