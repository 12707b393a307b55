/-
# The way of bytes to the Pi

What a reader hands to the main loop waits in the channel of the streams, then in the main loop
as a frame, then in the channel to the WebSocket task, and then in this task until it is given to
the socket. On this way nothing of a connection is lost, doubled or moved, except that all that
has not reached the WebSocket task is lost when this task ends, and then nothing is sent any more.
-/

import Wardnet.Tunnel.Moves

namespace Wardnet.Tunnel

open Base List Chan

/-! ## What a connection sends -/

inductive Item
  | data (payload : Bytes)
  | close
  deriving DecidableEq

/-- What a reader hands over, no bytes at the end of its stream. -/
def Item.ofBytes (data : Bytes) : Item := if data = [] then .close else .data data

/-- The item of a connection that a frame holds. -/
def readItem (connId : ConnId) (frame : Bytes) : Option Item :=
  (readFrame frame).bind fun (frameType, id, payload) =>
    if id ≠ connId then none
    else if frameType = frameData then some (.data payload)
    else if frameType = frameClose then some .close
    else none

/-- The frame that the main loop makes of what a reader hands over. -/
def itemFrame (item : ConnId × Bytes) : Bytes :=
  if item.2 = [] then encodeClose item.1 else encodeData item.1 item.2

theorem readItem_itemFrame (connId id : ConnId) (data : Bytes) :
    readItem connId (itemFrame (id, data)) =
      if id = connId then some (.ofBytes data) else none := by
  unfold itemFrame Item.ofBytes readItem
  by_cases hdata : data = []
  · by_cases hid : id = connId
    · simp [hdata, hid, frameClose, frameData]
    · simp [hdata, hid]
  · by_cases hid : id = connId
    · simp [hdata, hid]
    · simp [hdata, hid]

theorem readItem_encodeConnect (connId id : ConnId) (destPort : UInt16) :
    readItem connId (encodeConnect id destPort) = none := by
  simp [readItem, frameConnect, frameData, frameClose]

theorem readItem_encodePong (connId : ConnId) : readItem connId encodePong = none := by
  simp [readItem, framePong, frameData, frameClose]

namespace Handler

def Event.sentItem (connId : ConnId) : Event → Option Item
  | .sent frame => readItem connId frame
  | _ => none

def Event.offeredItem (connId : ConnId) : Event → Option Item
  | .offered id data => if id = connId then some (.ofBytes data) else none
  | _ => none

def wsFrame : Ws → List Bytes
  | .writing (.binary frame) => [frame]
  | _ => []

def mainFrame : Main → List Bytes
  | .sendingWs frame _ => [frame]
  | _ => []

/-- The frames on the way to the socket, those of what the readers have handed over included. -/
def inFlight (s : Handler) : List Bytes :=
  wsFrame s.ws ++ s.wsOut.queue ++ mainFrame s.main ++ s.tcpOut.queue.map itemFrame

def pipe (s : Handler) (connId : ConnId) : List Item := s.inFlight.filterMap (readItem connId)

/-- How the ends of the tasks belong together. -/
structure Wired (s : Handler) : Prop where
  gone : s.ws = .done ↔ s.wsOut.receiving = false
  «over» : ∀ reason, s.main = .cleaningUp reason → s.ws = .done
  returned : s.main = .returned → s.ws = .done
  lost : s.tcpOut.receiving = false → s.main = .returned

/-! ## Moves -/

section

variable {s s' : Handler} {e : Option Event} {connId : ConnId}

/-- The tasks, and the channels on the way to the socket, are as before. -/
structure SamePipe (s s' : Handler) : Prop where
  ws : s'.ws = s.ws
  wsOut : s'.wsOut = s.wsOut
  main : s'.main = s.main
  queue : s'.tcpOut.queue = s.tcpOut.queue
  receiving : s'.tcpOut.receiving = s.tcpOut.receiving

theorem SamePipe.wired (h : SamePipe s s') (hwired : Wired s) : Wired s' where
  gone := by rw [h.ws, h.wsOut, hwired.gone]
  «over» := by
    rw [h.ws, h.main]
    exact hwired.over
  returned := by
    rw [h.ws, h.main]
    exact hwired.returned
  lost := by
    rw [h.receiving, h.main]
    exact hwired.lost

theorem SamePipe.pipe (h : SamePipe s s') : s'.pipe connId = s.pipe connId := by
  rw [Handler.pipe, Handler.pipe, inFlight, inFlight, h.ws, h.wsOut, h.main, h.queue]

theorem SamePipe.trans {s'' : Handler} (h : SamePipe s s') (h' : SamePipe s' s'') :
    SamePipe s s'' where
  ws := h'.ws.trans h.ws
  wsOut := h'.wsOut.trans h.wsOut
  main := h'.main.trans h.main
  queue := h'.queue.trans h.queue
  receiving := h'.receiving.trans h.receiving

theorem pipe_eq_of_main (hws : s'.ws = s.ws) (hwsOut : s'.wsOut.queue = s.wsOut.queue)
    (htcpOut : s'.tcpOut.queue = s.tcpOut.queue)
    (hbefore : (mainFrame s.main).filterMap (readItem connId) = [])
    (hafter : (mainFrame s'.main).filterMap (readItem connId) = []) :
    s'.pipe connId = s.pipe connId := by
  simp only [Handler.pipe, inFlight, filterMap_append, hws, hwsOut, htcpOut, hbefore, hafter]

theorem SamePipe.removeActive (s : Handler) (id : ConnId) : SamePipe s (s.removeActive id) := by
  unfold Handler.removeActive
  split
  · exact ⟨rfl, rfl, rfl, rfl, rfl⟩
  · exact ⟨rfl, rfl, rfl, rfl, rfl⟩

theorem SamePipe.evict (s : Handler) (id : ConnId) : SamePipe s (s.evict id) := by
  unfold Handler.evict
  split
  · exact ⟨rfl, rfl, rfl, rfl, rfl⟩
  · exact ⟨rfl, rfl, rfl, rfl, rfl⟩

theorem SamePipe.splice (s : Handler) (id : ConnId) (stream : ℕ) :
    SamePipe s (s.splice id stream) := by
  have h := SamePipe.removeActive { s with
    pendingDeadlines := s.pendingDeadlines.erase id
    pending := s.pending.erase id } id
  exact ⟨h.ws, h.wsOut, h.main, h.queue, h.receiving⟩

theorem SamePipe.afterSend (s : Handler) (ok : Bool) (now : Int) (after : AfterSend) :
    SamePipe s (s.afterSend ok now after) := by
  cases after with
  | resume => exact ⟨rfl, rfl, rfl, rfl, rfl⟩
  | expectReady id stream =>
    cases ok with
    | true | false => exact ⟨rfl, rfl, rfl, rfl, rfl⟩
  | forget id => exact .removeActive s id

theorem SamePipe.requested (s : Handler) (forward : Chan 64 ForwardRequest) :
    SamePipe s (s.requested forward) := by
  have h := SamePipe.evict { s with forward, nextId := s.nextId + 1 } s.nextId
  exact ⟨h.ws, h.wsOut, h.main, h.queue, h.receiving⟩

theorem removeActive_fromPi (s : Handler) (id : ConnId) :
    (s.removeActive id).fromPi = s.fromPi := by
  unfold Handler.removeActive
  split
  · rfl
  · rfl

theorem afterSend_fromPi (s : Handler) (ok : Bool) (now : Int) (after : AfterSend) :
    (s.afterSend ok now after).fromPi = s.fromPi := by
  cases after with
  | resume => rfl
  | expectReady id stream =>
    cases ok with
    | true | false => rfl
  | forget id => exact removeActive_fromPi s id

theorem requested_fromPi (s : Handler) (forward : Chan 64 ForwardRequest) :
    (s.requested forward).fromPi = s.fromPi := by
  unfold Handler.requested Handler.evict
  split
  · rfl
  · rfl

theorem Wired.main (h : Wired s) (hbefore : s.main ≠ .returned) (hws : s'.ws = s.ws)
    (hwsOut : s'.wsOut.receiving = s.wsOut.receiving)
    (htcpOut : s'.tcpOut.receiving = s.tcpOut.receiving)
    (hcleaning : ∀ reason, s'.main ≠ .cleaningUp reason) (hafter : s'.main ≠ .returned) :
    Wired s' where
  gone := by rw [hws, hwsOut, h.gone]
  «over» reason hmain := absurd hmain (hcleaning reason)
  returned hmain := absurd hmain hafter
  lost hlost := absurd (h.lost (htcpOut.symm.trans hlost)) hbefore

theorem Wired.webSocket (h : Wired s) (hbefore : s.ws ≠ .done) (hafter : s'.ws ≠ .done)
    (hwsOut : s'.wsOut.receiving = s.wsOut.receiving) (hmain : s'.main = s.main)
    (htcpOut : s'.tcpOut.receiving = s.tcpOut.receiving) : Wired s' where
  gone := by
    rw [hwsOut, ← h.gone]
    exact ⟨fun hdone => absurd hdone hafter, fun hdone => absurd hdone hbefore⟩
  «over» reason hcleaning := absurd (h.over reason (hmain.symm.trans hcleaning)) hbefore
  returned hreturned := absurd (h.returned (hmain.symm.trans hreturned)) hbefore
  lost hlost := hmain.trans (h.lost (htcpOut.symm.trans hlost))

/-- No move takes the ends of the tasks apart. -/
theorem Wired.move (h : Wired s) (hmove : Move s e s') : Wired s' := by
  have hsame : ∀ {s' : Handler}, SamePipe s s' → Wired s' := fun hsame => hsame.wired h
  have htook : ∀ (frame : Bytes) (fromPi : Chan 256 Bytes), Wired (s.took frame fromPi) :=
    fun _ _ => hsame ⟨rfl, rfl, rfl, rfl, rfl⟩
  cases hmove with
  | leave _ hmain | deliver hmain | ping hmain | dropClone hmain =>
    exact h.main (by simp [hmain]) rfl rfl rfl (by simp) (by simp)
  | splice hmain hframe hpending => exact (SamePipe.splice _ _ _).wired (htook _ _)
  | closedByPi => exact (SamePipe.removeActive _ _).wired (htook _ _)
  | ignored => exact htook _ _
  | drop => exact (SamePipe.requested _ _).wired h
  | announce hmain =>
    have hsame := SamePipe.requested s
    exact h.main (by simp [hmain]) (hsame _).ws (congrArg receiving (hsame _).wsOut)
      (hsame _).receiving (by simp) (by simp)
  | takeData hmain hrecv | takeEof hmain hrecv =>
    exact h.main (by simp [hmain]) rfl rfl (queue_of_recv hrecv).2 (by simp) (by simp)
  | queued now hmain hsend =>
    refine (SamePipe.afterSend _ _ _ _).wired ?_
    exact h.main (by simp [hmain]) rfl (receiving_of_send hsend) rfl (by simp) (by simp)
  | streamSent hmain =>
    exact h.main (by simp [hmain]) rfl rfl rfl (by simp [modifyConn]) (by simp [modifyConn])
  | joined hmain hws =>
    refine ⟨h.gone, fun _ _ => hws, fun _ => hws, fun hlost => ?_⟩
    rw [h.lost hlost] at hmain
    cases hmain
  | finish hmain =>
    have hdone := h.over _ hmain
    exact ⟨h.gone, fun _ _ => hdone, fun _ => hdone, fun _ => rfl⟩
  | arrive hws | handOver hws | written _ hws =>
    exact h.webSocket (by simp [hws]) (by simp) rfl rfl rfl
  | wsOther ws hdone hbefore hafter hlive => exact h.webSocket hdone hlive rfl rfl rfl
  | wsEnd => exact ⟨by simp [endWs, dropReceiver], fun _ _ => rfl, fun _ => rfl, h.lost⟩
  | take hws hrecv =>
    exact h.webSocket (by simp [hws]) (by simp) (queue_of_recv hrecv).2 rfl rfl
  | readSent _ _ _ hsend | eofSent _ _ hsend =>
    exact ⟨h.gone, h.over, h.returned,
      fun hlost => h.lost ((receiving_of_send hsend).symm.trans hlost)⟩
  | lateReady | sweep | registry | read | readEnd | readLost | receive | receiveEnd | write
  | writeFails => exact hsame ⟨rfl, rfl, rfl, rfl, rfl⟩

theorem wsFrame_eq_nil {ws : Ws} (h : ∀ frame, ws ≠ .writing (.binary frame)) :
    wsFrame ws = [] := by
  unfold wsFrame
  split
  · exact absurd rfl (h _)
  · rfl

theorem flow_offered {id : ConnId} {data : Bytes}
    (hin : s'.inFlight = s.inFlight ++ [itemFrame (id, data)]) :
    (some (Event.offered id data)).toList.filterMap (Event.sentItem connId) ++ s'.pipe connId =
      s.pipe connId ++
        (some (Event.offered id data)).toList.filterMap (Event.offeredItem connId) := by
  rw [pipe, pipe, hin, filterMap_append]
  by_cases hid : id = connId
  · simp [Event.sentItem, Event.offeredItem, readItem_itemFrame, hid]
  · simp [Event.sentItem, Event.offeredItem, readItem_itemFrame, hid]

/-- As long as the WebSocket task is there, what comes out of the pipe is what was in it, in
order, and what is handed over goes in at its end. -/
theorem Move.flow (hmove : Move s e s') (hwired : Wired s) (hopen : s'.wsOut.receiving = true) :
    e.toList.filterMap (Event.sentItem connId) ++ s'.pipe connId =
      s.pipe connId ++ e.toList.filterMap (Event.offeredItem connId) := by
  have hkept : ∀ {s' : Handler}, s'.pipe connId = s.pipe connId →
      [] ++ s'.pipe connId = s.pipe connId ++ [] := by
    intro s' h
    rw [h, nil_append, append_nil]
  have hsame : ∀ {s' : Handler}, SamePipe s s' →
      [] ++ s'.pipe connId = s.pipe connId ++ [] := fun h => hkept h.pipe
  have htook : ∀ (frame : Bytes) (fromPi : Chan 256 Bytes), SamePipe s (s.took frame fromPi) :=
    fun _ _ => ⟨rfl, rfl, rfl, rfl, rfl⟩
  cases hmove with
  | splice => exact hsame ((htook _ _).trans (.splice _ _ _))
  | closedByPi => exact hsame ((htook _ _).trans (.removeActive _ _))
  | drop => exact hsame (.requested _ _)
  | leave _ hmain | deliver hmain | streamSent hmain | dropClone hmain | joined hmain =>
    exact hkept (pipe_eq_of_main rfl rfl rfl (by rw [hmain]; rfl) rfl)
  | ping hmain =>
    refine hkept (pipe_eq_of_main rfl rfl rfl (by rw [hmain]; rfl) ?_)
    simp [mainFrame, readItem_encodePong]
  | announce hmain =>
    have hrequested := SamePipe.requested s
    refine hkept (pipe_eq_of_main (hrequested _).ws (congrArg queue (hrequested _).wsOut)
      (hrequested _).queue (by rw [hmain]; rfl) ?_)
    simp [mainFrame, readItem_encodeConnect]
  -- From the channel of the streams to the main loop.
  | takeData hmain hrecv hdata =>
    refine hkept ?_
    simp [pipe, inFlight, mainFrame, hmain, (queue_of_recv hrecv).1, itemFrame, hdata]
  | takeEof hmain hrecv =>
    refine hkept ?_
    simp [pipe, inFlight, mainFrame, hmain, (queue_of_recv hrecv).1, itemFrame]
  -- From the main loop to the channel of the WebSocket task.
  | queued now hmain hsend =>
    rename_i frame after ok wsOut
    have hafter := SamePipe.afterSend { s with wsOut, main := .selecting } ok now after
    rw [hafter.wsOut] at hopen
    refine hkept (hafter.pipe.trans ?_)
    cases ok with
    | false =>
      obtain ⟨rfl, hgone⟩ := eq_of_send_false hsend
      exact absurd (hgone.symm.trans hopen) Bool.false_ne_true
    | true => simp [pipe, inFlight, mainFrame, hmain, (queue_of_send hsend).1]
  -- From this channel to the WebSocket task, and out.
  | take hws hrecv =>
    refine hkept ?_
    simp [pipe, inFlight, hws, wsFrame, (queue_of_recv hrecv).1]
  | written wire hws =>
    rename_i frame
    have hout : s.inFlight = frame :: ({ s with ws := .selecting, wire } : Handler).inFlight := by
      simp [inFlight, hws, wsFrame]
    rw [pipe, pipe, hout]
    cases hitem : readItem connId frame with
    | none | some => simp [Event.sentItem, Event.offeredItem, hitem]
  | arrive hws | handOver hws =>
    refine hkept ?_
    simp [pipe, inFlight, hws, wsFrame]
  | wsOther ws hdone hbefore hafter hlive =>
    refine hkept ?_
    simp [pipe, inFlight, wsFrame_eq_nil hbefore, wsFrame_eq_nil hafter]
  -- What a reader hands over.
  | readSent hconn hreader hdata hsend =>
    refine flow_offered ?_
    simp [inFlight, modifyConn, (queue_of_send hsend).1]
  | eofSent hconn hreader hsend =>
    refine flow_offered ?_
    simp [inFlight, modifyConn, dropSender, (queue_of_send hsend).1]
  | lateReady | ignored | sweep | registry | read | readEnd | readLost | receive | receiveEnd
  | write | writeFails => exact hsame ⟨rfl, rfl, rfl, rfl, rfl⟩
  -- When the WebSocket task ends the rest of the pipe is lost.
  | wsEnd => cases hopen
  | finish hmain =>
    have hgone := hwired.gone.mp (hwired.over _ hmain)
    exact absurd (hgone.symm.trans hopen) Bool.false_ne_true

theorem Move.not_sent (hmove : Move s e s') (hwired : Wired s)
    (hgone : s'.wsOut.receiving = false) (frame : Bytes) : e ≠ some (.sent frame) := by
  cases hmove with
  | written wire hws =>
    rw [hwired.gone.mpr hgone] at hws
    cases hws
  | _ => simp

theorem Move.open_before (hmove : Move s e s') (hopen : s'.wsOut.receiving = true) :
    s.wsOut.receiving = true := by
  cases hmove with
  | splice => rwa [(SamePipe.splice _ _ _).wsOut] at hopen
  | closedByPi => rwa [(SamePipe.removeActive _ _).wsOut] at hopen
  | drop | announce => rwa [(SamePipe.requested _ _).wsOut] at hopen
  | queued now hmain hsend =>
    rw [(SamePipe.afterSend _ _ _ _).wsOut] at hopen
    exact (receiving_of_send hsend).symm.trans hopen
  | take hws hrecv => exact (queue_of_recv hrecv).2.symm.trans hopen
  | wsEnd => cases hopen
  | _ => exact hopen

end

/-! ## Whole runs -/

variable {steps : List Step} {s t : Handler}

theorem wired_of_run (hrun : system.run .start steps = some s) : Wired s := by
  refine moves_invariant (I := fun _ s => Wired s) ?_ (fun h hmove => h.move hmove) hrun
  constructor
  · exact ⟨fun h => (by cases h), fun h => (by cases h)⟩
  · rintro _ ⟨⟩
  · rintro ⟨⟩
  · rintro ⟨⟩

/-- What passes through the WebSocket task, as long as it is there, comes out in order: what came
out during a run is the first part of what was inside and what went in since. -/
theorem passes_of_run {α : Type} {sent given : Event → Option α} {inside : Handler → List α}
    (hsent : ∀ event, (∀ frame, event ≠ .sent frame) → sent event = none)
    (hflow : ∀ {s e s'}, Move s e s' → Wired s → s'.wsOut.receiving = true →
      e.toList.filterMap sent ++ inside s' = inside s ++ e.toList.filterMap given)
    (hwired : Wired s) (hrun : system.run s steps = some t) :
    (system.observed seen s steps).filterMap sent <+:
        inside s ++ (system.observed seen s steps).filterMap given ∧
      (t.wsOut.receiving = true → (system.observed seen s steps).filterMap sent ++ inside t =
        inside s ++ (system.observed seen s steps).filterMap given) := by
  refine (moves_invariant (I := fun events u => Wired u ∧
    events.filterMap sent <+: inside s ++ events.filterMap given ∧ (u.wsOut.receiving = true →
        events.filterMap sent ++ inside u = inside s ++ events.filterMap given)) ?_ ?_ hrun).2
  · exact ⟨hwired, nil_prefix, fun _ => by simp⟩
  · rintro events u e u' ⟨hw, hprefix, heq⟩ hmove
    rw [filterMap_append, filterMap_append]
    cases hgone : u'.wsOut.receiving with
    | true =>
      have hnext : events.filterMap sent ++ e.toList.filterMap sent ++ inside u' =
          inside s ++ (events.filterMap given ++ e.toList.filterMap given) := by
        rw [append_assoc, hflow hmove hw hgone, ← append_assoc,
          heq (hmove.open_before hgone), append_assoc]
      exact ⟨hw.move hmove, ⟨_, hnext⟩, fun _ => hnext⟩
    | false =>
      have hnone : e.toList.filterMap sent = [] := by
        rw [filterMap_eq_nil_iff]
        intro event hevent
        refine hsent event fun frame hframe => hmove.not_sent hw hgone frame ?_
        rw [← hframe]
        exact Option.mem_toList.mp hevent
      rw [hnone, append_nil, ← append_assoc]
      exact ⟨hw.move hmove, hprefix.trans (prefix_append _ _), nofun⟩

/-- What came out of the pipe during a run is the first part of what was in it and what was handed
over since. As long as the WebSocket task is there, the rest is in the pipe. -/
theorem flow_of_run (connId : ConnId) (hwired : Wired s) (hrun : system.run s steps = some t) :
    (system.observed seen s steps).filterMap (Event.sentItem connId) <+:
        s.pipe connId ++ (system.observed seen s steps).filterMap (Event.offeredItem connId) ∧
      (t.wsOut.receiving = true →
        (system.observed seen s steps).filterMap (Event.sentItem connId) ++ t.pipe connId =
          s.pipe connId ++ (system.observed seen s steps).filterMap
            (Event.offeredItem connId)) := by
  refine passes_of_run (fun event hnot => ?_) (fun hmove hw hopen => hmove.flow hw hopen)
    hwired hrun
  cases event with
  | sent frame => exact absurd rfl (hnot frame)
  | _ => rfl

end Handler

end Wardnet.Tunnel
