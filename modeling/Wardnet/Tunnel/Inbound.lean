/-
# The way of bytes from the Pi

Seen from outside, a connection is announced when its CONNECT is queued, opened by the READY of
the Pi, and over with the first CLOSE, from either side. The payloads that the Pi sends while it
is open are for its client. The handler keeps the same phases in its tables, and what it has
written to a client is the first part of these payloads, and of no others.
-/

import Wardnet.Tunnel.ConnIds

namespace Wardnet.Tunnel

open Base Store Option Handler

/-! ## A connection seen from outside -/

inductive Phase
  | idle
  | announced
  | opened
  | over
  deriving DecidableEq

/-- The phase of a connection, and the bytes the Pi has sent for its client. -/
structure Inbound where
  phase : Phase
  bytes : Bytes

def frameFor (connId : ConnId) (frame : Bytes) : Option (UInt8 × Bytes) :=
  (readFrame frame).bind fun (frameType, id, payload) =>
    if id = connId then some (frameType, payload) else none

def Inbound.queued (i : Inbound) (frameType : UInt8) : Inbound :=
  match i.phase with
  | .idle => if frameType = frameConnect then { i with phase := .announced } else i
  | .opened => if frameType = frameClose then { i with phase := .over } else i
  | .announced | .over => i

def Inbound.handled (i : Inbound) (frameType : UInt8) (payload : Bytes) : Inbound :=
  match i.phase with
  | .announced => if frameType = frameReady then { i with phase := .opened } else i
  | .opened =>
    if frameType = frameClose then { i with phase := .over }
    else if frameType = frameData then { i with bytes := i.bytes ++ payload }
    else i
  | .idle | .over => i

namespace Handler

def inboundNext (connId : ConnId) (i : Inbound) : Event → Inbound
  | .queued frame => (frameFor connId frame).elim i fun f => i.queued f.1
  | .handled frame => (frameFor connId frame).elim i fun f => i.handled f.1 f.2
  | _ => i

def inbound (connId : ConnId) (events : List Event) : Inbound :=
  events.foldl (inboundNext connId) ⟨.idle, []⟩

theorem inbound_append (connId : ConnId) (events more : List Event) :
    inbound connId (events ++ more) = more.foldl (inboundNext connId) (inbound connId events) :=
  List.foldl_append ..

end Handler

variable {connId : ConnId} {frame payload : Bytes} {frameType : UInt8} {i : Inbound}

theorem frameFor_self (h : readFrame frame = some (frameType, connId, payload)) :
    frameFor connId frame = some (frameType, payload) := by
  simp [frameFor, h]

theorem frameFor_of_ne {id : ConnId} (h : readFrame frame = some (frameType, id, payload))
    (hne : id ≠ connId) :
    frameFor connId frame = none := by
  simp [frameFor, h, hne]

theorem readFrame_of_frameFor (h : frameFor connId frame = some (frameType, payload)) :
    readFrame frame = some (frameType, connId, payload) := by
  simp only [frameFor, bind_eq_some_iff, Prod.exists] at h
  obtain ⟨t, id, p, hread, hif⟩ := h
  split at hif
  · rename_i hid
    cases hif
    rw [hread, hid]
  · cases hif

section

variable (i : Inbound) (payload : Bytes) {frameType : UInt8}

theorem Inbound.phase_handled_ready : (i.handled frameReady payload).phase =
    if i.phase = .announced then .opened else i.phase := by
  cases hphase : i.phase <;> simp [handled, hphase, frameReady, frameClose, frameData]

theorem Inbound.phase_handled_close : (i.handled frameClose payload).phase =
    if i.phase = .opened then .over else i.phase := by
  cases hphase : i.phase <;> simp [handled, hphase, frameReady, frameClose]

theorem Inbound.phase_handled_of_ne (hready : frameType ≠ frameReady)
    (hclose : frameType ≠ frameClose) : (i.handled frameType payload).phase = i.phase := by
  cases hphase : i.phase with
  | idle | announced | «over» => simp [handled, hphase, hready]
  | opened =>
    simp only [handled, hphase, if_neg hclose]
    split
    · rfl
    · exact hphase

theorem Inbound.phase_queued_connect : (i.queued frameConnect).phase =
    if i.phase = .idle then .announced else i.phase := by
  cases hphase : i.phase <;> simp [queued, hphase, frameConnect, frameClose]

theorem Inbound.phase_queued_close : (i.queued frameClose).phase =
    if i.phase = .opened then .over else i.phase := by
  cases hphase : i.phase <;> simp [queued, hphase, frameConnect, frameClose]

theorem Inbound.queued_of_ne (hconnect : frameType ≠ frameConnect)
    (hclose : frameType ≠ frameClose) : i.queued frameType = i := by
  cases hphase : i.phase <;> simp [queued, hphase, hconnect, hclose]

end

namespace Handler

section

variable {connId id : ConnId} {events : List Event} {frame payload : Bytes} {frameType : UInt8}

theorem inbound_handled_self (h : readFrame frame = some (frameType, connId, payload)) :
    inbound connId (events ++ [.handled frame]) =
      (inbound connId events).handled frameType payload := by
  rw [inbound_append, List.foldl_cons, List.foldl_nil, inboundNext, frameFor_self h]
  rfl

theorem inbound_handled_of_ne (h : readFrame frame = some (frameType, id, payload))
    (hne : id ≠ connId) :
    inbound connId (events ++ [.handled frame]) = inbound connId events := by
  rw [inbound_append, List.foldl_cons, List.foldl_nil, inboundNext, frameFor_of_ne h hne]
  rfl

theorem inbound_queued_self (h : readFrame frame = some (frameType, connId, payload)) :
    inbound connId (events ++ [.queued frame]) = (inbound connId events).queued frameType := by
  rw [inbound_append, List.foldl_cons, List.foldl_nil, inboundNext, frameFor_self h]
  rfl

theorem inbound_queued_of_ne (h : readFrame frame = some (frameType, id, payload))
    (hne : id ≠ connId) : inbound connId (events ++ [.queued frame]) = inbound connId events := by
  rw [inbound_append, List.foldl_cons, List.foldl_nil, inboundNext, frameFor_of_ne h hne]
  rfl

theorem inbound_queued_same (h : readFrame frame = some (frameType, id, payload))
    (hconnect : frameType ≠ frameConnect) (hclose : frameType ≠ frameClose) :
    inbound connId (events ++ [.queued frame]) = inbound connId events := by
  by_cases hid : id = connId
  · subst hid
    rw [inbound_queued_self h, Inbound.queued_of_ne _ hconnect hclose]
  · exact inbound_queued_of_ne h hid

theorem phase_handled_same (h : ∀ frameType id payload,
      readFrame frame = some (frameType, id, payload) →
        frameType ≠ frameReady ∧ frameType ≠ frameClose) (connId : ConnId) :
    (inbound connId (events ++ [.handled frame])).phase = (inbound connId events).phase := by
  rw [inbound_append, List.foldl_cons, List.foldl_nil, inboundNext]
  cases hframe : frameFor connId frame with
  | none => rfl
  | some f =>
    obtain ⟨hready, hclose⟩ := h _ _ _ (readFrame_of_frameFor hframe)
    exact Inbound.phase_handled_of_ne _ _ hready hclose

end

/-! ## What the main loop queues -/

/-- The frame that the main loop wants to queue, and what it does then. -/
inductive Fits : Bytes → AfterSend → Prop
  | pong : Fits encodePong .resume
  | data (connId : ConnId) (data : Bytes) : Fits (encodeData connId data) .resume
  | connect (connId : ConnId) (destPort : UInt16) (stream : ℕ) :
      Fits (encodeConnect connId destPort) (.expectReady connId stream)
  | close (connId : ConnId) : Fits (encodeClose connId) (.forget connId)

def Framed (s : Handler) : Prop :=
  ∀ frame after, s.main = .sendingWs frame after → Fits frame after

theorem Framed.move {s s' : Handler} {e : Option Event} (h : Framed s) (hmove : Move s e s') :
    Framed s' := by
  have hsame : ∀ {s' : Handler}, s'.main = s.main → Framed s' := by
    intro s' hmain frame after hsending
    exact h frame after (hmain.symm.trans hsending)
  have hselecting : ∀ {s' : Handler}, s'.main = .selecting → Framed s' := by
    intro s' hmain frame after hsending
    rw [hmain] at hsending
    cases hsending
  cases hmove with
  | leave | deliver | dropClone | joined | finish => rintro _ _ ⟨⟩
  | splice hmain => exact hselecting (splice_rest.2.2.trans hmain)
  | closedByPi hmain => exact hselecting (removeActive_rest.2.2.trans hmain)
  | ping =>
    rintro _ _ ⟨⟩
    exact .pong
  | drop hmain =>
    exact hselecting (evict_rest.2.2.trans hmain)
  | announce =>
    rintro _ _ ⟨⟩
    exact .connect ..
  | takeData =>
    rintro _ _ ⟨⟩
    exact .data ..
  | takeEof =>
    rintro _ _ ⟨⟩
    exact .close ..
  | queued now hmain hsend =>
    rename_i after ok wsOut
    refine hselecting ?_
    cases after with
    | resume => rfl
    | expectReady =>
      cases ok with
      | true | false => rfl
    | forget => exact removeActive_rest.2.2
  | streamSent => exact hselecting rfl
  | _ => exact hsame rfl

/-! ## The phases in the tables -/

/-- The tables of the main loop say in which phase a connection is, after `n` were taken. -/
structure Placed (n : ℕ) (s : Handler) (connId : ConnId) (phase : Phase) : Prop where
  unused : n ≤ connId.toNat → phase = .idle
  announced : s.announced = some connId → phase = .idle
  pending : s.pending.contains connId = true → phase = .announced
  spliced : connId ∈ s.connIds → phase = .opened ∨ phase = .over
  active : s.main = .returned ∨
    (connId ∈ s.connIds → (s.active.contains connId = true ↔ phase = .opened))

def Phases (events : List Event) (s : Handler) : Prop :=
  ∀ connId, Placed (taken events) s connId (inbound connId events).phase

section

variable {events : List Event} {s s' : Handler} {e : Option Event} {m n : ℕ} {connId id : ConnId}
  {phase : Phase} {frame payload : Bytes}

theorem Placed.keep (h : Placed n s connId phase) (hle : n ≤ m)
    (hannounced : s'.announced = some connId → s.announced = some connId)
    (hpending : s'.pending.contains connId = true → s.pending.contains connId = true)
    (hids : connId ∈ s'.connIds → connId ∈ s.connIds)
    (hactive : s'.main = .returned ∨ s.main ≠ .returned ∧
      (connId ∈ s.connIds → s'.active.contains connId = s.active.contains connId)) :
    Placed m s' connId phase where
  unused hm := h.unused (hle.trans hm)
  announced hann := h.announced (hannounced hann)
  pending hin := h.pending (hpending hin)
  spliced hmem := h.spliced (hids hmem)
  active := by
    refine hactive.imp_right fun hsame hmem => ?_
    rw [hsame.2 (hids hmem)]
    exact h.active.resolve_left hsame.1 (hids hmem)

/-- The main loop goes on, and announces nothing. -/
theorem Placed.go (h : Placed n s connId phase) (hle : n ≤ m) (hmain : s.main ≠ .returned)
    (hannounced : s'.announced = none)
    (hpending : s'.pending.contains connId = true → s.pending.contains connId = true)
    (hids : connId ∈ s'.connIds → connId ∈ s.connIds)
    (hactive : connId ∈ s.connIds → s'.active.contains connId = s.active.contains connId) :
    Placed m s' connId phase := by
  refine h.keep hle (fun hann => ?_) hpending hids (.inr ⟨hmain, hactive⟩)
  rw [hannounced] at hann
  cases hann

theorem le_taken_append (events more : List Event) : taken events ≤ taken (events ++ more) := by
  rw [taken_append]
  exact Nat.le_add_right _ _

section

variable (h : Phases events s)
include h

theorem Phases.active_of_selecting (hmain : s.main = .selecting) (hmem : connId ∈ s.connIds) :
    s.active.contains connId = true ↔ (inbound connId events).phase = .opened :=
  (h connId).active.resolve_left (by simp [hmain]) hmem

theorem Phases.splice (hnumbered : Numbered (taken events) s) (hmain : s.main = .selecting)
    (hframe : readFrame frame = some (frameReady, id, payload))
    (hpending : s.pending.contains id = true) (stream : ℕ) :
    Phases (events ++ [.handled frame]) (s.splice id stream) := by
  obtain ⟨hpending', -, hmain'⟩ := @splice_rest s id stream
  obtain ⟨hlt, -⟩ := hnumbered.waiting id (.inl hpending)
  have hnone : (s.splice id stream).announced = none := by
    rw [announced, hmain', hmain]
  intro connId
  have hle := le_taken_append events [.handled frame]
  by_cases hid : connId = id
  · subst hid
    rw [inbound_handled_self hframe, Inbound.phase_handled_ready, if_pos ((h _).pending hpending)]
    refine ⟨fun hle' => by omega, fun hann => ?_, fun hin => ?_, fun _ => .inl rfl,
      .inr fun _ => by simp [splice_active]⟩
    · rw [hnone] at hann
      cases hann
    · simp [hpending', contains_erase] at hin
  · rw [inbound_handled_of_ne hframe (Ne.symm hid)]
    refine (h connId).go hle (by simp [hmain]) hnone (fun hin => ?_) (fun hmem => ?_) fun _ => ?_
    · rw [hpending', contains_erase, Bool.and_eq_true] at hin
      exact hin.1
    · rw [splice_connIds, List.mem_append, List.mem_singleton] at hmem
      exact hmem.resolve_right hid
    · rw [splice_active, decide_eq_false hid, Bool.false_or]

/-- READY for a connection that is not pending any more: it is in no table. -/
theorem Phases.lateReady (hmain : s.main = .selecting)
    (hframe : readFrame frame = some (frameReady, id, payload))
    (hpending : s.pending.get? id = none) (hpending' : s'.pending = s.pending)
    (hactive : s'.active = s.active) (hids : s'.connIds = s.connIds) (hmain' : s'.main = s.main) :
    Phases (events ++ [.handled frame]) s' := by
  have hnone : s'.announced = none := by
    rw [announced, hmain', hmain]
  intro connId
  have hle := le_taken_append events [.handled frame]
  by_cases hlate : connId = id ∧ (inbound connId events).phase = .announced
  · obtain ⟨rfl, hphase⟩ := hlate
    have hold := h connId
    rw [hphase] at hold
    have hnot : connId ∉ s'.connIds := by
      intro hmem
      rw [hids] at hmem
      rcases hold.spliced hmem with h | h <;> cases h
    refine ⟨fun hle' => ?_, fun hann => ?_, fun hin => ?_, (absurd · hnot), .inr (absurd · hnot)⟩
    · cases hold.unused (hle.trans hle')
    · rw [hnone] at hann
      cases hann
    · rw [hpending', contains, hpending] at hin
      cases hin
  · have hphase : (inbound connId (events ++ [.handled frame])).phase =
        (inbound connId events).phase := by
      by_cases hid : connId = id
      · subst hid
        rw [inbound_handled_self hframe, Inbound.phase_handled_ready,
          if_neg fun hphase => hlate ⟨rfl, hphase⟩]
      · rw [inbound_handled_of_ne hframe (Ne.symm hid)]
    rw [hphase]
    exact (h connId).go hle (by simp [hmain]) hnone (fun hin => hpending' ▸ hin)
      (fun hmem => hids ▸ hmem) fun _ => by rw [hactive]

theorem Phases.closed {event : Event} (hmain : s.main = .selecting)
    (hphase : ∀ connId, (inbound connId (events ++ [event])).phase = if connId = id ∧ (inbound
      connId events).phase = .opened then .over else (inbound connId events).phase) :
    Phases (events ++ [event]) (s.removeActive id) := by
  obtain ⟨hpending, -, hmain'⟩ := @removeActive_rest s id
  have hnone : (s.removeActive id).announced = none := by
    rw [announced, hmain', hmain]
  intro connId
  have hle := le_taken_append events [event]
  have hold := h connId
  rw [hphase]
  split
  · rename_i hopened
    rw [hopened.2] at hold
    refine ⟨fun hle' => ?_, fun hann => ?_, fun hin => ?_, fun _ => .inr rfl, .inr fun _ => ?_⟩
    · cases hold.unused (hle.trans hle')
    · rw [hnone] at hann
      cases hann
    · rw [hpending] at hin
      cases hold.pending hin
    · simp [removeActive_active, hopened.1]
  · rename_i hnot
    refine hold.go hle (by simp [hmain]) hnone (fun hin => hpending ▸ hin)
      (fun hmem => removeActive_connIds ▸ hmem) fun hmem => ?_
    rw [removeActive_active]
    by_cases hid : connId = id
    · have hactive : s.active.contains connId = false := by
        rw [← Bool.not_eq_true, h.active_of_selecting hmain hmem]
        exact fun hopened => hnot ⟨hid, hopened⟩
      rw [hactive, Bool.false_and]
    · simp [hid]

theorem Phases.requested (hnumbered : Numbered (taken events) s) (hfew : taken events < 2 ^ 32)
    (hmain : s.main = .selecting) (forward : Chan 64 ForwardRequest) {main : Main}
    (hannounced : ∀ connId, ({ s.requested forward with main } : Handler).announced = some connId →
      connId = s.nextId) :
    Phases (events ++ [.taken s.nextId]) { s.requested forward with main } := by
  have hnext : s.nextId.toNat = taken events := by
    rw [hnumbered.next, UInt32.toNat_ofNat', Nat.mod_eq_of_lt hfew]
  intro connId
  rw [show inbound connId (events ++ [.taken s.nextId]) = inbound connId events from
    inbound_append ..]
  have hids : ({ s.requested forward with main } : Handler).connIds = s.connIds := by
    rw [connIds, (requested_rest forward).2, connIds]
  refine ⟨fun hle => (h connId).unused ((le_taken_append ..).trans hle), fun hann => ?_,
    fun hin => (h connId).pending ?_, fun hmem => (h connId).spliced (hids ▸ hmem),
    .inr fun hmem => ?_⟩
  · rw [hannounced connId hann]
    exact (h _).unused hnext.ge
  · rw [requested_eq] at hin
    have hold := (@evict_pending_contains s s.nextId connId).symm.trans hin
    exact (Bool.and_eq_true_iff.mp hold).1
  · rw [(requested_rest forward).1]
    exact h.active_of_selecting hmain (hids ▸ hmem)

theorem Phases.connected {destPort : UInt16} {stream : ℕ} (hnumbered : Numbered (taken events) s)
    (hmain : s.main = .sendingWs (encodeConnect id destPort) (.expectReady id stream)) (ok : Bool)
    (wsOut : Chan 256 Bytes) (now : Int) :
    Phases (events ++ [.queued (encodeConnect id destPort)])
      ({ s with wsOut, main := .selecting }.afterSend ok now (.expectReady id stream)) := by
  have hann : s.announced = some id := by rw [announced, hmain]
  have hframe := readFrame_encodeConnect id destPort
  obtain ⟨hlt, hnew⟩ := hnumbered.waiting id (.inr hann)
  have hnext : ∀ {s' : Handler}, s'.announced = none → s'.connIds = s.connIds →
      s'.active = s.active → (∀ connId, s'.pending.contains connId = true →
        connId = id ∨ s.pending.contains connId = true) →
      Phases (events ++ [.queued (encodeConnect id destPort)]) s' := by
    intro s' hnone hids hactive hpending connId
    have hle := le_taken_append events [.queued (encodeConnect id destPort)]
    by_cases hid : connId = id
    · subst hid
      have hnot : connId ∉ s'.connIds := hids ▸ hnew
      rw [inbound_queued_self hframe, Inbound.phase_queued_connect, if_pos ((h _).announced hann)]
      refine ⟨fun hle' => by omega, fun hann' => ?_, fun _ => rfl, (absurd · hnot),
        .inr (absurd · hnot)⟩
      rw [hnone] at hann'
      cases hann'
    · rw [inbound_queued_of_ne hframe (Ne.symm hid)]
      exact (h connId).go hle (by simp [hmain]) hnone
        (fun hin => (hpending connId hin).resolve_left hid) (fun hmem => hids ▸ hmem)
        fun _ => by rw [hactive]
  cases ok with
  | false => exact hnext rfl rfl rfl fun _ => .inr
  | true =>
    refine hnext rfl rfl rfl fun connId hin => ?_
    dsimp only [afterSend] at hin
    rw [if_pos rfl, contains_insert, Bool.or_eq_true, decide_eq_true_iff] at hin
    exact hin

theorem Phases.queued {after : AfterSend} (hnumbered : Numbered (taken events) s)
    (hfits : Fits frame after) (hmain : s.main = .sendingWs frame after) (ok : Bool)
    (wsOut : Chan 256 Bytes) (now : Int) :
    Phases (events ++ [.queued frame])
      ({ s with wsOut, main := .selecting }.afterSend ok now after) := by
  have hgo : ∀ {m : ℕ} {connId : ConnId} {phase : Phase}, taken events ≤ m →
      phase = (inbound connId events).phase →
      Placed m { s with wsOut, main := .selecting } connId phase := by
    intro m connId phase hle hphase
    rw [hphase]
    exact (h connId).go hle (by simp [hmain]) rfl (fun hin => hin) (fun hmem => hmem) fun _ => rfl
  cases hfits with
  | pong =>
    intro connId
    refine hgo (le_taken_append ..) ?_
    rw [inbound_queued_same readFrame_encodePong (by decide) (by decide)]
  | data id data =>
    intro connId
    refine hgo (le_taken_append ..) ?_
    rw [inbound_queued_same (readFrame_encodeData id data) (by decide) (by decide)]
  | connect id destPort stream => exact h.connected hnumbered hmain ok wsOut now
  | close id =>
    refine Phases.closed (fun connId => hgo le_rfl rfl) rfl fun connId => ?_
    by_cases hid : connId = id
    · subst hid
      rw [inbound_queued_self (readFrame_encodeClose connId), Inbound.phase_queued_close]
      simp
    · rw [inbound_queued_of_ne (readFrame_encodeClose id) (Ne.symm hid), if_neg (fun h => hid h.1)]

/-- After every move the tables agree with what was seen of each connection. -/
theorem Phases.move (hnumbered : Numbered (taken events) s) (hframed : Framed s)
    (hmove : Move s e s') (hfew : ∀ connId, e = some (.taken connId) → taken events < 2 ^ 32) :
    Phases (events ++ e.toList) s' := by
  have hle := le_taken_append events e.toList
  have hnone : ∀ connId, (inbound connId (events ++ (none : Option Event).toList)).phase =
      (inbound connId events).phase := fun _ => by simp
  -- The main loop goes on with the same tables.
  have hgo : ∀ {s' : Handler}, (∀ connId, (inbound connId (events ++ e.toList)).phase =
      (inbound connId events).phase) → s.main ≠ .returned → s'.announced = none →
      s'.pending = s.pending → s'.connIds = s.connIds → s'.active = s.active →
      Phases (events ++ e.toList) s' := by
    intro s' hphase hmain hann hpending hids hactive connId
    rw [hphase]
    exact (h connId).go hle hmain hann (fun hin => hpending ▸ hin) (fun hmem => hids ▸ hmem)
      fun _ => by rw [hactive]
  -- Another task goes on.
  have hother : ∀ {s' : Handler}, (∀ connId, (inbound connId (events ++ e.toList)).phase =
      (inbound connId events).phase) → s'.main = s.main → s'.pending = s.pending →
      s'.connIds = s.connIds → s'.active = s.active → Phases (events ++ e.toList) s' := by
    intro s' hphase hmain hpending hids hactive connId
    rw [hphase]
    refine (h connId).keep hle (fun hann => ?_) (fun hin => hpending ▸ hin)
      (fun hmem => hids ▸ hmem) ?_
    · rwa [announced, hmain] at hann
    · by_cases hreturned : s.main = .returned
      · exact .inl (hmain.trans hreturned)
      · exact .inr ⟨hreturned, fun _ => by rw [hactive]⟩
  have htook : ∀ (frame : Bytes) (fromPi : Chan 256 Bytes), Phases events (s.took frame fromPi) :=
    fun _ _ connId => ⟨(h connId).unused, (h connId).announced, (h connId).pending,
      (h connId).spliced, (h connId).active⟩
  cases hmove with
  | leave reason hmain => exact hgo hnone (by simp [hmain]) rfl rfl rfl rfl
  | splice hmain hframe hpending hrecv =>
    rename_i frame payload fromPi connId stream
    have hnumbered' : Numbered (taken events) (s.took frame fromPi) :=
      hnumbered.shrink rfl (fun _ hwait => hwait) rfl
    exact (htook _ _).splice hnumbered' hmain hframe (contains_eq_true_iff.mpr ⟨_, hpending⟩) _
  | lateReady hmain hframe hpending => exact h.lateReady hmain hframe hpending rfl rfl rfl rfl
  | deliver hmain hframe hpayload hactive =>
    refine hgo (phase_handled_same fun frameType id payload' hread => ?_) (by simp [hmain])
      rfl rfl rfl rfl
    cases hframe.symm.trans hread
    exact ⟨by decide, by decide⟩
  | closedByPi hmain hframe hrecv =>
    rename_i frame payload fromPi id
    refine (htook _ _).closed hmain fun connId => ?_
    by_cases hid : connId = id
    · subst hid
      rw [inbound_handled_self hframe, Inbound.phase_handled_close]
      simp
    · rw [inbound_handled_of_ne hframe (Ne.symm hid), if_neg (fun h => hid h.1)]
  | ping hmain hframe =>
    exact hgo (phase_handled_same fun _ _ _ hread =>
      ⟨(hframe _ _ _ hread).1, (hframe _ _ _ hread).2.1⟩) (by simp [hmain]) rfl rfl rfl rfl
  | ignored hmain hframe =>
    exact hother (phase_handled_same fun _ _ _ hread =>
      ⟨(hframe _ _ _ hread).1, (hframe _ _ _ hread).2.1⟩) rfl rfl rfl rfl
  | drop hmain hfull =>
    rename_i forward
    have hselecting : (s.requested forward).main = .selecting := by
      exact evict_rest.2.2.trans hmain
    have hafter := @Phases.requested _ _ h hnumbered (hfew _ rfl) hmain forward .selecting
      (by rintro _ ⟨⟩)
    rwa [← hselecting] at hafter
  | announce hmain hroom =>
    refine h.requested hnumbered (hfew _ rfl) hmain _ ?_
    rintro id ⟨⟩
    rfl
  | takeData hmain | takeEof hmain =>
    exact hgo (fun _ => congrArg Inbound.phase (inbound_append ..)) (by simp [hmain])
      rfl rfl rfl rfl
  | sweep now hmain =>
    intro connId
    rw [hnone]
    refine (h connId).keep hle (fun hann => hann) (fun hin => ?_) (fun hmem => hmem)
      (.inr ⟨by simp [hmain], fun _ => rfl⟩)
    dsimp only [sweep] at hin
    rw [contains_retain_key, Bool.and_eq_true] at hin
    exact hin.1
  | queued now hmain hsend => exact h.queued hnumbered (hframed _ _ hmain) hmain _ _ _
  | streamSent hmain =>
    exact hgo hnone (by simp [hmain]) rfl rfl (modifyConn_connIds fun _ => rfl) rfl
  | dropClone hmain | joined hmain => exact hgo hnone (by simp [hmain]) rfl rfl rfl rfl
  | finish hmain =>
    intro connId
    rw [hnone]
    exact (h connId).keep hle (by rintro ⟨⟩) (by rintro ⟨⟩)
      (fun hmem => returnFromRun_connIds ▸ hmem) (.inl rfl)
  | handOver | wsOther | wsEnd | take | registry => exact hother hnone rfl rfl rfl rfl
  | arrive | written =>
    exact hother (fun _ => congrArg Inbound.phase (inbound_append ..)) rfl rfl rfl rfl
  | read | readEnd | readLost | receive | receiveEnd | write | writeFails =>
    exact hother hnone rfl rfl (modifyConn_connIds fun _ => rfl) rfl
  | readSent | eofSent =>
    exact hother (fun _ => congrArg Inbound.phase (inbound_append ..)) rfl rfl
      (modifyConn_connIds fun _ => rfl) rfl

end

end

theorem phases_start : Phases [] .start := by
  intro connId
  refine ⟨fun _ => rfl, ?_, ?_, ?_, .inr ?_⟩
  · rintro ⟨⟩
  · rintro ⟨⟩
  · rintro ⟨⟩
  · rintro ⟨⟩

/-! ## The bytes for a client -/

end Handler

theorem Inbound.bytes_queued (i : Inbound) (frameType : UInt8) :
    (i.queued frameType).bytes = i.bytes := by
  unfold queued
  split
  · split <;> rfl
  · split <;> rfl
  · rfl
  · rfl

theorem Inbound.bytes_handled (i : Inbound) (frameType : UInt8) (payload : Bytes) :
    (i.handled frameType payload).bytes =
      if i.phase = .opened ∧ frameType = frameData then i.bytes ++ payload else i.bytes := by
  cases hphase : i.phase with
  | idle | «over» => simp [handled, hphase]
  | announced =>
    simp only [handled, hphase]
    split <;> simp
  | opened =>
    simp only [handled, hphase, true_and]
    by_cases hclose : frameType = frameClose
    · subst hclose
      simp [frameClose, frameData]
    · rw [if_neg hclose]
      split <;> rfl

theorem Inbound.unopened_of_queued
    (h : (i.queued frameType).phase = .idle ∨ (i.queued frameType).phase = .announced) :
    i.phase = .idle ∨ i.phase = .announced := by
  cases hphase : i.phase with
  | idle => exact .inl rfl
  | announced => exact .inr rfl
  | opened =>
    simp only [queued, hphase] at h
    split at h <;> simp [hphase] at h
  | «over» => simp [queued, hphase] at h

theorem Inbound.unopened_of_handled (h : (i.handled frameType payload).phase = .idle ∨
      (i.handled frameType payload).phase = .announced) :
    i.phase = .idle ∨ i.phase = .announced := by
  cases hphase : i.phase with
  | idle => exact .inl rfl
  | announced => exact .inr rfl
  | opened =>
    simp only [handled, hphase] at h
    split at h
    · simp at h
    · split at h <;> simp [hphase] at h
  | «over» => simp [handled, hphase] at h

namespace Handler

section

variable {connId : ConnId} {events : List Event} {frame : Bytes}

/-- Nothing is for the client of a connection before it is opened. -/
theorem inbound_bytes_nil (h : (inbound connId events).phase = .idle ∨
    (inbound connId events).phase = .announced) : (inbound connId events).bytes = [] := by
  induction events using List.reverseRecOn with
  | nil => rfl
  | append_singleton events event ih =>
    rw [inbound_append, List.foldl_cons, List.foldl_nil] at h ⊢
    cases event with
    | queued frame =>
      rw [inboundNext] at h ⊢
      cases hframe : frameFor connId frame with
      | none =>
        rw [hframe] at h
        exact ih h
      | some f =>
        rw [hframe, elim_some] at h
        rw [elim_some, Inbound.bytes_queued]
        exact ih (Inbound.unopened_of_queued h)
    | handled frame =>
      rw [inboundNext] at h ⊢
      cases hframe : frameFor connId frame with
      | none =>
        rw [hframe] at h
        exact ih h
      | some f =>
        rw [hframe, elim_some] at h
        have hold := Inbound.unopened_of_handled h
        rw [elim_some, Inbound.bytes_handled, if_neg]
        · exact ih hold
        · rintro ⟨hopened, -⟩
          rw [hopened] at hold
          simp at hold
    | sent | arrived | taken | collected | offered => exact ih h

/-- A frame of the Pi that has no bytes for an open connection. -/
theorem bytes_handled_same (h : ∀ payload, readFrame frame = some (frameData, connId, payload) →
      (inbound connId events).phase ≠ .opened ∨ payload = []) :
    (inbound connId (events ++ [.handled frame])).bytes = (inbound connId events).bytes := by
  rw [inbound_append, List.foldl_cons, List.foldl_nil, inboundNext]
  cases hframe : frameFor connId frame with
  | none => rfl
  | some f =>
    obtain ⟨frameType, payload⟩ := f
    rw [elim_some, Inbound.bytes_handled]
    split
    · rename_i hopened
      obtain ⟨hphase, rfl⟩ := hopened
      have hread := readFrame_of_frameFor hframe
      rw [(h payload hread).resolve_left (not_not_intro hphase), List.append_nil]
    · rfl

end

end Handler

def Writer.held : Writer → Bytes
  | .writing data => data
  | .receiving | .done => []

/-- What was written to a client is the first part of the bytes for it. Until its writer has ended
the rest is on the way. -/
structure Fed (c : Conn) (onWay bytes : Bytes) : Prop where
  written : c.toClient <+: bytes
  receiving : c.writer ≠ .done → c.toWriter.receiving = true
  live : c.writer ≠ .done →
    c.toClient ++ c.writer.held ++ c.toWriter.queue.flatten ++ onWay = bytes

namespace Handler

/-- The bytes that the main loop wants to queue for the writer of a connection. -/
def onWay (s : Handler) (k : ℕ) : Bytes :=
  match s.main with
  | .sendingStream conn data => if conn = k then data else []
  | _ => []

def AllFed (events : List Event) (s : Handler) : Prop :=
  ∀ k c, s.conns[k]? = some c → Fed c (s.onWay k) (inbound c.connId events).bytes

end Handler

section

variable {c c' : Conn} {onWay bytes data : Bytes}

theorem Fed.dropSender (h : Fed c onWay bytes) :
    Fed { c with toWriter := c.toWriter.dropSender } onWay bytes :=
  ⟨h.written, h.receiving, h.live⟩

theorem Fed.taken (h : Fed c [] bytes) : Fed c data (bytes ++ data) where
  written := h.written.trans (List.prefix_append _ _)
  receiving := h.receiving
  live hwriter := by
    have hlive := h.live hwriter
    rw [List.append_nil] at hlive
    rw [hlive]

theorem Fed.queued {ok : Bool} {toWriter : Chan 64 Bytes} (h : Fed c data bytes)
    (hsend : c.toWriter.send data = some (ok, toWriter)) : Fed { c with toWriter } [] bytes where
  written := h.written
  receiving hwriter := (Chan.receiving_of_send hsend).trans (h.receiving hwriter)
  live hwriter := by
    cases ok with
    | true => simpa [(Chan.queue_of_send hsend).1] using h.live hwriter
    | false =>
      obtain ⟨-, hgone⟩ := Chan.eq_of_send_false hsend
      exact absurd ((h.receiving hwriter).symm.trans hgone) (by decide)

theorem Fed.receive {toWriter : Chan 64 Bytes} (h : Fed c onWay bytes)
    (hwriter : c.writer = .receiving) (hrecv : c.toWriter.recv = some (some data, toWriter)) :
    Fed { c with toWriter, writer := .writing data } onWay bytes where
  written := h.written
  receiving _ := (Chan.queue_of_recv hrecv).2.trans (h.receiving (by simp [hwriter]))
  live _ := by
    have hlive := h.live (by simp [hwriter])
    simpa [(Chan.queue_of_recv hrecv).1, hwriter, Writer.held] using hlive

theorem Fed.write (h : Fed c onWay bytes) (hwriter : c.writer = .writing data) :
    Fed { c with writer := .receiving, toClient := c.toClient ++ data } onWay bytes := by
  have hlive := h.live (by simp [hwriter])
  rw [hwriter, Writer.held] at hlive
  refine ⟨⟨c.toWriter.queue.flatten ++ onWay, ?_⟩, fun _ => h.receiving (by simp [hwriter]),
    fun _ => ?_⟩
  · rw [← hlive]
    simp
  · simpa [Writer.held] using hlive

theorem Fed.ended (h : Fed c onWay bytes) (count : ℕ) : Fed { c with
      writer := .done
      toClient := c.toClient ++ c.writer.held.take count
      toWriter := c.toWriter.dropReceiver } onWay bytes := by
  refine ⟨?_, fun hdone => absurd rfl hdone, fun hdone => absurd rfl hdone⟩
  by_cases hwriter : c.writer = .done
  · simpa [hwriter, Writer.held] using h.written
  · rw [← h.live hwriter, List.append_assoc, List.append_assoc]
    exact (List.prefix_append_right_inj _).mpr
      ((List.take_prefix _ _).trans (List.prefix_append _ _))

end

namespace Handler

section

variable {events : List Event} {s s' : Handler} {e : Option Event}

theorem AllFed.keep (h : AllFed events s) {events' : List Event}
    (hbytes : ∀ connId ∈ s.connIds, (inbound connId events').bytes = (inbound connId events).bytes)
    (hconns : s'.conns = s.conns) (honWay : ∀ k, s'.onWay k = s.onWay k) : AllFed events' s' := by
  intro k c hc
  rw [hconns] at hc
  rw [honWay, hbytes _ (List.mem_map_of_mem (List.mem_of_getElem? hc))]
  exact h k c hc

theorem AllFed.conn (h : AllFed events s) {events' : List Event} {k : ℕ} {c : Conn}
    {f : Conn → Conn} (tcpOut : Chan 256 (ConnId × Bytes))
    (hbytes : ∀ connId, inbound connId events' = inbound connId events)
    (hconn : s.conns[k]? = some c) (hid : (f c).connId = c.connId)
    (hf : ∀ {onWay bytes}, Fed c onWay bytes → Fed (f c) onWay bytes) :
    AllFed events' ({ s with tcpOut }.modifyConn k f) := by
  intro i c' hc'
  rw [modifyConn_getElem?] at hc'
  obtain ⟨c₀, hc₀, rfl⟩ := map_eq_some_iff.mp hc'
  rw [hbytes]
  by_cases hi : k = i
  · subst hi
    cases hconn.symm.trans hc₀
    rw [if_pos rfl, hid]
    exact hf (h k c hconn)
  · rw [if_neg hi]
    exact h i c₀ hc₀

theorem AllFed.removeActive (h : AllFed events s) (id : ConnId) :
    AllFed events (s.removeActive id) := by
  intro k c' hc'
  rw [removeActive_getElem?] at hc'
  obtain ⟨c, hc, rfl⟩ := map_eq_some_iff.mp hc'
  have honWay : (s.removeActive id).onWay k = s.onWay k := by
    rw [onWay, removeActive_rest.2.2, onWay]
  rw [honWay]
  split
  · exact (h k c hc).dropSender
  · exact h k c hc

theorem onWay_eq_nil (h : ∀ k data, s.main ≠ .sendingStream k data) (k : ℕ) : s.onWay k = [] := by
  unfold onWay
  split
  · rename_i hmain
    exact absurd hmain (h _ _)
  · rfl

section

variable (h : AllFed events s)
include h

theorem AllFed.splice {id : ConnId} (hmain : s.main = .selecting)
    (hnil : (inbound id events).bytes = []) (stream : ℕ) : AllFed events (s.splice id stream) := by
  have hremoved : AllFed events ({ s with
      pendingDeadlines := s.pendingDeadlines.erase id
      pending := s.pending.erase id }.removeActive id) :=
    AllFed.removeActive (s := { s with
      pendingDeadlines := s.pendingDeadlines.erase id
      pending := s.pending.erase id }) h id
  have honWay : ∀ k, (s.splice id stream).onWay k = [] :=
    onWay_eq_nil (by simp [splice_rest.2.2, hmain])
  intro k c hc
  rw [honWay]
  unfold Handler.splice at hc
  rw [List.getElem?_append] at hc
  split at hc
  · have hold := hremoved k c hc
    rwa [onWay_eq_nil (by simp [removeActive_rest.2.2, hmain])] at hold
  · obtain rfl := List.mem_singleton.mp (List.mem_of_getElem? hc)
    rw [hnil]
    exact ⟨List.nil_prefix, fun _ => rfl, fun _ => rfl⟩

theorem AllFed.returnFromRun {reason : Exit} (hmain : s.main = .cleaningUp reason) :
    AllFed events s.returnFromRun := by
  intro k c' hc'
  rw [Handler.returnFromRun, List.getElem?_mapIdx] at hc'
  obtain ⟨c, hc, rfl⟩ := map_eq_some_iff.mp hc'
  have hold := h k c hc
  rw [onWay_eq_nil (by simp [hmain])] at hold
  split
  · exact hold.dropSender
  · exact hold

theorem AllFed.deliver {frame payload : Bytes} {id : ConnId} {k : ℕ} (hphases : Phases events s)
    (hlinked : Linked s) (hnodup : s.connIds.Nodup) (hmain : s.main = .selecting)
    (hframe : readFrame frame = some (frameData, id, payload)) (hactive : s.active.get? id = some k)
    (hconns : s'.conns = s.conns) (hmain' : s'.main = .sendingStream k payload) :
    AllFed (events ++ [.handled frame]) s' := by
  have hk := hlinked.active hactive
  have hopened : (inbound id events).phase = .opened :=
    (hphases.active_of_selecting hmain (List.mem_of_getElem? hk)).mp
      (contains_eq_true_iff.mpr ⟨k, hactive⟩)
  intro i c hc
  rw [hconns] at hc
  have hold := h i c hc
  rw [onWay_eq_nil (by simp [hmain])] at hold
  have hi : s.connIds[i]? = some c.connId := by simp [connIds, hc]
  rw [onWay, hmain']
  by_cases hki : k = i
  · subst hki
    cases hk.symm.trans hi
    rw [inbound_handled_self hframe, Inbound.bytes_handled, if_pos ⟨hopened, rfl⟩]
    simpa using hold.taken
  · have hne : id ≠ c.connId := by
      rintro rfl
      have hlt := (List.getElem?_eq_some_iff.mp hk).1
      exact hki ((List.getElem?_inj hlt hnodup).mp (hk.trans hi.symm))
    rw [inbound_handled_of_ne hframe hne]
    simpa [hki] using hold

theorem AllFed.streamSent {k : ℕ} {c : Conn} {data : Bytes} {ok : Bool} {toWriter : Chan 64 Bytes}
    (hmain : s.main = .sendingStream k data) (hconn : s.conns[k]? = some c)
    (hsend : c.toWriter.send data = some (ok, toWriter)) :
    AllFed events ({ s with main := .selecting }.modifyConn k fun c => { c with toWriter }) := by
  intro i c' hc'
  rw [modifyConn_getElem?] at hc'
  obtain ⟨c₀, hc₀, rfl⟩ := map_eq_some_iff.mp hc'
  have hold := h i c₀ hc₀
  rw [onWay, hmain] at hold
  rw [onWay_eq_nil (by simp [modifyConn])]
  by_cases hi : k = i
  · subst hi
    cases hconn.symm.trans hc₀
    simp only [if_true] at hold ⊢
    exact hold.queued hsend
  · simpa [hi] using hold

theorem AllFed.afterSend {frame : Bytes} {after : AfterSend}
    (hmain : s.main = .sendingWs frame after) (ok : Bool) (wsOut : Chan 256 Bytes) (now : Int) :
    AllFed (events ++ [.queued frame])
      ({ s with wsOut, main := .selecting }.afterSend ok now after) := by
  have hbytes : ∀ connId, (inbound connId (events ++ [.queued frame])).bytes =
      (inbound connId events).bytes := by
    intro connId
    rw [inbound_append, List.foldl_cons, List.foldl_nil, inboundNext]
    cases frameFor connId frame with
    | none => rfl
    | some f => exact Inbound.bytes_queued ..
  have hkept : ∀ {s' : Handler}, s'.main = .selecting → s'.conns = s.conns →
      AllFed (events ++ [.queued frame]) s' := by
    intro s' hmain' hconns
    refine h.keep (fun _ _ => hbytes _) hconns fun k => ?_
    rw [onWay_eq_nil (s := s') (by simp [hmain']), onWay_eq_nil (s := s) (by simp [hmain])]
  cases after with
  | resume => exact hkept rfl rfl
  | expectReady connId stream =>
    cases ok with
    | true | false => exact hkept rfl rfl
  | forget connId =>
    exact AllFed.removeActive (s := { s with wsOut, main := .selecting }) (hkept rfl rfl) connId

/-- No move loses, repeats or reorders bytes for a client. -/
theorem AllFed.move (hphases : Phases events s) (hlinked : Linked s) (hnodup : s.connIds.Nodup)
    (hmove : Move s e s') : AllFed (events ++ e.toList) s' := by
  have hnone : ∀ connId, inbound connId (events ++ (none : Option Event).toList) =
      inbound connId events := fun _ => by simp
  have hquiet : ∀ {s' : Handler}, s'.conns = s.conns → (∀ k, s'.onWay k = s.onWay k) →
      AllFed (events ++ (none : Option Event).toList) s' :=
    fun hconns honWay => h.keep (fun _ _ => by rw [hnone]) hconns honWay
  -- The main loop goes on, with nothing for a writer before and after.
  have hmain : ∀ {s' : Handler}, (∀ k data, s.main ≠ .sendingStream k data) →
      (∀ k data, s'.main ≠ .sendingStream k data) → ∀ k, s'.onWay k = s.onWay k := by
    intro s' hbefore hafter k
    rw [onWay_eq_nil hbefore, onWay_eq_nil hafter]
  -- A frame of the Pi that has no bytes for an open connection.
  have hframe : ∀ {frame : Bytes} {s' : Handler}, s.main = .selecting →
      (∀ id payload, readFrame frame = some (frameData, id, payload) →
        s.active.get? id = none ∨ payload = []) → s'.conns = s.conns →
      (∀ k, s'.onWay k = s.onWay k) → AllFed (events ++ [.handled frame]) s' := by
    intro frame s' hselecting hdata hconns honWay
    refine h.keep (fun connId hmem => bytes_handled_same fun payload hread => ?_) hconns honWay
    refine (hdata connId payload hread).imp_left fun hnone hopened => ?_
    have hactive := (hphases.active_of_selecting hselecting hmem).mpr hopened
    rw [contains, hnone] at hactive
    cases hactive
  have hother : ∀ {frame payload : Bytes} {frameType : UInt8} {id : ConnId} {s' : Handler},
      s.main = .selecting → readFrame frame = some (frameType, id, payload) →
      frameType ≠ frameData → s'.conns = s.conns → (∀ k, s'.onWay k = s.onWay k) →
      AllFed (events ++ [.handled frame]) s' := by
    intro frame payload frameType id s' hselecting hread hne
    refine hframe hselecting fun id' payload' hread' => ?_
    cases hread.symm.trans hread'
    exact absurd rfl hne
  cases hmove with
  | leave reason hselecting => exact hquiet rfl (hmain (by simp [hselecting]) (by simp))
  | splice hselecting hread hpending hrecv =>
    rename_i frame payload fromPi connId stream
    have htook : AllFed (events ++ [.handled frame]) (s.took frame fromPi) :=
      hother hselecting hread (by decide) rfl fun _ => rfl
    refine htook.splice hselecting ?_ stream
    have hannounced := (hphases connId).pending (contains_eq_true_iff.mpr ⟨_, hpending⟩)
    rw [inbound_handled_self hread, Inbound.bytes_handled, if_neg (by simp [hannounced])]
    exact inbound_bytes_nil (.inr hannounced)
  | lateReady hselecting hread => exact hother hselecting hread (by decide) rfl fun _ => rfl
  | deliver hselecting hread hpayload hactive =>
    exact h.deliver hphases hlinked hnodup hselecting hread hactive rfl rfl
  | closedByPi hselecting hread =>
    refine AllFed.removeActive ?_ _
    exact hother hselecting hread (by decide) rfl fun _ => rfl
  | ping hselecting hignored =>
    exact hframe hselecting (fun _ _ hread => (hignored _ _ _ hread).2.2 rfl) rfl
      (hmain (by simp [hselecting]) (by simp))
  | ignored hselecting hignored =>
    exact hframe hselecting (fun _ _ hread => (hignored _ _ _ hread).2.2 rfl) rfl fun _ => rfl
  | drop hselecting =>
    refine h.keep (fun _ _ => by rw [inbound_append]; rfl) (requested_rest _).2
      (hmain (by simp [hselecting]) ?_)
    rw [requested_eq]
    simp [evict_rest.2.2, hselecting]
  | announce hselecting =>
    exact h.keep (fun _ _ => by rw [inbound_append]; rfl) (requested_rest _).2
      (hmain (by simp [hselecting]) (by simp))
  | takeData hselecting | takeEof hselecting =>
    exact h.keep (fun _ _ => by rw [inbound_append]; rfl) rfl
      (hmain (by simp [hselecting]) (by simp))
  | queued now hsending hsend => exact h.afterSend hsending _ _ _
  | streamSent hsending hconn hsend =>
    rw [toList_none, List.append_nil]
    exact h.streamSent hsending hconn hsend
  | dropClone hleft => exact hquiet rfl (hmain (by simp [hleft]) (by simp))
  | joined hawaiting => exact hquiet rfl (hmain (by simp [hawaiting]) (by simp))
  | finish hcleaning =>
    rw [toList_none, List.append_nil]
    exact h.returnFromRun hcleaning
  | sweep | handOver | wsOther | wsEnd | take | registry => exact hquiet rfl fun _ => rfl
  | arrive | written => exact h.keep (fun _ _ => by rw [inbound_append]; rfl) rfl fun _ => rfl
  | read hconn | readEnd hconn | readLost hconn =>
    exact h.conn _ hnone hconn rfl fun hfed => ⟨hfed.written, hfed.receiving, hfed.live⟩
  | readSent hconn | eofSent hconn =>
    exact h.conn _ (fun _ => inbound_append ..) hconn rfl fun hfed =>
      ⟨hfed.written, hfed.receiving, hfed.live⟩
  | receive hconn hwriter hrecv =>
    exact h.conn _ hnone hconn rfl fun hfed => hfed.receive hwriter hrecv
  | receiveEnd hconn hwriter =>
    refine h.conn _ hnone hconn rfl fun hfed => ?_
    simpa [hwriter, Writer.held] using hfed.ended 0
  | write hconn hwriter => exact h.conn _ hnone hconn rfl fun hfed => hfed.write hwriter
  | writeFails count hconn hwriter =>
    refine h.conn _ hnone hconn rfl fun hfed => ?_
    simpa [hwriter, Writer.held] using hfed.ended count

end

end

/-! ## Whole runs -/

/-- What a run in which fewer connections were taken than there are ids keeps. -/
structure Tracked (events : List Event) (s : Handler) : Prop where
  numbered : Numbered (taken events) s
  linked : Linked s
  framed : Framed s
  phases : Phases events s
  fed : AllFed events s

/-- The invariants of the inbound direction, along a whole run. -/
theorem tracked_of_run {steps : List Step} {s : Handler}
    (hrun : system.run .start steps = some s) (hfew : taken (trace steps) ≤ 2 ^ 32) :
    Tracked (trace steps) s := by
  have hinv : taken (trace steps) ≤ 2 ^ 32 → Tracked (trace steps) s := by
    refine moves_invariant (I := fun events s => taken events ≤ 2 ^ 32 → Tracked events s)
      (fun _ => ⟨numbered_start, @linked_of_run .start [] rfl, ?_, phases_start, ?_⟩)
      (fun {events s e s'} ih hmove hle => ?_) hrun
    · rintro _ _ ⟨⟩
    · rintro _ _ ⟨⟩
    · rw [taken_append] at hle
      have h := ih (Nat.le_trans (Nat.le_add_right _ _) hle)
      have hroom : ∀ connId, e = some (.taken connId) → taken events < 2 ^ 32 := by
        rintro connId rfl
        exact hle
      refine ⟨?_, h.linked.move hmove, h.framed.move hmove,
        h.phases.move h.numbered h.framed hmove hroom,
        h.fed.move h.phases h.linked h.numbered.nodup hmove⟩
      rw [taken_append]
      exact h.numbered.move hmove hroom
  exact hinv hfew

end Handler

end Wardnet.Tunnel
