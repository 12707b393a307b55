/-
# What the tasks of a tunnel wait for

Two questions about the handler's channels. After an abort, `run` waits for the
WebSocket task, which stops by itself only when no sender of the outgoing
channel is left. And while both tasks are in their loops, each may wait for the
other: the main loop to send a frame to the Pi, the WebSocket task to hand one
over from the Pi.
-/

import Wardnet.Tunnel.Flow

namespace Wardnet.Tunnel.Handler

open Base Chan

/-! ## Waiting for the WebSocket task -/

/-- The senders of the outgoing channel that `run` holds: the original and the
clone until the clone is dropped, the original until it returns. -/
def heldSenders : Main → ℕ
  | .selecting | .sendingWs .. | .sendingStream .. | .left _ => 2
  | .awaitingWs _ | .cleaningUp _ => 1
  | .returned => 0

/-- `run` holds all senders of the outgoing channel. -/
def SendersHeld (s : Handler) : Prop := s.wsOut.senders = heldSenders s.main

/-- No other task comes to hold a sender. -/
theorem SendersHeld.move {s s' : Handler} {e : Option Event} (h : SendersHeld s)
    (hmove : Move s e s') : SendersHeld s' := by
  unfold SendersHeld at h ⊢
  have hkept : ∀ {s' : Handler}, s'.wsOut.senders = s.wsOut.senders →
      heldSenders s'.main = heldSenders s.main → s'.wsOut.senders = heldSenders s'.main := by
    intro s' hwsOut hmain
    rw [hwsOut, hmain, h]
  have hsame : ∀ {s' : Handler}, SamePipe s s' → s'.wsOut.senders = heldSenders s'.main :=
    fun hpipe => hkept (by rw [hpipe.wsOut]) (by rw [hpipe.main])
  have htook : ∀ (frame : Bytes) (fromPi : Chan 256 Bytes), SamePipe s (s.took frame fromPi) :=
    fun _ _ => ⟨rfl, rfl, rfl, rfl, rfl⟩
  cases hmove with
  | leave reason hmain => exact hkept rfl (by rw [hmain]; rfl)
  | deliver hmain | ping hmain | takeData hmain | takeEof hmain | streamSent hmain | joined hmain =>
    exact hkept rfl (by rw [hmain]; rfl)
  | splice => exact hsame ((htook _ _).trans (.splice ..))
  | closedByPi => exact hsame ((htook _ _).trans (.removeActive ..))
  | drop => exact hsame (.requested ..)
  | announce hmain =>
    exact hkept (congrArg senders (SamePipe.requested s _).wsOut) (by rw [hmain]; rfl)
  | queued now hmain hsend =>
    rename_i after ok wsOut
    have hafter := SamePipe.afterSend { s with wsOut, main := .selecting } ok now after
    refine hkept ?_ (by rw [hafter.main, hmain]; rfl)
    rw [hafter.wsOut]
    exact senders_of_send hsend
  | dropClone hmain =>
    show s.wsOut.senders - 1 = 1
    rw [h, hmain]
    rfl
  | finish hmain =>
    show s.wsOut.senders - 1 = 0
    rw [h, hmain]
    rfl
  | take hws hrecv => exact hkept (senders_of_recv hrecv) rfl
  | _ => exact hkept rfl rfl

/-- Whenever `run` waits for the WebSocket task after an abort, a sender of the
outgoing channel is alive: the one that `mpsc::channel` returned, which is a
local of `run` itself. So the WebSocket task does not see the channel end. -/
theorem sender_alive_after_abort (steps : List Step) (s : Handler)
    (hrun : system.run start steps = some s) (hwait : s.main = .awaitingWs .aborted) :
    s.wsOut.senders ≠ 0 ∧ ∀ wsOut, s.wsOut.recv ≠ some (none, wsOut) := by
  have hstart : SendersHeld start := rfl
  have hheld : SendersHeld s :=
    system.run_invariant (fun _ _ _ hinv hstep => hinv.move (step_move hstep)) hstart hrun
  have halive : s.wsOut.senders ≠ 0 := by
    rw [hheld, hwait]
    exact Nat.one_ne_zero
  refine ⟨halive, fun wsOut hrecv => ?_⟩
  unfold recv at hrecv
  split at hrecv
  · cases hrecv
  · rw [if_neg halive] at hrecv
    cases hrecv

def abortSteps : List Step := [.registry .cancel, .main .abort, .main .dropClone]

/-- The abort that leaves `run` waiting while its own sender is alive. -/
theorem abort_waits_with_sender_alive :
    ∃ (steps : List Step) (s : Handler), system.run start steps = some s ∧
      s.main = .awaitingWs .aborted ∧ s.wsOut.senders ≠ 0 :=
  ⟨abortSteps, _, rfl, rfl, by decide⟩

theorem sender_alive_after_abort_sample :
    ∃ s, system.run start abortSteps = some s ∧ s.main = .awaitingWs .aborted ∧
      s.wsOut.senders ≠ 0 ∧ ∀ wsOut, s.wsOut.recv ≠ some (none, wsOut) :=
  ⟨_, rfl, rfl, sender_alive_after_abort abortSteps _ rfl rfl⟩

/-! ## Waiting for each other -/

/-- The main loop waits to send on the full outgoing channel while the WebSocket
task waits to send on the full inbound channel. -/
def Deadlocked (s : Handler) : Prop :=
  (∃ frame after, s.main = .sendingWs frame after) ∧ s.wsOut.Full ∧
    (∃ data, s.ws = .sendingPi data) ∧ s.fromPi.Full

/-- The step takes new work: a frame from the socket, an inbound connection or
an item of a stream. -/
def TakesWork : Step → Prop
  | .ws (.message (.binary _)) | .main .forwardRequest | .main .streamItem => True
  | _ => False

instance : DecidablePred TakesWork := fun step => by
  unfold TakesWork
  split <;> infer_instance

/-- No new work is taken while both channels between the tasks are full. -/
def TakesWorkWithRoom (s : Handler) (step : Step) : Prop :=
  TakesWork step → ¬ (s.wsOut.Full ∧ s.fromPi.Full)

instance (s : Handler) : DecidablePred (TakesWorkWithRoom s) :=
  fun _ => inferInstanceAs (Decidable (_ → _))

def Event.IsWork : Event → Prop
  | .arrived _ | .taken _ | .collected .. => True
  | .handled _ | .queued _ | .sent _ | .offered .. => False

theorem takesWork_of_seen {s : Handler} {step : Step} {event : Event}
    (hseen : s.seen step = some event) (hwork : event.IsWork) : TakesWork step := by
  unfold seen at hseen
  split at hseen
  · obtain ⟨frame, -, rfl⟩ := Option.map_eq_some_iff.mp hseen
    cases hwork
  · trivial
  · trivial
  · split at hseen
    · cases hseen
      cases hwork
    · cases hseen
  · trivial
  · split at hseen
    · cases hseen
      cases hwork
    · cases hseen
  · obtain ⟨c, -, hoffer⟩ := Option.bind_eq_some_iff.mp hseen
    unfold offer at hoffer
    split at hoffer
    · split at hoffer
      · cases hoffer
        cases hwork
      · cases hoffer
    · cases hoffer
  · cases hseen

/-- A step into the mutual wait takes new work while both channels are full. -/
theorem not_deadlocked_step {s s' : Handler} {step : Step}
    (hroom : TakesWorkWithRoom s step) (hfree : ¬ Deadlocked s)
    (hstep : system.step s step = some s') : ¬ Deadlocked s' := by
  rintro ⟨⟨frame, after, hmain'⟩, hwsOut, ⟨data, hws⟩, hfromPi⟩
  have hmove := step_move hstep
  have hselecting : s'.main ≠ .selecting := by simp [hmain']
  generalize hseen : s.seen step = event at hmove
  cases hmove with
  | leave | deliver | dropClone | joined | finish => cases hmain'
  | splice hmain => exact hselecting ((SamePipe.splice _ _ _).main.trans hmain)
  | closedByPi hmain => exact hselecting ((SamePipe.removeActive _ _).main.trans hmain)
  | drop hmain => exact hselecting ((SamePipe.requested _ _).main.trans hmain)
  | queued => exact hselecting (SamePipe.afterSend _ _ _ _).main
  | lateReady hmain | ignored hmain | sweep now hmain => exact hselecting hmain
  | streamSent => exact hselecting rfl
  -- Taking a frame makes room in the inbound channel.
  | ping hmain hframe hrecv => exact not_full_of_recv hrecv hfromPi
  | announce hmain =>
    rename_i forward req hroom'
    exact hroom (takesWork_of_seen hseen trivial)
      ⟨(SamePipe.requested s forward).wsOut ▸ hwsOut, requested_fromPi s forward ▸ hfromPi⟩
  | takeData | takeEof | arrive => exact hroom (takesWork_of_seen hseen trivial) ⟨hwsOut, hfromPi⟩
  | wsOther ws hdone hbefore hafter hlive hidle => exact hidle data hws
  | handOver | wsEnd | take | written => cases hws
  | _ => exact hfree ⟨⟨frame, after, hmain'⟩, hwsOut, ⟨data, hws⟩, hfromPi⟩

/-- In every run in which no task takes new work while both channels are full,
the two tasks never wait for each other. -/
theorem never_deadlocked_with_room (steps : List Step) (s : Handler)
    (hroom : system.Along TakesWorkWithRoom start steps)
    (hrun : system.run start steps = some s) : ¬ Deadlocked s := by
  have hstart : ¬ Deadlocked start := by
    rintro ⟨⟨frame, after, hmain⟩, -⟩
    cases hmain
  exact system.run_invariant_along (fun _ _ _ hguard hinv hstep =>
    not_deadlocked_step hguard hinv hstep) hstart hroom hrun

/-! ## A flood of PINGs -/

def encodePing : Bytes := framePing :: beBytes32 0

/-- Where the two tasks are, how many frames wait for the Pi, and how many PINGs
wait for the loop. -/
structure At (s : Handler) (main : Main) (ws : Ws) (out pings : ℕ) : Prop where
  main_eq : s.main = main
  ws_eq : s.ws = ws
  wsOut : s.wsOut.queue.length = out
  wsOpen : s.wsOut.receiving = true
  fromPi : s.fromPi.queue = List.replicate pings encodePing
  piOpen : s.fromPi.receiving = true

variable {s : Handler} {main : Main} {ws : Ws} {out pings : ℕ}

theorem At.takePing (h : At s main .selecting out pings) :
    ∃ s', system.Reachable s s' ∧ At s' main (.sendingPi encodePing) out pings := by
  refine ⟨{ s with ws := .sendingPi encodePing },
    .single _ (l := .ws (.message (.binary encodePing))) ?_,
    h.main_eq, rfl, h.wsOut, h.wsOpen, h.fromPi, h.piOpen⟩
  simp [system, wsStep, h.ws_eq]

theorem At.handOver (h : At s main (.sendingPi encodePing) out pings) (hroom : pings < 256) :
    ∃ s', system.Reachable s s' ∧ At s' main .selecting out (pings + 1) := by
  have hlen : s.fromPi.queue.length < 256 := by simpa [h.fromPi] using hroom
  refine ⟨{ s with fromPi := s.fromPi.push encodePing hlen, ws := .selecting },
    .single _ (l := .ws .sentToPi) ?_,
    h.main_eq, rfl, h.wsOut, h.wsOpen, ?_, h.piOpen⟩
  · simp [system, wsStep, h.ws_eq, send_of_room _ h.piOpen hlen]
  · simp [push, h.fromPi, List.replicate_succ']

theorem At.takeFrame (h : At s .selecting ws out (pings + 1)) :
    ∃ s', system.Reachable s s' ∧ At s' (.sendingWs encodePong .resume) ws out pings := by
  refine ⟨{ s with
      fromPi := s.fromPi.pop
      handled := s.handled ++ [encodePing]
      main := .sendingWs encodePong .resume },
    .single _ (l := .main .piFrame) ?_,
    rfl, h.ws_eq, h.wsOut, h.wsOpen, ?_, h.piOpen⟩
  · simp only [system, mainStep, h.main_eq, recv_of_cons h.fromPi, Option.map_some]
    rfl
  · simp [pop, h.fromPi]

theorem At.sendPong (h : At s (.sendingWs encodePong .resume) ws out pings) (hroom : out < 256) :
    ∃ s', system.Reachable s s' ∧ At s' .selecting ws (out + 1) pings := by
  have hlen : s.wsOut.queue.length < 256 := by simpa [h.wsOut] using hroom
  refine ⟨{ s with wsOut := s.wsOut.push encodePong hlen, main := .selecting },
    .single _ (l := .main (.sent 0)) ?_,
    rfl, h.ws_eq, ?_, h.wsOpen, h.fromPi, h.piOpen⟩
  · simp [system, mainStep, h.main_eq, send_of_room _ h.wsOpen hlen, afterSend]
  · simp [push, h.wsOut]

/-- The socket delivers `n` PINGs, and each is answered before the next, while
the WebSocket task never takes an answer. -/
theorem At.answered (n : ℕ) (h : At s .selecting .selecting out 0) (hroom : out + n ≤ 256) :
    ∃ s', system.Reachable s s' ∧ At s' .selecting .selecting (out + n) 0 := by
  induction n generalizing s out with
  | zero => exact ⟨s, .refl _ s, h⟩
  | succ n ih =>
    obtain ⟨s₁, hreach₁, h₁⟩ := h.takePing
    obtain ⟨s₂, hreach₂, h₂⟩ := h₁.handOver (by omega)
    obtain ⟨s₃, hreach₃, h₃⟩ := h₂.takeFrame
    obtain ⟨s₄, hreach₄, h₄⟩ := h₃.sendPong (by omega)
    obtain ⟨s', hreach, h'⟩ := ih h₄ (by omega)
    refine ⟨s', ?_, by rwa [Nat.add_right_comm] at h'⟩
    exact hreach₁.trans _ (hreach₂.trans _ (hreach₃.trans _ (hreach₄.trans _ hreach)))

/-- The socket delivers `n` PINGs that the loop does not take. -/
theorem At.queued (n : ℕ) (h : At s main .selecting out pings) (hroom : pings + n ≤ 256) :
    ∃ s', system.Reachable s s' ∧ At s' main .selecting out (pings + n) := by
  induction n generalizing s pings with
  | zero => exact ⟨s, .refl _ s, h⟩
  | succ n ih =>
    obtain ⟨s₁, hreach₁, h₁⟩ := h.takePing
    obtain ⟨s₂, hreach₂, h₂⟩ := h₁.handOver (by omega)
    obtain ⟨s', hreach, h'⟩ := ih h₂ (by omega)
    refine ⟨s', ?_, by rwa [Nat.add_right_comm] at h'⟩
    exact hreach₁.trans _ (hreach₂.trans _ hreach)

/-- The Pi sends 514 PINGs while the WebSocket task keeps reading the socket: 256
are answered into the outgoing channel, the loop waits to answer the next, 256
fill the inbound channel, and the WebSocket task waits to hand over the last. -/
theorem ping_flood_deadlocks :
    ∃ (steps : List Step) (s : Handler), system.run start steps = some s ∧ Deadlocked s := by
  have hstart : At start .selecting .selecting 0 0 := ⟨rfl, rfl, rfl, rfl, rfl, rfl⟩
  obtain ⟨s₁, hreach₁, h₁⟩ := hstart.answered 256 (by omega)
  obtain ⟨s₂, hreach₂, h₂⟩ := h₁.queued 1 (by omega)
  obtain ⟨s₃, hreach₃, h₃⟩ := h₂.takeFrame
  obtain ⟨s₄, hreach₄, h₄⟩ := h₃.queued 256 (by omega)
  obtain ⟨s₅, hreach₅, h₅⟩ := h₄.takePing
  obtain ⟨steps, hrun⟩ := hreach₁.trans _ (hreach₂.trans _ (hreach₃.trans _
    (hreach₄.trans _ hreach₅)))
  refine ⟨steps, s₅, hrun, ⟨_, _, h₅.main_eq⟩, h₅.wsOut, ⟨_, h₅.ws_eq⟩, ?_⟩
  rw [Chan.Full, h₅.fromPi, List.length_replicate]

/-- A PING that is answered at once is within the condition. -/
theorem never_deadlocked_with_room_sample :
    ∃ s, system.run start [.ws (.message (.binary encodePing)), .ws .sentToPi, .main .piFrame,
        .main (.sent 0)] = some s ∧ ¬ Deadlocked s :=
  ⟨_, rfl, never_deadlocked_with_room
    [.ws (.message (.binary encodePing)), .ws .sentToPi, .main .piFrame, .main (.sent 0)] _
    (by decide) rfl⟩

end Wardnet.Tunnel.Handler
