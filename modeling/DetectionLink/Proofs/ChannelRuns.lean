import DetectionLink.Proofs.Connection

/-!
# Runs of a channel

A new channel is used in any way: it connects, receives, sends and is closed, in any order and
against any host, and anything may happen to the world in between. After every operation its
state, its stream and what it holds of the supervisor's lines agree.

* `Operation`, `perform`: what a channel can be asked to do;
* `sound_run`: the invariant after any operations;
* `state_stream_lines_agree`: what the invariant says, and what connecting again and closing again
  come to.
-/

namespace DetectionLink

/-- What a channel can be asked to do. In between anything may happen to the world. -/
inductive Operation (σ : Type)
  | connect
  | receive (timeout : Option Duration)
  | receiveUntil (deadline : Option Instant)
  | sendLine (payload : Bytes)
  | close
  | elapsed (world : σ)

namespace Channel

variable {σ : Type} {H : Host σ}

/-! ## One operation -/

variable (H) in
/-- A channel and its world after one operation. -/
def perform : Channel × σ → Operation σ → Channel × σ
  | (c, w), .connect => (c.connect H w).2
  | (c, w), .receive timeout => (c.receive H timeout w).2
  | (c, w), .receiveUntil deadline => (c.receiveUntil H deadline w).2
  | (c, w), .sendLine payload => (c.sendLine H payload w).2
  | (c, w), .close => c.close H w
  | (c, _), .elapsed world => (c, world)

theorem sound_perform {c : Channel} (h : c.Sound) (w : σ) (operation : Operation σ) :
    (perform H (c, w) operation).1.Sound := by
  cases operation with
  | connect => exact sound_connect h w
  | receive timeout => exact sound_receiveUntil h
  | receiveUntil deadline => exact sound_receiveUntil h
  | sendLine payload => exact sound_sendLine h payload w
  | close => exact sound_close h w
  | elapsed world => exact h

/-- A channel that says it is connected is left as it is by a connect, its waiting lines
included. -/
theorem connect_of_connected {c : Channel} (connected : c.state = .connected) (w : σ) :
    c.connect H w = (.ok (), c, w) := by
  have isConnected : c.isConnected = true := decide_eq_true connected
  rw [connect, if_pos isConnected]

/-- A closed channel has nothing left to release. -/
theorem close_closed (c : Channel) (w : σ) : c.closed.close H w = (c.closed, w) := rfl

theorem close_close (c : Channel) (w : σ) :
    (c.close H w).1.close H (c.close H w).2 = c.close H w := by
  have once := close_fst (H := H) c w
  calc (c.close H w).1.close H (c.close H w).2
      = c.closed.close H (c.close H w).2 := by rw [once]
    _ = (c.closed, (c.close H w).2) := close_closed c _
    _ = c.close H w := by rw [← once]

/-! ## Any operations -/

variable (H) in
/-- A new channel after a sequence of operations. -/
def run (config : ChannelConfig) (w : σ) (operations : List (Operation σ)) : Channel × σ :=
  operations.foldl (perform H) (.ofConfig config, w)

theorem sound_run (config : ChannelConfig) (w : σ) (operations : List (Operation σ)) :
    (run H config w operations).1.Sound := by
  suffices general : ∀ used : Channel × σ, used.1.Sound →
      (operations.foldl (perform H) used).1.Sound from
    general (.ofConfig config, w) (sound_ofConfig config)
  induction operations with
  | nil => exact fun _ h => h
  | cons operation rest ih => exact fun used h => ih _ (sound_perform h used.2 operation)

theorem Sound.state_eq_connected_iff {c : Channel} (h : c.Sound) :
    c.state = .connected ↔ c.stream.isSome = true := by
  rw [h.state_eq]
  cases c.stream <;> simp

theorem Sound.state_ne_connecting {c : Channel} (h : c.Sound) : c.state ≠ .connecting := by
  rw [h.state_eq]
  cases c.stream <;> simp

theorem Sound.clear_of_disconnected {c : Channel} (h : c.Sound)
    (disconnected : c.state = .disconnected) : c.lines.IsClear := by
  refine h.clear_of_closed ?_
  have notConnected : c.state ≠ .connected := by simp [disconnected]
  rwa [Ne, h.state_eq_connected_iff, Option.not_isSome_iff_eq_none] at notConnected

/-- After any operations a channel says that it is connected exactly when it holds a stream, is
never left connecting, and once disconnected keeps no entry, no part of a line and no line that is
being dropped. Connecting it while it is connected changes nothing, nor does closing it a second
time. -/
theorem state_stream_lines_agree (config : ChannelConfig) (w : σ)
    (operations : List (Operation σ)) :
    let c := (run H config w operations).1
    let w' := (run H config w operations).2
    (c.state = .connected ↔ c.stream.isSome = true) ∧
    c.state ≠ .connecting ∧
    (c.state = .disconnected →
      c.lines.ready = [] ∧ c.lines.held = [] ∧ c.lines.discarding = false) ∧
    (c.state = .connected → c.connect H w' = (.ok (), c, w')) ∧
    (c.close H w').1.close H (c.close H w').2 = c.close H w' := by
  intro c w'
  have sound : c.Sound := sound_run config w operations
  refine ⟨sound.state_eq_connected_iff, sound.state_ne_connecting, fun disconnected => ?_,
    fun connected => connect_of_connected connected w', close_close c w'⟩
  have clear : c.lines = c.lines.clear := sound.clear_of_disconnected disconnected
  rw [clear]
  exact ⟨rfl, rfl, rfl⟩

end Channel
end DetectionLink
