import DetectionLink.Proofs.Iteration

/-!
# Tracing changes nothing

A run on a host that keeps a trace is the run on the host itself, trace aside. What is read off a
trace is so said of every run.

* `wait_traced`, `sendDetections_traced`: the link;
* `iterate_traced`, `run_traced`: sessions.
-/

namespace DetectionLink

variable {σ S F : Type} {H : Host σ}

/-- The outcome of an operation, without the trace. -/
def untraced {α β : Type} (r : α × β × Traced σ F) : α × β × σ := (r.1, r.2.1, r.2.2.world)

/-! ## The link -/

theorem noteAll_world (records : List Record) (t : Traced σ F) :
    ((H.traced F).noteAll records t).world = H.noteAll records t.world := by
  induction records generalizing t with
  | nil => rfl
  | cons record rest ih => exact ih ((H.traced F).note record t)

theorem close_traced (c : Channel) (t : Traced σ F) :
    ((c.close (H.traced F) t).1, (c.close (H.traced F) t).2.world) = c.close H t.world := by
  unfold Channel.close
  cases c.stream <;> rfl

theorem receiveUntil_traced (deadline : Option Instant) (c : Channel) (t : Traced σ F) :
    untraced (c.receiveUntil (H.traced F) deadline t) = c.receiveUntil H deadline t.world := by
  induction c, t using Channel.receiveUntil.induct (H.traced F) deadline with
  | case1 c t entry lines next =>
    rw [Channel.receiveUntil_entry next, Channel.receiveUntil_entry next]
    rfl
  | case2 c t next stream =>
    rw [Channel.receiveUntil_noStream next stream, Channel.receiveUntil_noStream next stream]
    rfl
  | case3 c t next handle stream got chunk brought spent absorbed ih =>
    -- the traced host reads what the host reads
    have brought' : (H.read handle deadline t.world).1 = .chunk chunk := brought
    rw [Channel.receiveUntil_chunk next stream brought,
      Channel.receiveUntil_chunk next stream brought', ih, noteAll_world]
    rfl
  | case4 c t next handle stream got interrupted spent ih =>
    have interrupted' : (H.read handle deadline t.world).1 = .interrupted := interrupted
    rw [Channel.receiveUntil_interrupted next stream interrupted,
      Channel.receiveUntil_interrupted next stream interrupted', ih]
    rfl
  | case5 c t next handle stream got expired =>
    have expired' : (H.read handle deadline t.world).1 = .expired := expired
    rw [Channel.receiveUntil_expired next stream expired,
      Channel.receiveUntil_expired next stream expired']
    rfl
  | case6 c t next handle stream got ended =>
    have ended' : (H.read handle deadline t.world).1 = .ended := ended
    rw [Channel.receiveUntil_ended next stream ended,
      Channel.receiveUntil_ended next stream ended']
    exact congrArg (Inbound.disconnected, ·) (close_traced c _)
  | case7 c t next handle stream got reason failed =>
    have failed' : (H.read handle deadline t.world).1 = .failed reason := failed
    rw [Channel.receiveUntil_failed next stream failed,
      Channel.receiveUntil_failed next stream failed']
    exact congrArg (Inbound.disconnected, ·) (close_traced c _)

theorem inbound_traced (deadline : Option Instant) (c : Channel) (t : Traced σ F) :
    (c.receiveUntil H deadline t.world).1 = (c.receiveUntil (H.traced F) deadline t).1 :=
  (congrArg (·.1) (receiveUntil_traced deadline c t)).symm

theorem waitUntil_traced (deadline : Option Instant) (b : Inbox) (c : Channel)
    (t : Traced σ F) :
    ((b.waitUntil (H.traced F) deadline c t).1,
      untraced (b.waitUntil (H.traced F) deadline c t).2) = b.waitUntil H deadline c t.world := by
  induction b, c, t using Inbox.waitUntil.induct (H.traced F) deadline with
  | case1 b c t got line brought command read =>
    have same := receiveUntil_traced (H := H) deadline c t
    have brought' := (inbound_traced (H := H) deadline c t).trans brought
    rw [Inbox.waitUntil_command brought read, Inbox.waitUntil_command brought' read, ← same]
    rfl
  | case2 b c t got line brought e read spent ih =>
    have same := receiveUntil_traced (H := H) deadline c t
    have brought' := (inbound_traced (H := H) deadline c t).trans brought
    rw [Inbox.waitUntil_skipped brought read, Inbox.waitUntil_skipped brought' read, ← same]
    exact ih
  | case3 b c t got e brought spent ih =>
    have same := receiveUntil_traced (H := H) deadline c t
    have brought' := (inbound_traced (H := H) deadline c t).trans brought
    rw [Inbox.waitUntil_rejected brought, Inbox.waitUntil_rejected brought', ← same]
    exact ih
  | case4 b c t got brought =>
    have same := receiveUntil_traced (H := H) deadline c t
    have brought' := (inbound_traced (H := H) deadline c t).trans brought
    rw [Inbox.waitUntil_noMessage brought, Inbox.waitUntil_noMessage brought', ← same]
    rfl
  | case5 b c t got brought =>
    have same := receiveUntil_traced (H := H) deadline c t
    have brought' := (inbound_traced (H := H) deadline c t).trans brought
    rw [Inbox.waitUntil_disconnected brought, Inbox.waitUntil_disconnected brought', ← same]
    rfl

theorem wait_traced (timeout : Option Duration) (k : Client) (t : Traced σ F) :
    untraced (k.wait (H.traced F) timeout t) = k.wait H timeout t.world := by
  have same := waitUntil_traced (H := H) (timeout.map (H.now t.world).after)
    { k.inbox with state := .waiting } k.channel t
  unfold Client.wait Inbox.wait
  rw [← same]
  rfl

theorem sendLine_traced (payload : Bytes) (k : Client) (t : Traced σ F) :
    untraced (k.sendLine (H.traced F) payload t) = k.sendLine H payload t.world := by
  unfold Client.sendLine Channel.sendLine
  split
  · rfl
  · next handle _ =>
    split
    · rfl
    · have same : ((H.traced F).write handle (payload ++ [lineTerminator])
          k.channel.config.sendTimeout t).1 = (H.write handle (payload ++ [lineTerminator])
          k.channel.config.sendTimeout t.world).1 := rfl
      dsimp only
      rw [same]
      split
      · rfl
      · exact congrArg (fun closed : Channel × σ =>
          (_, { k with channel := closed.1 }, closed.2)) (close_traced k.channel _)
      · exact congrArg (fun closed : Channel × σ =>
          (_, { k with channel := closed.1 }, closed.2)) (close_traced k.channel _)

theorem sendDetections_traced (timestampMs : UInt64) (found : List RawDetection) (k : Client)
    (t : Traced σ F) :
    untraced (k.sendDetections (H.traced F) timestampMs found t) =
      k.sendDetections H timestampMs found t.world := by
  unfold Client.sendDetections
  split
  · rfl
  · next line _ =>
    rw [← sendLine_traced]
    dsimp only [untraced]
    split <;> rfl

/-! ## Sessions -/

namespace Session

def Running.untraced (r : Running (Traced σ F) S) : Running σ S where
  counts := r.counts
  index := r.index
  pace := r.pace
  source := r.source
  client := r.client
  world := r.world.world

def Step.untraced : Step (Traced σ F) S → Step σ S
  | .goOn r => .goOn r.untraced
  | .finished ending r => .finished ending r.untraced

theorem settle_traced (r : Running (Traced σ F) S) :
    (settle (H.traced F) r).untraced = settle H r.untraced := by
  unfold settle Pace.frameDone
  have same : (H.traced F).now r.world = H.now r.world.world := rfl
  rw [same]
  dsimp only [Step.untraced, Running.untraced]
  cases r.pace.delay? (H.now r.world.world) <;> rfl

theorem conclude_traced (outcome : Except LinkError Unit) (r : Running (Traced σ F) S) :
    (conclude (H.traced F) outcome r).untraced = conclude H outcome r.untraced := by
  unfold conclude
  split
  · exact settle_traced _
  · split
    · rfl
    · exact settle_traced _

variable (M : Media H S F) (D : Detector H F) (plan : Plan)

theorem report_traced (frame : F) (r : Running (Traced σ F) S) :
    ((report M.traced D.traced plan frame r).1,
      (report M.traced D.traced plan frame r).2.untraced) = report M D plan frame r.untraced := by
  have same := sendDetections_traced (H := H)
    (frameTimestampMs (M.position r.source) r.index plan.fps) (D.detect frame r.world.world).1
    r.client (D.traced.detect frame r.world).2
  exact congrArg (fun sent : Except LinkError Unit × Client × σ =>
    (sent.1, { r.untraced with
      counts := { r.counts with framesAnalyzed := r.counts.framesAnalyzed + 1 }
      client := sent.2.1
      world := sent.2.2 })) same

theorem analyze_traced (frame : F) (r : Running (Traced σ F) S) :
    (analyze M.traced D.traced plan frame r).untraced = analyze M D plan frame r.untraced := by
  unfold analyze
  rw [conclude_traced, ← report_traced]

theorem atEnd_traced (r : Running (Traced σ F) S) :
    (atEnd M.traced plan r).untraced = atEnd M plan r.untraced := by
  have same : (M.traced.rewind r.source r.world).1 = (M.rewind r.source r.world.world).1 := rfl
  have index : r.untraced.index = r.index := rfl
  unfold atEnd
  rw [index]
  split
  · rfl
  · split
    · rfl
    · dsimp only
      rw [same]
      cases rewound : (M.rewind r.source r.world.world).1 with
      | error e =>
        have back : (M.rewind r.untraced.source r.untraced.world).1 = .error e := rewound
        rw [back]
        rfl
      | ok done =>
        have back : (M.rewind r.untraced.source r.untraced.world).1 = .ok done := rewound
        rw [back]
        rfl

theorem pull_traced (r : Running (Traced σ F) S) :
    (pull M.traced D.traced plan r).untraced = pull M D plan r.untraced := by
  unfold pull
  dsimp only
  cases pulled : (M.next r.source r.world.world).1 with
  | none =>
    have traced : (M.traced.next r.source r.world).1 = none := pulled
    have plain : (M.next r.untraced.source r.untraced.world).1 = none := pulled
    rw [traced, plain]
    exact atEnd_traced M plan _
  | some frame =>
    have traced : (M.traced.next r.source r.world).1 = some frame := pulled
    have plain : (M.next r.untraced.source r.untraced.world).1 = some frame := pulled
    have index : r.untraced.index = r.index := rfl
    rw [traced, plain, index]
    dsimp only
    split
    · exact analyze_traced M D plan frame _
    · exact settle_traced _

theorem heed_traced (event : CommandEvent) (r : Running (Traced σ F) S) :
    (heed M.traced D.traced plan event r).untraced = heed M D plan event r.untraced := by
  unfold heed
  split
  · rfl
  · exact pull_traced M D plan _
  · exact pull_traced M D plan _
  · exact pull_traced M D plan _
  · rfl

theorem polled_traced (r : Running (Traced σ F) S) :
    ((polled (H.traced F) r).1, (polled (H.traced F) r).2.untraced) = polled H r.untraced :=
  congrArg (fun done : CommandEvent × Client × σ =>
    (done.1, ({ r.untraced with client := done.2.1, world := done.2.2 } : Running σ S)))
    (wait_traced (H := H) (some r.client.inbox.pollTimeout) r.client r.world)

theorem iterate_traced (r : Running (Traced σ F) S) :
    (iterate M.traced D.traced plan r).untraced = iterate M D plan r.untraced := by
  have client : r.untraced.client = r.client := rfl
  unfold iterate
  rw [client]
  split
  · rw [heed_traced, ← polled_traced]
  · rfl

theorem runFrom_traced (r : Running (Traced σ F) S) :
    ((runFrom M.traced D.traced plan r).1, (runFrom M.traced D.traced plan r).2.untraced) =
      runFrom M D plan r.untraced := by
  -- the equation of one iteration decides which case the other run is in
  have same := iterate_traced M D plan r
  induction r using runFrom.induct M.traced D.traced plan with
  | case1 r ending r' last =>
    rw [last] at same
    rw [runFrom_finished last, runFrom_finished same.symm]
  | case2 r r' went spent ih =>
    rw [went] at same
    rw [runFrom_goOn went, runFrom_goOn same.symm]
    exact ih (iterate_traced M D plan r')

theorem unavailable_traced (start : StartCommand) (e : MediaError) (k : Client) (t : Traced σ F) :
    untraced (unavailable (H.traced F) start e k t) =
      unavailable H start e k t.world := by
  have same (record : Record) :
      untraced (k.sendDetections (H.traced F) 0 [] ((H.traced F).note record t)) =
        k.sendDetections H 0 [] (H.note record t.world) :=
    sendDetections_traced ..
  have wording : (H.traced F).wording = H.wording := rfl
  unfold unavailable
  rw [wording, ← same]
  dsimp only [untraced]
  split <;> rfl

/-- A session on a host that keeps a trace is the session on the host. -/
theorem run_traced (settings : SessionSettings) (start : StartCommand) (k : Client)
    (t : Traced σ F) :
    untraced (run M.traced D.traced settings start k t) =
      run M D settings start k t.world := by
  cases opened : (M.opening start t.world).1 with
  | ok source =>
    have traced : (M.traced.opening start t).1 = .ok source := opened
    have same := runFrom_traced M D (planOf settings start (M.rate source))
      (started (H.traced F) settings (planOf settings start (M.rate source)) source k
        (M.traced.opening start t).2)
    rw [run_opened traced, run_opened opened]
    exact congrArg (fun done : SessionEnd × Running σ S =>
      ((⟨done.2.counts, done.1⟩, done.2.client,
        H.note (endedRecord ⟨done.2.counts, done.1⟩) done.2.world) :
        SessionReport × Client × σ)) same
  | error e =>
    have traced : (M.traced.opening start t).1 = .error e := opened
    unfold run
    dsimp only
    rw [traced, opened]
    exact unavailable_traced start e k _

end Session
end DetectionLink
