import DetectionLink.Proofs.Traffic
import DetectionLink.Session.Run

/-!
# What an iteration does

A session is a run of iterations, and each of them does one of a few things. They are told apart
here once, with the deeds they leave in the trace; what a session keeps is then shown for each of
them.

* `Reaches`, `exists_last`: the states a session goes through, the last one included;
* `Pulled`, `pulled_pull`: what taking the next frame comes to;
* `Iterated`, `iterated_iterate`: what an iteration comes to.
-/

namespace DetectionLink

/-- A session goes on after this. -/
def CommandEvent.continues : CommandEvent → Bool
  | .command .stop | .disconnected => false
  | .command (.start _) | .command (.unknown _) | .noCommand => true

namespace Session

variable {σ S F : Type} {H : Host σ}

/-! ## Runs -/

section Runs

variable {M : Media H S F} {D : Detector H F} {plan : Plan} {r r' r'' : Running σ S}
  {ending : SessionEnd}

theorem runFrom_finished (last : iterate M D plan r = .finished ending r') :
    runFrom M D plan r = (ending, r') := by
  rw [runFrom.eq_def]
  split <;> simp_all

theorem runFrom_goOn (went : iterate M D plan r = .goOn r') :
    runFrom M D plan r = runFrom M D plan r' := by
  rw [runFrom.eq_def]
  split <;> simp_all

variable (M D plan) in
/-- Iterations lead from one state to the other. -/
inductive Reaches (r : Running σ S) : Running σ S → Prop
  | here : Reaches r r
  | next {r' r'' : Running σ S} (earlier : Reaches r r')
      (went : iterate M D plan r' = .goOn r'') : Reaches r r''

theorem Reaches.head (went : iterate M D plan r = .goOn r') (later : Reaches M D plan r' r'') :
    Reaches M D plan r r'' := by
  induction later with
  | here => exact .next .here went
  | next _ went' ih => exact .next ih went'

theorem runFrom_of_reaches (reached : Reaches M D plan r r') :
    runFrom M D plan r = runFrom M D plan r' := by
  induction reached with
  | here => rfl
  | next _ went ih => exact ih.trans (runFrom_goOn went)

/-- What every iteration that goes on keeps holds in all states. -/
theorem Reaches.invariant {holds : Running σ S → Prop} (reached : Reaches M D plan r r')
    (first : holds r)
    (kept : ∀ a b, holds a → iterate M D plan a = .goOn b → holds b) : holds r' := by
  induction reached with
  | here => exact first
  | next _ went ih => exact kept _ _ ih went

variable (M D plan) in
/-- Every session has a last iteration. -/
theorem exists_last (r : Running σ S) :
    ∃ last, Reaches M D plan r last ∧
      iterate M D plan last = .finished (runFrom M D plan r).1 (runFrom M D plan r).2 := by
  induction r using runFrom.induct M D plan with
  | case1 r ending r' last => exact ⟨r, .here, by rw [runFrom_finished last, last]⟩
  | case2 r r' went spent ih =>
    obtain ⟨last, reached, finished⟩ := ih
    exact ⟨last, reached.head went, by rw [runFrom_goOn went, finished]⟩

end Runs

/-- A session on an open source as its loop begins. -/
def started (H : Host σ) (settings : SessionSettings) (plan : Plan) (source : S) (k : Client)
    (w : σ) : Running σ S where
  counts := noCounts
  index := 0
  pace := Pace.start H plan.fps settings.realtime w
  source
  client := k
  world := H.note (startedRecord settings plan) w

/-- A session whose media opens is its loop, and a log record of how it ended. -/
theorem run_opened {M : Media H S F} {D : Detector H F} {settings : SessionSettings}
    {start : StartCommand} {k : Client} {w : σ} {source : S}
    (opened : (M.opening start w).1 = .ok source) :
    let plan := planOf settings start (M.rate source)
    let done := runFrom M D plan (started H settings plan source k (M.opening start w).2)
    run M D settings start k w = (⟨done.2.counts, done.1⟩, done.2.client,
      H.note (endedRecord ⟨done.2.counts, done.1⟩) done.2.world) := by
  intro plan done
  rw [run, opened]
  rfl

/-! ## Frames -/

/-- What is left of a session after a step: its counts, its place in the pass, its client, and the
deeds of the step. -/
structure Left (r r' : Running (Traced σ F) S) (counts : SessionCounts) (index : Nat)
    (client : Client) (done : List (Event F)) : Prop where
  counts_eq : r'.counts = counts
  index_eq : r'.index = index
  client_eq : r'.client = client
  happened : Happened done r.world r'.world

section Frames

variable (M : Media H S F) (plan : Plan) (handle : Nat)

/-- What taking the next frame comes to: there is none, and the session ends or goes back to the
start; or there is one that is passed over, or analysed. -/
inductive Pulled (r : Running (Traced σ F) S) : Step (Traced σ F) S → Prop
  | exhausted {r' : Running (Traced σ F) S} (onlyOnce : plan.start.loop = false ∨ r.index = 0)
      (left : Left r r' r.counts r.index r.client [.pulled none (M.position r'.source)]) :
      Pulled r (.finished .endOfMedia r')
  | stuck {r' : Running (Traced σ F) S} {position : Option Binary64}
      (loops : plan.start.loop = true) (nonempty : r.index ≠ 0)
      (left : Left r r' r.counts r.index r.client [.pulled none position, .rewound false]) :
      Pulled r (.finished .endOfMedia r')
  | rewound {r' : Running (Traced σ F) S} {position : Option Binary64}
      (loops : plan.start.loop = true) (nonempty : r.index ≠ 0)
      (left : Left r r' { r.counts with loopsCompleted := r.counts.loopsCompleted + 1 } 0 r.client
        [.pulled none position, .rewound true]) :
      Pulled r (.goOn r')
  | skipped {r' : Running (Traced σ F) S} {frame : F}
      (due : shouldAnalyze r.index plan.interval = false)
      (left : Left r r' { r.counts with framesRead := r.counts.framesRead + 1 } (r.index + 1)
        r.client [.pulled (some frame) (M.position r'.source)]) :
      Pulled r (.goOn r')
  | unencodable {r' : Running (Traced σ F) S} {frame : F} {found : List RawDetection}
      {e : LinkError} (due : shouldAnalyze r.index plan.interval = true)
      (encoded : encodeDetections (frameTimestampMs (M.position r'.source) r.index plan.fps) found =
        .error e)
      (left : Left r r'
        { r.counts with
          framesRead := r.counts.framesRead + 1
          framesAnalyzed := r.counts.framesAnalyzed + 1 } (r.index + 1) r.client
        [.pulled (some frame) (M.position r'.source), .detected frame found]) :
      Pulled r (.goOn r')
  | sent {r' : Running (Traced σ F) S} {frame : F} {found : List RawDetection} {line : Bytes}
      (due : shouldAnalyze r.index plan.interval = true)
      (encoded : encodeDetections (frameTimestampMs (M.position r'.source) r.index plan.fps) found =
        .ok line)
      (left : Left r r'
        { r.counts with
          framesRead := r.counts.framesRead + 1
          framesAnalyzed := r.counts.framesAnalyzed + 1
          messagesSent := r.counts.messagesSent + 1 } (r.index + 1)
        { r.client with sent := r.client.sent + 1 }
        [.pulled (some frame) (M.position r'.source), .detected frame found,
          .wrote handle (line ++ [lineTerminator]) .complete]) :
      Pulled r (.goOn r')
  | failed {r' : Running (Traced σ F) S} {frame : F} {found : List RawDetection} {line : Bytes}
      {outcome : WriteOutcome} (due : shouldAnalyze r.index plan.interval = true)
      (encoded : encodeDetections (frameTimestampMs (M.position r'.source) r.index plan.fps) found =
        .ok line)
      (incomplete : outcome ≠ .complete)
      (left : Left r r'
        { r.counts with
          framesRead := r.counts.framesRead + 1
          framesAnalyzed := r.counts.framesAnalyzed + 1 } r.index
        { r.client with channel := r.client.channel.closed }
        [.pulled (some frame) (M.position r'.source), .detected frame found,
          .wrote handle (line ++ [lineTerminator]) outcome]) :
      Pulled r (.finished .disconnected r')

end Frames

variable (M : Media H S F) (D : Detector H F) (plan : Plan)

theorem pulled_atEnd {handle : Nat} {r pulled : Running (Traced σ F) S}
    (source : Left r pulled r.counts r.index r.client [.pulled none (M.position pulled.source)]) :
    Pulled M plan handle r (atEnd M.traced plan pulled) := by
  obtain ⟨counts, index, client, happened⟩ := source
  unfold atEnd
  split
  · next once =>
    exact .exhausted (.inl (by simpa using once)) ⟨counts, index, client, happened⟩
  · next loops =>
    have loops : plan.start.loop = true := by simpa using loops
    split
    · next empty =>
      exact .exhausted (.inr (index ▸ empty))
        ⟨counts, index, client, happened.quiet (happened_note H _ _)⟩
    · next nonempty =>
      have nonempty : r.index ≠ 0 := index ▸ nonempty
      have rewound := happened.trans (happened_rewind pulled.world M pulled.source)
      dsimp only
      split
      · next e stuck =>
        rw [stuck] at rewound
        exact .stuck loops nonempty
          ⟨counts, index, client, rewound.quiet (happened_note H _ _)⟩
      · next back =>
        rw [back] at rewound
        exact .rewound loops nonempty
          ⟨by rw [← counts]; rfl, rfl, client, rewound.quiet (happened_note H _ _)⟩

theorem pulled_analyze {handle : Nat} {r pulled : Running (Traced σ F) S} {frame : F}
    (stream : r.client.channel.stream = some handle)
    (due : shouldAnalyze r.index plan.interval = true)
    (source : Left r pulled { r.counts with framesRead := r.counts.framesRead + 1 } r.index
      r.client [.pulled (some frame) (M.position pulled.source)]) :
    Pulled M plan handle r (analyze M.traced D.traced plan frame pulled) := by
  obtain ⟨counts, index, client, happened⟩ := source
  have detected := happened.trans (happened_detect pulled.world D frame)
  have emission := emission_sendDetections (H := H) (client ▸ stream)
    (frameTimestampMs (M.position pulled.source) pulled.index plan.fps)
    (D.traced.detect frame pulled.world).1 (D.traced.detect frame pulled.world).2
  unfold analyze report
  dsimp only
  have same : M.traced.position pulled.source = M.position pulled.source := rfl
  rw [same]
  -- only what `Emission` says of the send matters from here on
  generalize pulled.client.sendDetections (H.traced F) _ _ _ = result at emission ⊢
  rw [index] at emission
  cases emission with
  | unencodable encoded =>
    simp only [conclude, encodeDetections_error encoded, Bool.false_eq_true, if_false]
    exact .unencodable due encoded ⟨by rw [counts]; rfl, by rw [index]; rfl, client,
      (detected.quiet (happened_note H _ _)).quiet (happened_frameDone ..)⟩
  | sent encoded wrote =>
    exact .sent due encoded ⟨by rw [counts], by rw [index], by rw [client],
      (detected.trans wrote).quiet (happened_frameDone ..)⟩
  | failed encoded incomplete transport wrote =>
    have disconnects := isDisconnect_of_transport transport
    simp only [conclude, disconnects, if_true]
    exact .failed due encoded incomplete ⟨by rw [counts]; rfl, index, by rw [client]; rfl,
      (detected.trans wrote).quiet (happened_note H _ _)⟩

theorem pulled_pull {handle : Nat} {r : Running (Traced σ F) S}
    (stream : r.client.channel.stream = some handle) :
    Pulled M plan handle r (pull M.traced D.traced plan r) := by
  have pulled := happened_next r.world M r.source
  unfold pull
  dsimp only
  split
  · next none =>
    rw [none] at pulled
    exact pulled_atEnd M plan ⟨rfl, rfl, rfl, pulled⟩
  · next frame some =>
    rw [some] at pulled
    split
    · next due => exact pulled_analyze M D plan stream due ⟨rfl, rfl, rfl, pulled⟩
    · next due =>
      exact .skipped (Bool.eq_false_iff.mpr due)
        ⟨rfl, rfl, rfl, pulled.quiet (happened_frameDone ..)⟩

/-! ## Whole iterations -/

/-- A client that holds a stream, and knows it. -/
structure Attached (handle : Nat) (k : Client) : Prop where
  sound : k.channel.Sound
  stream : k.channel.stream = some handle

theorem Attached.isConnected {handle : Nat} {k : Client} (h : Attached handle k) :
    k.isConnected = true :=
  h.sound.isConnected_iff.mpr (h.stream ▸ rfl)

theorem exists_attached {k : Client} (sound : k.channel.Sound) (connected : k.isConnected = true) :
    ∃ handle, Attached handle k := by
  obtain ⟨handle, stream⟩ := sound.stream_of_isConnected connected
  exact ⟨handle, sound, stream⟩

theorem happened_polled (r : Running (Traced σ F) S) :
    Happened [] r.world (polled (H.traced F) r).2.world :=
  happened_waitUntil ..

theorem attached_of_isOpen {handle : Nat} {r : Running (Traced σ F) S}
    (attached : Attached handle r.client) (isOpen : (polled (H.traced F) r).1.isOpen = true) :
    Attached handle (polled (H.traced F) r).2.client := by
  obtain ⟨lines, kept⟩ := waitUntil_keeps (H := H.traced F) (w := r.world) isOpen
  refine ⟨sound_waitUntil attached.sound, ?_⟩
  exact (congrArg Channel.stream kept).trans attached.stream

theorem attached_polled {handle : Nat} {r : Running (Traced σ F) S}
    (attached : Attached handle r.client)
    (continues : (polled (H.traced F) r).1.continues = true) :
    Attached handle (polled (H.traced F) r).2.client := by
  refine attached_of_isOpen attached ?_
  cases event : (polled (H.traced F) r).1 with
  | disconnected =>
    rw [event] at continues
    exact absurd continues nofun
  | command _ => rfl
  | noCommand => rfl

/-- What an iteration comes to, by what its poll brought: the session ends, or takes a frame. -/
inductive Iterated (handle : Nat) (r : Running (Traced σ F) S) : Step (Traced σ F) S → Prop
  | stopped {r' : Running (Traced σ F) S}
      (poll : (polled (H.traced F) r).1 = .command .stop)
      (left : Left (polled (H.traced F) r).2 r' r.counts r.index
        (polled (H.traced F) r).2.client []) :
      Iterated handle r (.finished .stopped r')
  | lost (poll : (polled (H.traced F) r).1 = .disconnected) :
      Iterated handle r (.finished .disconnected (polled (H.traced F) r).2)
  | went {heeded : Running (Traced σ F) S} {step : Step (Traced σ F) S}
      (poll : (polled (H.traced F) r).1.continues = true)
      (left : Left (polled (H.traced F) r).2 heeded r.counts r.index
        (polled (H.traced F) r).2.client [])
      (pulled : Pulled M plan handle heeded step) :
      Iterated handle r step

theorem iterated_iterate {handle : Nat} {r : Running (Traced σ F) S}
    (attached : Attached handle r.client) :
    Iterated M plan handle r (iterate M.traced D.traced plan r) := by
  have stream : (polled (H.traced F) r).1.continues = true →
      (polled (H.traced F) r).2.client.channel.stream = some handle :=
    fun continues => (attached_polled attached continues).stream
  have noted (record : Record) : Left (polled (H.traced F) r).2
      ((polled (H.traced F) r).2.note (H.traced F) record) r.counts r.index
      (polled (H.traced F) r).2.client [] :=
    ⟨rfl, rfl, rfl, happened_note H _ _⟩
  -- a start or an unknown command is noted and then lets the session take a frame, like no command
  rw [iterate, if_pos attached.isConnected]
  cases poll : (polled (H.traced F) r).1 with
  | command command =>
    cases command with
    | stop => exact .stopped poll (noted _)
    | start other =>
      have continues := congrArg CommandEvent.continues poll
      exact .went continues (noted _) (pulled_pull M D plan (stream continues))
    | unknown raw =>
      have continues := congrArg CommandEvent.continues poll
      exact .went continues (noted _) (pulled_pull M D plan (stream continues))
  | noCommand =>
    have continues := congrArg CommandEvent.continues poll
    have nothing : Left (polled (H.traced F) r).2 (polled (H.traced F) r).2 r.counts r.index
        (polled (H.traced F) r).2.client [] := ⟨rfl, rfl, rfl, .refl _⟩
    exact .went continues nothing (pulled_pull M D plan (stream continues))
  | disconnected => exact .lost poll

end Session
end DetectionLink
