import DetectionLink.Proofs.Accounting

/-!
# What holds along a run

A relation between worlds that every call keeps is kept by every operation that is made of such
calls: that the clock does not go back, that only events of some kind were added to a trace, that
what held before still holds.

* `Host.AlongSend`, `Host.Along`: a relation that the calls of a send keep, or all calls on an open
  link; `along_sendDetections`, `along_waitUntil`: so do a send and a wait;
* `Session.AlongAnalysis`, `Session.AlongPull`, `Session.Along`: a relation that the calls of an
  analysed frame keep, of taking a frame, or of a session; `along_analyze`, `along_pull`,
  `along_run`: so do these;
* `alongPull_unread`: what only reads change; `Along.traced`: relations beside a trace;
* `Added`: only events of some kind were added.
-/

namespace DetectionLink

variable {σ S F : Type} {H : Host σ} {R : σ → σ → Prop}

/-- A relation that the calls of a send keep. -/
structure Host.AlongSend (H : Host σ) (R : σ → σ → Prop) : Prop where
  refl : ∀ w, R w w
  trans : ∀ {w w' w''}, R w w' → R w' w'' → R w w''
  note : ∀ record w, R w (H.note record w)
  write : ∀ handle bytes timeout w, R w (H.write handle bytes timeout w).2
  release : ∀ handle w, R w (H.release handle w)

/-- A relation that all calls on an open link keep. -/
structure Host.Along (H : Host σ) (R : σ → σ → Prop) : Prop extends H.AlongSend R where
  read : ∀ handle deadline w, R w (H.read handle deadline w).2

/-! ## The link -/

namespace Host.AlongSend

theorem noteAll (along : H.AlongSend R) (records : List Record) (w : σ) :
    R w (H.noteAll records w) := by
  induction records generalizing w with
  | nil => exact along.refl w
  | cons record rest ih => exact along.trans (along.note record w) (ih (H.note record w))

/-- A log record on top. -/
theorem noted (along : H.AlongSend R) {w w' : σ} (h : R w w') (record : Record) :
    R w (H.note record w') :=
  along.trans h (along.note record w')

end Host.AlongSend

theorem along_close (along : H.AlongSend R) (c : Channel) (w : σ) : R w (c.close H w).2 := by
  unfold Channel.close
  split
  · exact along.noted (along.release _ w) _
  · exact along.refl w

theorem along_receiveUntil (along : H.Along R) (deadline : Option Instant) (c : Channel) (w : σ) :
    R w (c.receiveUntil H deadline w).2.2 := by
  induction c, w using Channel.receiveUntil.induct H deadline with
  | case1 c w entry lines next =>
    rw [Channel.receiveUntil_entry next]
    exact along.refl w
  | case2 c w next stream =>
    rw [Channel.receiveUntil_noStream next stream]
    exact along.refl w
  | case3 c w next handle stream got chunk brought spent absorbed ih =>
    rw [Channel.receiveUntil_chunk next stream brought]
    exact along.trans (along.trans (along.read handle deadline w) (along.noteAll _ _)) ih
  | case4 c w next handle stream got interrupted spent ih =>
    rw [Channel.receiveUntil_interrupted next stream interrupted]
    exact along.trans (along.read handle deadline w) ih
  | case5 c w next handle stream got expired =>
    rw [Channel.receiveUntil_expired next stream expired]
    exact along.read handle deadline w
  | case6 c w next handle stream got ended =>
    rw [Channel.receiveUntil_ended next stream ended]
    exact along.trans (along.noted (along.read handle deadline w) _)
      (along_close along.toAlongSend c _)
  | case7 c w next handle stream got reason failed =>
    rw [Channel.receiveUntil_failed next stream failed]
    exact along.trans (along.noted (along.read handle deadline w) _)
      (along_close along.toAlongSend c _)

theorem along_waitUntil (along : H.Along R) (deadline : Option Instant) (b : Inbox) (c : Channel)
    (w : σ) : R w (b.waitUntil H deadline c w).2.2.2 := by
  induction b, c, w using Inbox.waitUntil.induct H deadline with
  | case1 b c w got line brought command read =>
    rw [Inbox.waitUntil_command brought read]
    exact along.noted (along_receiveUntil along deadline c w) _
  | case2 b c w got line brought e read spent ih =>
    rw [Inbox.waitUntil_skipped brought read]
    exact along.trans (along.noted (along_receiveUntil along deadline c w) _) ih
  | case3 b c w got e brought spent ih =>
    rw [Inbox.waitUntil_rejected brought]
    exact along.trans (along.noted (along_receiveUntil along deadline c w) _) ih
  | case4 b c w got brought =>
    rw [Inbox.waitUntil_noMessage brought]
    exact along_receiveUntil along deadline c w
  | case5 b c w got brought =>
    rw [Inbox.waitUntil_disconnected brought]
    exact along.noted (along_receiveUntil along deadline c w) _

theorem along_sendLine (along : H.AlongSend R) (payload : Bytes) (c : Channel) (w : σ) :
    R w (c.sendLine H payload w).2.2 := by
  unfold Channel.sendLine
  split
  · exact along.refl w
  · next handle _ =>
    split
    · exact along.refl w
    · have wrote := along.write handle (payload ++ [lineTerminator]) c.config.sendTimeout w
      dsimp only
      split
      · exact along.noted wrote _
      · exact along.trans (along.noted wrote _) (along_close along c _)
      · exact along.trans (along.noted wrote _) (along_close along c _)

theorem along_sendDetections (along : H.AlongSend R) (timestampMs : UInt64)
    (found : List RawDetection) (k : Client) (w : σ) :
    R w (k.sendDetections H timestampMs found w).2.2 := by
  unfold Client.sendDetections
  split
  · exact along.refl w
  · next line _ =>
    have sent : R w (k.sendLine H line w).2.2 := along_sendLine along line k.channel w
    dsimp only
    split
    · exact along.noted sent _
    · exact sent

/-! ## Sessions -/

namespace Session

/-- A relation that the calls of an analysed frame keep. Only paced sessions have to keep it while
they sleep. -/
structure AlongAnalysis (D : Detector H F) (paced : Bool) (R : σ → σ → Prop) : Prop
    extends H.AlongSend R where
  detect : ∀ frame w, R w (D.detect frame w).2
  sleep : paced = true → ∀ length w, R w (H.sleep length w)

/-- A relation that the calls of taking a frame keep. -/
structure AlongPull (M : Media H S F) (D : Detector H F) (paced : Bool) (R : σ → σ → Prop) : Prop
    extends AlongAnalysis D paced R where
  next : ∀ s w, R w (M.next s w).2.2
  rewind : ∀ s w, R w (M.rewind s w).2.2

/-- A relation that all calls of a session keep. -/
structure Along (M : Media H S F) (D : Detector H F) (paced : Bool) (R : σ → σ → Prop) : Prop
    extends AlongPull M D paced R, H.Along R where
  opening : ∀ start w, R w (M.opening start w).2

/-- One state of a session comes after another: the relation holds between their worlds, and the
session is paced as before. -/
structure Later (R : σ → σ → Prop) (r r' : Running σ S) : Prop where
  world : R r.world r'.world
  enabled_eq : r'.pace.enabled = r.pace.enabled

variable {M : Media H S F} {D : Detector H F} {paced : Bool} (plan : Plan)
  {r r' r'' : Running σ S}

theorem Later.trans (along : H.AlongSend R) (h : Later R r r') (k : Later R r' r'') :
    Later R r r'' :=
  ⟨along.trans h.world k.world, k.enabled_eq.trans h.enabled_eq⟩

theorem Later.note (along : H.AlongSend R) (h : Later R r r') (record : Record) :
    Later R r (r'.note H record) :=
  ⟨along.noted h.world record, h.enabled_eq⟩

theorem along_settle (along : AlongAnalysis D paced R) (r : Running σ S)
    (enabled : r.pace.enabled = paced) : Later R r (settle H r).running := by
  refine ⟨?_, rfl⟩
  show R r.world (r.pace.frameDone H r.world).2
  unfold Pace.frameDone
  cases delay : r.pace.delay? (H.now r.world) with
  | none => exact along.refl r.world
  | some length =>
    refine along.sleep ?_ length r.world
    cases unpaced : r.pace.enabled with
    | true => exact enabled ▸ unpaced
    | false => simp [Pace.delay?, unpaced] at delay

theorem along_conclude (along : AlongAnalysis D paced R) (outcome : Except LinkError Unit)
    (r : Running σ S) (enabled : r.pace.enabled = paced) :
    Later R r (conclude H outcome r).running := by
  have noted (record : Record) : Later R r (r.note H record) :=
    ⟨along.note record r.world, rfl⟩
  unfold conclude
  split
  · have settled := along_settle along
      { r with counts := { r.counts with messagesSent := r.counts.messagesSent + 1 } } enabled
    exact ⟨settled.world, settled.enabled_eq⟩
  · split
    · exact noted _
    · exact (noted _).trans along.toAlongSend (along_settle along _ enabled)

theorem along_analyze (along : AlongAnalysis D paced R) (frame : F) (r : Running σ S)
    (enabled : r.pace.enabled = paced) : Later R r (analyze M D plan frame r).running := by
  have reported : Later R r (report M D plan frame r).2 :=
    ⟨along.trans (along.detect frame r.world) (along_sendDetections along.toAlongSend _ _ _ _), rfl⟩
  exact reported.trans along.toAlongSend (along_conclude along _ _ enabled)

theorem along_atEnd (along : AlongPull M D paced R) (r : Running σ S) :
    Later R r (atEnd M plan r).running := by
  have unmoved : Later R r r := ⟨along.refl r.world, rfl⟩
  have rewound : R r.world (M.rewind r.source r.world).2.2 := along.rewind r.source r.world
  unfold atEnd
  split
  · exact unmoved
  · split
    · exact unmoved.note along.toAlongSend _
    · dsimp only
      split
      · exact ⟨along.noted rewound _, rfl⟩
      · exact ⟨along.noted rewound _, rfl⟩

theorem along_pull (along : AlongPull M D paced R) (r : Running σ S)
    (enabled : r.pace.enabled = paced) : Later R r (pull M D plan r).running := by
  let pulled := M.next r.source r.world
  let moved : Running σ S := { r with source := pulled.2.1, world := pulled.2.2 }
  let counted : Running σ S :=
    { moved with counts := { r.counts with framesRead := r.counts.framesRead + 1 } }
  have next : R r.world pulled.2.2 := along.next r.source r.world
  have exhausted : Later R r moved := ⟨next, rfl⟩
  have taken : Later R r counted := ⟨next, rfl⟩
  have analysis := along.toAlongAnalysis
  have send := along.toAlongSend
  unfold pull
  dsimp only
  split
  · exact exhausted.trans send (along_atEnd plan along moved)
  · split
    · exact taken.trans send (along_analyze plan analysis _ counted enabled)
    · exact taken.trans send (along_settle analysis counted enabled)

theorem along_heed (along : AlongPull M D paced R) (event : CommandEvent) (r : Running σ S)
    (enabled : r.pace.enabled = paced) : Later R r (heed M D plan event r).running := by
  have unmoved : Later R r r := ⟨along.refl r.world, rfl⟩
  have send := along.toAlongSend
  unfold heed
  split
  · exact unmoved.note send _
  · exact (unmoved.note send _).trans send (along_pull plan along _ enabled)
  · exact (unmoved.note send _).trans send (along_pull plan along _ enabled)
  · exact along_pull plan along r enabled
  · exact unmoved

theorem along_polled (along : Along M D paced R) (r : Running σ S) :
    Later R r (polled H r).2 :=
  ⟨along_waitUntil along.toAlong _ _ _ _, rfl⟩

theorem along_iterate (along : Along M D paced R) (r : Running σ S)
    (enabled : r.pace.enabled = paced) : Later R r (iterate M D plan r).running := by
  unfold iterate
  split
  · exact (along_polled along r).trans along.toAlongSend
      (along_heed plan along.toAlongPull _ _ enabled)
  · exact ⟨along.refl r.world, rfl⟩

theorem along_runFrom (along : Along M D paced R) (r : Running σ S)
    (enabled : r.pace.enabled = paced) : R r.world (runFrom M D plan r).2.world := by
  induction r using runFrom.induct M D plan with
  | case1 r ending r' last =>
    have step := along_iterate plan along r enabled
    rw [last] at step
    rw [runFrom_finished last]
    exact step.world
  | case2 r r' went spent ih =>
    have step := along_iterate plan along r enabled
    rw [went] at step
    rw [runFrom_goOn went]
    exact along.trans step.world (ih (step.enabled_eq.trans enabled))

theorem along_run {settings : SessionSettings} (along : Along M D settings.realtime R)
    (start : StartCommand) (k : Client) (w : σ) :
    R w (run M D settings start k w).2.2 := by
  have opening := along.opening start w
  cases opened : (M.opening start w).1 with
  | ok source =>
    let plan := planOf settings start (M.rate source)
    have looped := along_runFrom plan along
      (started H settings plan source k (M.opening start w).2) rfl
    rw [run_opened opened]
    have begun := along.noted opening (startedRecord settings plan)
    exact along.noted (along.trans begun looped) _
  | error e =>
    rw [run_failed opened]
    have sent := along.trans (along.noted opening
      (unavailableRecord H.wording start e))
      (along_sendDetections along.toAlongSend 0 [] k _)
    unfold unavailable
    dsimp only
    split
    · exact sent
    · exact along.noted sent _

end Session

/-! ## What only reads change -/

namespace Event

def isRead : Event F → Bool
  | .read _ _ => true
  | _ => false

end Event

section Unread

variable {α : Type} {shown : List (Event F) → α}

/-- What only reads change stays as it is during a send. -/
theorem alongSend_unread (H : Host σ)
    (unread : ∀ trace event, event.isRead = false → shown (trace ++ [event]) = shown trace) :
    (H.traced F).AlongSend fun t t' => shown t'.trace = shown t.trace where
  refl _ := rfl
  trans h k := k.trans h
  note _ _ := unread _ _ rfl
  write _ _ _ _ := unread _ _ rfl
  release _ _ := unread _ _ rfl

/-- And while a frame is taken. -/
theorem Session.alongPull_unread (M : Media H S F) (D : Detector H F) (paced : Bool)
    (unread : ∀ trace event, event.isRead = false → shown (trace ++ [event]) = shown trace) :
    Session.AlongPull M.traced D.traced paced fun t t' => shown t'.trace = shown t.trace where
  toAlongSend := alongSend_unread H unread
  detect _ _ := unread _ _ rfl
  sleep _ _ _ := unread _ _ rfl
  next _ _ := unread _ _ rfl
  rewind _ _ := unread _ _ rfl

end Unread

/-! ## Traced worlds -/

/-- What the calls of a session keep between worlds, they keep beside a trace. -/
theorem Session.Along.traced {M : Media H S F} {D : Detector H F} {paced : Bool}
    (along : Session.Along M D paced R) :
    Session.Along M.traced D.traced paced fun t t' => R t.world t'.world where
  refl t := along.refl t.world
  trans := along.trans
  note record t := along.note record t.world
  read handle deadline t := along.read handle deadline t.world
  write handle bytes timeout t := along.write handle bytes timeout t.world
  release handle t := along.release handle t.world
  opening start t := along.opening start t.world
  next s t := along.next s t.world
  rewind s t := along.rewind s t.world
  detect frame t := along.detect frame t.world
  sleep isPaced length t := along.sleep isPaced length t.world

/-! ## Events of one kind -/

/-- Only events of one kind were added to the trace. -/
def Added (kind : Event F → Prop) (t t' : Traced σ F) : Prop :=
  ∃ added, t'.trace = t.trace ++ added ∧ ∀ event ∈ added, kind event

namespace Added

variable {kind : Event F → Prop} {t t' t'' : Traced σ F}

theorem refl (t : Traced σ F) : Added kind t t := ⟨[], (List.append_nil _).symm, nofun⟩

theorem trans (h : Added kind t t') (k : Added kind t' t'') : Added kind t t'' := by
  obtain ⟨added, grown, all⟩ := h
  obtain ⟨more, grown', all'⟩ := k
  refine ⟨added ++ more, by rw [grown', grown, List.append_assoc], fun event mem => ?_⟩
  rcases List.mem_append.mp mem with earlier | later
  · exact all event earlier
  · exact all' event later

theorem mono {kind' : Event F → Prop} (h : Added kind t t')
    (wider : ∀ event, kind event → kind' event) : Added kind' t t' := by
  obtain ⟨added, grown, all⟩ := h
  exact ⟨added, grown, fun event mem => wider event (all event mem)⟩

theorem log {event : Event F} (isKind : kind event) (t : Traced σ F) (w : σ) :
    Added kind t (t.log event w) :=
  ⟨[event], rfl, fun _ mem => List.mem_singleton.mp mem ▸ isKind⟩

/-- All events of a run that began with no trace are of the kind. -/
theorem of_start {w : σ} (h : Added kind (.start w) t) : ∀ event ∈ t.trace, kind event := by
  obtain ⟨added, grown, all⟩ := h
  rw [grown]
  exact all

/-- The link, while its stream is open, adds what its calls add. -/
theorem host (H : Host σ) (noted : ∀ record, kind (.noted record))
    (read : ∀ handle outcome, kind (.read handle outcome))
    (wrote : ∀ handle bytes outcome, kind (.wrote handle bytes outcome))
    (released : ∀ handle, kind (.released handle)) : (H.traced F).Along (Added kind) where
  refl := refl
  trans := trans
  note record t := log (noted record) t _
  read handle _ t := log (read handle _) t _
  write handle bytes _ t := log (wrote handle bytes _) t _
  release handle t := log (released handle) t _

/-- So does a session. -/
theorem session (host : (H.traced F).Along (Added kind)) (M : Media H S F) (D : Detector H F)
    {paced : Bool} (opened : ∀ start succeeded, kind (.opened start succeeded))
    (pulled : ∀ frame position, kind (.pulled frame position))
    (rewound : ∀ succeeded, kind (.rewound succeeded))
    (detected : ∀ frame w, kind (.detected frame (D.detect frame w).1))
    (slept : paced = true → ∀ length, kind (.slept length)) :
    Session.Along M.traced D.traced paced (Added kind) where
  toAlong := host
  opening start t := log (opened start _) t _
  next _ t := log (pulled _ _) t _
  rewind _ t := log (rewound _) t _
  detect frame t := log (detected frame t.world) t _
  sleep isPaced length t := log (slept isPaced length) t _

end Added
end DetectionLink
