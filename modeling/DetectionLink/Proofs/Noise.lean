import DetectionLink.Proofs.Reads
import DetectionLink.Proofs.Sources

/-!
# Inbound noise does not disturb a session

Only a stop and the loss of the connection end a session from outside. Whatever else comes in,
start commands, unknown ones, lines that are no commands, lines that are too long or not finished,
and however it is cut into chunks, the session goes through its frames as if nothing came.

* `OnlyNoise`: no stop comes in and the connection is not lost;
* `verdict_of_noise`: then no poll ends the session;
* `Silent`, `onlyNoise_of_script`: a clip during which all reads expire;
* `inbound_noise_ignored`: two sessions with different noise.
-/

namespace DetectionLink.Session

open Framing

variable {σ S F : Type} {H : Host σ} {M : Media H S F} {D : Detector H F}
  {settings : SessionSettings} {start : StartCommand} {find : F → List RawDetection}

/-- What comes in during a session, counted from what its client had received and not taken, has no
line that is a stop, and no read finds the stream closed. -/
structure OnlyNoise (k : Client) (trace : List (Event F)) : Prop where
  connected : k.isConnected = true
  unstopped : ∃ before taken, BufferFramed k.channel.lines before taken ∧
    .stop ∉ ((reference k.channel.lines.limit (before ++ received trace)).drop
      taken.length).filterMap commandOf?
  stays_open : ∀ handle outcome, .read handle outcome ∈ trace → outcome.isOpen = true

namespace OnlyNoise

variable {k : Client} {trace : List (Event F)}

theorem closedReads_eq_zero (noise : OnlyNoise k trace) : closedReads trace = 0 := by
  refine List.countP_eq_zero.mpr fun outcome mem => ?_
  obtain ⟨event, member, shown⟩ := List.mem_filterMap.mp mem
  cases event with
  | read handle got =>
    obtain rfl := Option.some.inj shown
    simp [noise.stays_open handle got member]
  | _ => cases shown

/-- No entry that the client can have taken is a stop. -/
theorem stop_not_mem (noise : OnlyNoise k trace) {consumed : List LineEntry}
    (some : consumed <+: (k.channel.lines.absorbAll (chunksRead trace)).ready) :
    .stop ∉ consumed.filterMap commandOf? := by
  obtain ⟨before, taken, framed, none⟩ := noise.unstopped
  have entries := (LineBuffer.framed_absorbAll framed (chunksRead trace)).entries_eq
  rw [LineBuffer.limit_absorbAll, ← received_eq_flatten] at entries
  rw [← entries, List.drop_left] at none
  exact fun mem => none ((some.sublist.filterMap commandOf?).mem mem)

end OnlyNoise

/-- No poll of a session with nothing but noise ends it. -/
theorem verdict_of_noise {k : Client} {w : σ} (sound : k.channel.Sound)
    (noise : OnlyNoise k (run M.traced D.traced settings start k (.start w)).2.2.trace) :
    ∀ event ∈ pollsOf M D settings start k w, event.verdict = none := by
  have orderly : k.channel.Orderly := by
    obtain ⟨before, taken, framed, -⟩ := noise.unstopped
    exact ⟨sound, before, taken, framed⟩
  intro event mem
  cases event with
  | noCommand => rfl
  | disconnected =>
    cases opened : (M.opening start w).1 with
    | error e =>
      rw [pollsOf, opened] at mem
      cases mem
    | ok source =>
      have read := (readBy_run M D settings start orderly opened).closed_lt mem
      rw [noise.closedReads_eq_zero] at read
      exact absurd read (Nat.not_lt_zero _)
  | command command =>
    cases command with
    | start other => rfl
    | unknown raw => rfl
    | stop =>
      obtain ⟨⟨chunks, deeds, elapsed, exchange, -⟩, -⟩ :=
        conducted_run M D settings start (.start w) orderly
      obtain ⟨consumed, took, commands, -⟩ := exchange.intake
      rw [← elapsed.of_start.1] at took
      rw [pollsOf_traced] at commands
      have handedOut : .stop ∈ consumed.filterMap commandOf? := by
        rw [commands]
        exact List.mem_flatMap.mpr ⟨_, mem, List.mem_singleton_self _⟩
      exact absurd handedOut (noise.stop_not_mem took.isPrefix)

/-- Polls that do not end a session come to nothing else. -/
theorem verdictsOf_of_noise {k : Client} {w : σ} (sound : k.channel.Sound)
    (noise : OnlyNoise k (run M.traced D.traced settings start k (.start w)).2.2.trace) :
    verdictsOf M D settings start k w =
      List.replicate (pollsOf M D settings start k w).length none := by
  rw [verdictsOf, if_pos noise.connected, List.eq_replicate_iff]
  refine ⟨List.length_map .., fun verdict mem => ?_⟩
  obtain ⟨event, member, rfl⟩ := List.mem_map.mp mem
  exact verdict_of_noise sound noise event member

/-! ## A clip and a supervisor that says nothing -/

/-- A session that does not loop has one poll more than frames at most. -/
theorem Course.length_le {index : Nat} {verdicts : List (Option SessionEnd)}
    {answers : List (Event F)} {ending : SessionEnd}
    (h : Course false index verdicts answers ending) :
    verdicts.length ≤ answers.countP Event.isFrame + 1 := by
  induction h with
  | ended => exact Nat.le_refl _
  | exhausted _ => exact Nat.le_refl _
  | stuck loops _ => cases loops
  | rewound loops _ _ _ => cases loops
  | frame later ih =>
    rw [List.countP_cons_of_pos rfl, List.length_cons]
    omega

/-- Of a script of reads that all expire, `n` in all, some were made; or more than these were. -/
def Silent (n : Nat) (t : Traced Script F) : Prop :=
  ((∀ got ∈ t.world.reads, got = .expired) ∧ (∀ got ∈ outcomes t.trace, got = .expired) ∧
    (outcomes t.trace).length + t.world.reads.length = n) ∨ n < vainReads t.trace

theorem silent_unread {n : Nat} {t : Traced Script F} (h : Silent n t) {event : Event F}
    {w : Script} (unread : event.isRead = false) (reads : w.reads = t.world.reads) :
    Silent n (t.log event w) := by
  have same : outcomes (t.log event w).trace = outcomes t.trace := outcomes_unread _ _ unread
  have world : (t.log event w).world.reads = t.world.reads := reads
  rw [Silent, vainReads, same, world]
  exact h

theorem silent_read {n : Nat} {t : Traced Script F} (h : Silent n t) (handle : Nat)
    (deadline : Option Instant) : Silent n ((Script.host.traced F).read handle deadline t).2 := by
  have all := outcomes_read (H := Script.host) handle deadline t
  have vain := vainReads_concat all
  have got : ((Script.host.traced F).read handle deadline t).1 = t.world.read.1 := rfl
  have left : ((Script.host.traced F).read handle deadline t).2.world = t.world.read.2 := rfl
  rw [got] at all vain
  rcases h with ⟨expired, made, total⟩ | more
  · cases reads : t.world.reads with
    | nil =>
      -- the script is at its end: one more vain read than it had
      have read : t.world.read = (.ended, t.world) := by rw [Script.read, reads]
      have before : vainReads t.trace = n := by
        rw [vainReads, List.countP_eq_length.mpr fun got mem => by rw [made got mem]; rfl, ← total,
          reads]
        rfl
      rw [read] at vain
      exact .inr (by rw [vain, before]; exact Nat.lt_succ_self n)
    | cons next rest =>
      have read : t.world.read = (next, { t.world with reads := rest }) := by
        rw [Script.read, reads]
      rw [reads] at expired total
      obtain ⟨first, others⟩ := List.forall_mem_cons.mp expired
      rw [read] at all left
      refine .inl ⟨?_, ?_, ?_⟩
      · rw [left]
        exact others
      · rw [all]
        exact List.forall_mem_append.mpr ⟨made, List.forall_mem_singleton.mpr first⟩
      · rw [List.length_cons] at total
        rw [all, left, List.length_append, List.length_singleton]
        dsimp only
        omega
  · exact .inr (by omega)

theorem along_silent (n : Nat) (find : Nat → List RawDetection) (paced : Bool) :
    Along (SyntheticClip.media Script.host).traced (lookupDetector find).traced paced
      fun t t' => Silent n t → Silent n t' where
  refl _ h := h
  trans h k silent := k (h silent)
  note _ _ h := silent_unread h rfl rfl
  read handle deadline _ h := silent_read h handle deadline
  write _ _ _ t h := silent_unread h rfl t.world.reads_write
  release _ _ h := silent_unread h rfl rfl
  opening start t h := by
    refine silent_unread h rfl ?_
    show (SyntheticClip.opening Script.host start t.world).2.reads = _
    unfold SyntheticClip.opening
    split <;> rfl
  next _ _ h := silent_unread h rfl rfl
  rewind _ _ h := silent_unread h rfl rfl
  detect _ _ h := silent_unread h rfl rfl
  sleep _ _ _ h := silent_unread h rfl rfl

/-- Reads that all expired bring nothing. -/
theorem received_of_expired {trace : List (Event F)}
    (expired : ∀ got ∈ outcomes trace, got = .expired) : received trace = [] := by
  refine List.flatMap_eq_nil_iff.mpr fun event mem => ?_
  cases event with
  | read handle outcome =>
    rw [expired outcome (List.mem_filterMap.mpr ⟨_, mem, rfl⟩)]
    rfl
  | _ => rfl

section Clip

variable (find : Nat → List RawDetection) (settings : SessionSettings) {start : StartCommand}
  (once : start.loop = false) {clip : SyntheticClip}
  (opens : SyntheticClip.ofStart start = .ok clip) {k : Client} {n : Nat} (enough : clip.frames < n)

include opens in
theorem opened_of_script (reads : List ReadOutcome) :
    ((SyntheticClip.media Script.host).opening start ⟨reads, []⟩).1 = .ok clip := by
  show (SyntheticClip.opening Script.host start ⟨reads, []⟩).1 = _
  rw [SyntheticClip.opening, opens]

include once opens in
/-- A clip that does not loop takes one poll more than it has frames at most. -/
theorem length_pollsOf_le (sound : k.channel.Sound) (connected : k.isConnected = true)
    (reads : List ReadOutcome) :
    (pollsOf (SyntheticClip.media Script.host) (lookupDetector find) settings start k
      ⟨reads, []⟩).length ≤ clip.frames + 1 := by
  have opened := opened_of_script opens reads
  have course := course_run (smooth_of_script find settings start sound reads) opened
  rw [once, verdictsOf, if_pos connected] at course
  have said := course.length_le
  obtain ⟨m, answers⟩ := answers_run (lookupDetector find) (clip_playsAlone Script.host) settings
    once k opened
  have frames := (answers m (Nat.le_refl m)).sublist.countP_le (p := Event.isFrame)
  have delivered := countP_isFrame_deliveries_le (SyntheticClip.media Script.host).position m clip
  rw [List.length_map] at said
  omega

include once opens enough in
/-- If there are enough reads that expire, all reads of such a session do. -/
theorem expired_of_script (orderly : k.channel.Orderly) (connected : k.isConnected = true) :
    ∀ got ∈ outcomes (run (SyntheticClip.media Script.host).traced (lookupDetector find).traced
      settings start k (.start ⟨List.replicate n .expired, []⟩)).2.2.trace, got = .expired := by
  have opened := opened_of_script opens (List.replicate n .expired)
  have few := length_pollsOf_le find settings once opens orderly.sound connected
    (List.replicate n .expired)
  have read := (readBy_run _ (lookupDetector find) settings start orderly opened).vain_le
  have none : vainReads (.start ⟨List.replicate n .expired, []⟩ : Traced Script Nat).trace = 0 :=
    rfl
  have begun : Silent n (.start ⟨List.replicate n .expired, []⟩ : Traced Script Nat) :=
    .inl ⟨fun got mem => List.eq_of_mem_replicate mem, nofun, by simp [outcomes, Traced.start]⟩
  rcases along_run (along_silent n find settings.realtime) start k _ begun with
    ⟨-, expired, -⟩ | more
  · exact expired
  · omega

include once opens enough in
/-- What the client received before is then all that comes in. -/
theorem onlyNoise_of_script (sound : k.channel.Sound) (connected : k.isConnected = true)
    {before : Bytes} (framed : BufferFramed k.channel.lines before [])
    (unstopped : .stop ∉ k.channel.lines.ready.filterMap commandOf?) :
    OnlyNoise k (run (SyntheticClip.media Script.host).traced (lookupDetector find).traced settings
      start k (.start ⟨List.replicate n .expired, []⟩)).2.2.trace := by
  have expired := expired_of_script find settings once opens enough ⟨sound, before, [], framed⟩
    connected
  refine ⟨connected, ⟨before, [], framed, ?_⟩, fun handle outcome mem => ?_⟩
  · rw [received_of_expired expired, List.append_nil, ← framed.entries_eq]
    exact unstopped
  · rw [expired outcome (List.mem_filterMap.mpr ⟨_, mem, rfl⟩)]
    rfl

end Clip

/-- An unknown command, a line that is no JSON, a start without a video, a line that is too long
and the first half of a stop. -/
def noise : Bytes :=
  Utf8.ofString "\x7b\x7d\nno\n\x7b\"cmd\":\"start\"\x7d\n" ++ List.replicate 65 120 ++
    Utf8.ofString "\n\x7b\"cmd\":\"sto"

/-- A connected client that has received it. -/
def noisyClient : Client :=
  { connectedClient with
    channel := { connectedClient.channel with lines := ((LineBuffer.ofLimit 64).absorb noise).1 } }

theorem ready_noisyClient : noisyClient.channel.lines.ready =
    [.ok (Utf8.ofString "\x7b\x7d"), .ok (Utf8.ofString "no"),
      .ok (Utf8.ofString "\x7b\"cmd\":\"start\"\x7d"), .error (oversizedLine 64)] := by
  rfl

theorem commands_noisyClient : noisyClient.channel.lines.ready.filterMap commandOf? =
    [.unknown (.object []), .unknown (.object [("cmd", .string "start")])] := by
  rw [ready_noisyClient]
  with_unfolding_all rfl

/-! ## Whole sessions -/

variable {k₁ k₂ : Client} {w₁ w₂ : σ} {next : S → Option F × S}

/-- Two sessions that do not loop, on one source that plays alone, with the same detections and
with all writes complete. Whatever noise comes in, cut into chunks in whatever way and with reads
that expire or are interrupted in between, both sessions write the same bytes, give the same frames
to their detector and return the same report. -/
theorem inbound_noise_ignored (alone : M.PlaysAlone next) (once : start.loop = false)
    (same : (M.opening start w₁).1 = (M.opening start w₂).1)
    (smooth₁ : Smooth M D settings start k₁ w₁ find)
    (smooth₂ : Smooth M D settings start k₂ w₂ find)
    (noise₁ : OnlyNoise k₁ (run M.traced D.traced settings start k₁ (.start w₁)).2.2.trace)
    (noise₂ : OnlyNoise k₂ (run M.traced D.traced settings start k₂ (.start w₂)).2.2.trace) :
    let done₁ := run M.traced D.traced settings start k₁ (.start w₁)
    let done₂ := run M.traced D.traced settings start k₂ (.start w₂)
    untraced done₁ = run M D settings start k₁ w₁ ∧
    untraced done₂ = run M D settings start k₂ w₂ ∧
    wires done₁.2.2.trace = wires done₂.2.2.trace ∧
    handed done₁.2.2.trace = handed done₂.2.2.trace ∧
    done₁.1 = done₂.1 := by
  intro done₁ done₂
  obtain ⟨schedule, answered₁, answered₂⟩ := exists_schedule alone once same smooth₁ smooth₂
  have alike : OpensAlike M start w₁ w₂ := by rw [OpensAlike, same]
  let polls₁ := pollsOf M D settings start k₁ w₁
  let polls₂ := pollsOf M D settings start k₂ w₂
  have said₁ : verdictsOf M D settings start k₁ w₁ <+:
      List.replicate (polls₁.length + polls₂.length) none := by
    rw [verdictsOf_of_noise smooth₁.sound noise₁, List.replicate_append_replicate.symm]
    exact List.prefix_append _ _
  have said₂ : verdictsOf M D settings start k₂ w₂ <+:
      List.replicate (polls₁.length + polls₂.length) none := by
    rw [verdictsOf_of_noise smooth₂.sound noise₂, Nat.add_comm,
      List.replicate_append_replicate.symm]
    exact List.prefix_append _ _
  have connected : k₁.isConnected = k₂.isConnected :=
    noise₁.connected.trans noise₂.connected.symm
  obtain ⟨replied, ending⟩ :=
    same_course smooth₁ smooth₂ connected alike said₁ said₂ answered₁ answered₂
  refine ⟨run_traced M D settings start k₁ (.start w₁),
    run_traced M D settings start k₂ (.start w₂), ?_⟩
  rcases alike.sources with ⟨source, source₂, opened, opened₂, rate⟩ | ⟨e, e₂, failed, failed₂⟩
  · have shown₁ := shown_run smooth₁ opened
    have shown₂ := shown_run smooth₂ opened₂
    have passed : passes done₁.2.2.trace = passes done₂.2.2.trace := passes_of_replies replied
    have looped : loops done₁.2.2.trace = loops done₂.2.2.trace := loops_of_replies replied
    rw [← rate] at shown₂
    refine ⟨?_, ?_, report_ext ?_ ending⟩
    · rw [shown₁.wires_eq, shown₂.wires_eq, passed]
    · rw [shown₁.handed_eq, shown₂.handed_eq, passed]
    · rw [shown₁.counts_eq, shown₂.counts_eq, passed, looped]
  · obtain ⟨told₁, handed₁, -⟩ := shown_unavailable smooth₁ failed
    obtain ⟨told₂, handed₂, -⟩ := shown_unavailable smooth₂ failed₂
    rw [← connected, ← told₁] at told₂
    obtain ⟨report, wrote⟩ := Prod.mk.inj told₂
    exact ⟨wrote.symm, handed₁.trans handed₂.symm, report.symm⟩

/-- A clip with and without this noise. -/
theorem inbound_noise_ignored_of_clip :
    let M : Media Script.host SyntheticClip Nat := SyntheticClip.media Script.host
    let D := lookupDetector fun _ => []
    let script : Script := ⟨List.replicate 301 .expired, []⟩
    let done₁ := run M.traced D.traced .default everySecond connectedClient (.start script)
    let done₂ := run M.traced D.traced .default everySecond noisyClient (.start script)
    OnlyNoise connectedClient done₁.2.2.trace ∧ OnlyNoise noisyClient done₂.2.2.trace ∧
    wires done₁.2.2.trace = wires done₂.2.2.trace ∧
    handed done₁.2.2.trace = handed done₂.2.2.trace ∧ done₁.1 = done₂.1 := by
  intro M D script done₁ done₂
  let clip : SyntheticClip := .ofFrames defaultClipFrames
  have opens : SyntheticClip.ofStart everySecond = .ok clip := rfl
  have enough : clip.frames < 301 := by decide
  have sound₁ : connectedClient.channel.Sound := ⟨rfl, rfl, nofun⟩
  have sound₂ : noisyClient.channel.Sound := ⟨rfl, rfl, nofun⟩
  have empty : BufferFramed (.ofLimit 64) [] [] := framed_nil 64
  have noise₁ : OnlyNoise connectedClient done₁.2.2.trace :=
    onlyNoise_of_script _ .default rfl opens enough sound₁ rfl empty nofun
  have noise₂ : OnlyNoise noisyClient done₂.2.2.trace := by
    refine onlyNoise_of_script _ .default rfl opens enough sound₂ rfl
      (framed_absorb empty noise) ?_
    rw [commands_noisyClient]
    simp
  obtain ⟨-, -, wrote, given, report⟩ := inbound_noise_ignored (clip_playsAlone Script.host) rfl rfl
    (smooth_of_script _ .default everySecond sound₁ _)
    (smooth_of_script _ .default everySecond sound₂ _) noise₁ noise₂
  exact ⟨noise₁, noise₂, wrote, given, report⟩

end DetectionLink.Session
