import DetectionLink.Proofs.ValidSettings

/-!
# Valid settings in use

Two rules of valid settings ask for less than what the settings are used for. A number of seconds
has to be positive, but the channel waits for whole nanoseconds, and of half a nanosecond nothing is
left. A frame rate has to be positive, but a session passes over a rate that says nothing.

* `effectiveFps_of_unusable`: the rate of a session that nobody asked a rate for;
* `timeout_pos_iff_exceedsHalfNano`: which times of valid settings are more than nothing, and when
  the channel waits between two attempts to connect;
* `accepted_fps_used_iff`: which frame rates of valid settings are used.
-/

namespace DetectionLink

namespace Settings

/-- The frame rate of valid settings is a number. -/
theorem isFinite_defaultFps {s : Settings} (valid : s.validate = .ok ()) :
    s.session.defaultFps.isFinite = true := by
  have holds := (validate_eq_ok_iff s).mp valid
  simp only [rulebook, List.forall_mem_cons, Rule.positive] at holds
  obtain ⟨-, -, -, -, ⟨rank, finite, -⟩, -⟩ := holds
  rw [finite]
  rfl

end Settings

/-! ## Times -/

/-- Valid settings have a channel, and each of its times is more than nothing exactly if the number
of seconds is more than half a nanosecond; so is the wait between two attempts to connect, whatever
part of a nanosecond was added to it. -/
theorem timeout_pos_iff_exceedsHalfNano {s : Settings} (valid : s.validate = .ok ()) :
    ∃ config, ChannelConfig.ofSettings s.link = .ok config ∧
      (0 < config.connectTimeout.nanos ↔ s.link.connectTimeoutSecs.ExceedsHalfNano) ∧
      (0 < config.retryInterval.nanos ↔ s.link.retryIntervalSecs.ExceedsHalfNano) ∧
      (0 < config.sendTimeout.nanos ↔ s.link.sendTimeoutSecs.ExceedsHalfNano) ∧
      ∀ elapsed part wait,
        Host.constantPause elapsed config.retryInterval config.connectTimeout part = some wait →
        (0 < wait.nanos ↔ s.link.retryIntervalSecs.ExceedsHalfNano) := by
  obtain ⟨config, resolves⟩ := Settings.exists_resolves valid
  have retry := Duration.nanos_pos_iff resolves.retryInterval
  refine ⟨config, ChannelConfig.ofSettings_eq_ok_iff.mpr resolves,
    Duration.nanos_pos_iff resolves.connectTimeout, retry,
    Duration.nanos_pos_iff resolves.sendTimeout, fun elapsed part wait again => ?_⟩
  exact (Host.constantPause_pos_iff again).trans retry

/-- The default settings with another retry interval. -/
def withRetryInterval (seconds : Binary64) : Settings :=
  { Settings.default with link := { LinkSettings.default with retryIntervalSecs := seconds } }

/-- The two doubles around half a nanosecond, both of them valid: of the lower one nothing is left,
the upper one becomes a nanosecond. -/
theorem timeout_pos_around_halfNano :
    let below := withRetryInterval (.finite false ⟨0x3E012E0BE826D694, by decide⟩)
    let above := withRetryInterval (.finite false ⟨0x3E012E0BE826D695, by decide⟩)
    (below.validate = .ok () ∧ above.validate = .ok ()) ∧
    (∃ config, ChannelConfig.ofSettings below.link = .ok config ∧
      ¬ 0 < config.retryInterval.nanos) ∧
    ∃ config, ChannelConfig.ofSettings above.link = .ok config ∧
      0 < config.retryInterval.nanos := by
  intro below above
  have validBelow : below.validate = .ok () := by decide +kernel
  have validAbove : above.validate = .ok () := by decide +kernel
  obtain ⟨config, made, -, retry, -⟩ := timeout_pos_iff_exceedsHalfNano validBelow
  obtain ⟨config', made', -, retry', -⟩ := timeout_pos_iff_exceedsHalfNano validAbove
  refine ⟨⟨validBelow, validAbove⟩, ⟨config, made, fun some => ?_⟩, config', made', ?_⟩
  · obtain ⟨rank, magnitude, more⟩ := retry.mp some
    obtain rfl := magnitude.unique ⟨false, rfl, nofun⟩
    exact absurd more (by decide +kernel)
  · exact retry'.mpr ⟨_, ⟨false, rfl, nofun⟩, by decide +kernel⟩

/-- A tenth of a nanosecond is valid as a retry interval, and is no time at all between attempts,
even with the largest part of a nanosecond added to it. -/
theorem valid_retryInterval_of_nothing :
    let s := withRetryInterval (⟨false, 1, -10⟩ : Decimal).toBinary64
    s.validate = .ok () ∧
    Duration.ofSeconds s.link.retryIntervalSecs = .ok ⟨0⟩ ∧
    ∃ timeout, Duration.ofSeconds s.link.connectTimeoutSecs = .ok timeout ∧
      Host.constantPause ⟨0⟩ ⟨0⟩ timeout ⟨Duration.partsPerNano - 1, by decide⟩ = some ⟨0⟩ := by
  refine ⟨by decide +kernel, by decide +kernel, ⟨30 * Duration.nanosPerSecond⟩, ?_, ?_⟩
  · decide +kernel
  · decide +kernel

/-! ## Rates -/

/-- Where neither the source nor the start command has a rate, the settings' own is used unless it
says nothing. -/
theorem effectiveFps_of_unusable {source : Option Binary64} {requested : Binary64}
    (noRate : ∀ fps, source = some fps → usableFps fps = false)
    (notAsked : usableFps requested = false) (fallback : Binary64) :
    effectiveFps source requested fallback =
      if usableFps fallback then fallback else standardFps := by
  have unrated : source.filter usableFps = none := by
    cases source with
    | none => rfl
    | some fps => simp [noRate fps rfl]
  rw [effectiveFps, unrated, notAsked]
  rfl

/-- A session on a source without a rate, started without one: the frame rate of valid settings is
what it is paced and stamped with exactly if it is above the least rate there is. Otherwise the
standard rate takes its place. -/
theorem accepted_fps_used_iff {s : Settings} (valid : s.validate = .ok ()) (start : StartCommand)
    (rate : Option Binary64) (noRate : ∀ fps, rate = some fps → usableFps fps = false)
    (notAsked : usableFps start.fps = false) :
    let used := (Session.planOf s.session start rate).fps
    (used = s.session.defaultFps ↔ fpsEpsilon.lt s.session.defaultFps = true) ∧
    (used ≠ s.session.defaultFps → used = standardFps) := by
  intro used
  have chosen : used = if fpsEpsilon.lt s.session.defaultFps then s.session.defaultFps
      else standardFps := by
    have usable : usableFps s.session.defaultFps = fpsEpsilon.lt s.session.defaultFps := by
      rw [usableFps, s.isFinite_defaultFps valid, Bool.true_and]
    rw [← usable]
    exact effectiveFps_of_unusable noRate notAsked _
  have standard : fpsEpsilon.lt standardFps = true := by decide +kernel
  rw [chosen]
  by_cases above : fpsEpsilon.lt s.session.defaultFps = true
  · simp [above]
  · rw [if_neg above]
    refine ⟨⟨fun same => same ▸ standard, fun more => absurd more above⟩, fun _ => rfl⟩

/-- The default settings with another frame rate. -/
def withDefaultFps (fps : Binary64) : Settings :=
  { Settings.default with session := { SessionSettings.default with defaultFps := fps } }

/-- The first double above the least rate there is, for a session that asks for nothing on a source
that reports the least rate itself. -/
theorem accepted_fps_used_above_epsilon :
    let s := withDefaultFps (.finite false ⟨0x3F50624DD2F1A9FD, by decide⟩)
    (s.validate = .ok () ∧ usableFps fpsEpsilon = false ∧ usableFps .zero = false) ∧
    ∀ path, (Session.planOf s.session ⟨path, .zero, .zero, false, none⟩ (some fpsEpsilon)).fps =
      s.session.defaultFps := by
  intro s
  have valid : s.validate = .ok () := by decide +kernel
  have least : usableFps fpsEpsilon = false := by decide +kernel
  have zero : usableFps .zero = false := by decide +kernel
  refine ⟨⟨valid, least, zero⟩, fun path => ?_⟩
  have used := accepted_fps_used_iff valid ⟨path, .zero, .zero, false, none⟩ (some fpsEpsilon)
    (fun fps same => Option.some.inj same ▸ least) zero
  exact used.1.mpr (by decide +kernel)

/-- A frame every 2000 seconds is valid, and is passed over for the standard rate. -/
theorem valid_fps_passed_over :
    let s := withDefaultFps (⟨false, 5, -4⟩ : Decimal).toBinary64
    s.validate = .ok () ∧
    (Session.planOf s.session ⟨"", .zero, .zero, false, none⟩ none).fps = standardFps ∧
    standardFps ≠ s.session.defaultFps := by
  decide +kernel

end DetectionLink
