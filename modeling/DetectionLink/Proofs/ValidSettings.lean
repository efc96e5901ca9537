import DetectionLink.Proofs.Durations
import DetectionLink.Proofs.Ranking
import DetectionLink.Streamer

/-!
# What valid settings promise

Settings are valid when they keep eleven rules, and otherwise the first broken one is reported. All
three times of valid settings have durations, so there is a client for them.

* `Rule`, `rulebook`, `BreaksFirst`: the rules in their order;
* `checked_rules`: each rule is checked where it stands;
* `validate_eq_ok_iff`, `validate_eq_error_iff`: valid settings, and what is wrong with others;
* `ChannelConfig.Resolves`, `ofSettings_eq_ok_iff`: the channel of settings;
* `accepted_settings_build_client`: the client of valid settings.
-/

namespace DetectionLink

open Binary64 (unitsPerOne units rankOne)

/-! ## Rules -/

namespace Binary64

/-- More than nothing, and not infinite. -/
def IsPositive (x : Binary64) : Prop := ∃ rank, x = .finite false rank ∧ rank.val ≠ 0

/-- From zero to one; a zero may have either sign. -/
def IsFraction (x : Binary64) : Prop :=
  ∃ rank, x.IsMagnitude rank ∧ units rank ≤ unitsPerOne

end Binary64

namespace Settings

/-- A rule of valid settings. -/
structure Rule where
  /-- The setting that the rule is about. -/
  setting : String
  Holds : Settings → Prop
  /-- What is reported of settings that break the rule. -/
  fault : Settings → SettingsFault

namespace Rule

def positive (setting : String) (value : Settings → Binary64) : Rule where
  setting
  Holds s := (value s).IsPositive
  fault s := .notPositive setting (value s)

def duration (setting : String) (value : Settings → Binary64) : Rule where
  setting
  Holds s := (value s).FitsDuration
  fault s := .tooLarge setting (value s)

end Rule

/-- All rules, in the order in which they are asked. -/
def rulebook : List Rule := [
  ⟨"socket_path", fun s => s.link.socketPath ≠ [], fun _ => .emptySocketPath⟩,
  .positive "connect_timeout_secs" (·.link.connectTimeoutSecs),
  .positive "retry_interval_secs" (·.link.retryIntervalSecs),
  .positive "send_timeout_secs" (·.link.sendTimeoutSecs),
  .positive "default_fps" (·.session.defaultFps),
  .duration "connect_timeout_secs" (·.link.connectTimeoutSecs),
  .duration "retry_interval_secs" (·.link.retryIntervalSecs),
  .duration "send_timeout_secs" (·.link.sendTimeoutSecs),
  ⟨"max_message_bytes", fun s => 0 < s.link.maxMessageBytes, fun _ => .zeroMessageLimit⟩,
  ⟨"default_frame_interval", fun s => 0 < s.session.defaultFrameInterval,
    fun _ => .zeroFrameInterval⟩,
  ⟨"confidence_threshold", fun s => s.detector.confidenceThreshold.IsFraction,
    fun s => .thresholdOutside s.detector.confidenceThreshold⟩]

/-- The settings break a rule and none before it, and this is the fault of that rule. -/
def BreaksFirst (s : Settings) (fault : SettingsFault) : Prop :=
  ∃ before rule after, rulebook = before ++ rule :: after ∧
    (∀ earlier ∈ before, earlier.Holds s) ∧ ¬ rule.Holds s ∧ fault = rule.fault s

/-! ## What is checked -/

/-- The result of checking a rule. -/
inductive Checked (s : Settings) (rule : Rule) : Option SettingsFault → Prop
  | kept : rule.Holds s → Checked s rule none
  | broken : ¬ rule.Holds s → Checked s rule (some (rule.fault s))

theorem isPositive_iff (x : Binary64) : isPositive x = true ↔ x.IsPositive := by
  constructor
  · intro positive
    cases x with
    | nan => cases positive
    | infinite _ => cases positive
    | finite negative rank =>
      cases negative with
      | true =>
        simp [isPositive, Binary64.lt, Binary64.place, Binary64.zero] at positive
        omega
      | false =>
        simp [isPositive, Binary64.isFinite, Binary64.lt, Binary64.place, Binary64.zero] at positive
        exact ⟨rank, rfl, by omega⟩
  · rintro ⟨rank, rfl, some⟩
    simp [isPositive, Binary64.isFinite, Binary64.lt, Binary64.place, Binary64.zero]
    omega

theorem isFraction_iff (x : Binary64) :
    (Binary64.zero.le x && x.le .one) = true ↔ x.IsFraction := by
  have order (rank : Nat) : units rank ≤ unitsPerOne ↔ rank ≤ rankOne := by
    rw [← Binary64.units_rankOne]
    exact Binary64.units_strictMono.le_iff_le
  have zero : Binary64.zero.place = some 0 := rfl
  have one : Binary64.one.place = some (rankOne : Int) := by rw [one_eq]; rfl
  constructor
  · intro within
    cases x with
    | nan => cases within
    | infinite negative => cases negative <;> exact absurd within (by decide +kernel)
    | finite negative rank =>
      rw [Bool.and_eq_true, le_iff zero rfl, le_iff rfl one] at within
      refine ⟨rank, ⟨negative, rfl, fun sign => ?_⟩, (order rank).mpr ?_⟩
      · rw [if_pos sign] at within
        omega
      · cases negative with
        | true => simp at within; omega
        | false => simpa using within.2
  · rintro ⟨rank, ⟨negative, rfl, unsigned⟩, most⟩
    have most := (order rank).mp most
    rw [Bool.and_eq_true, le_iff zero rfl, le_iff rfl one]
    cases negative with
    | true => simp [unsigned rfl]
    | false => simpa using most

theorem checked_faultIf {s : Settings} {rule : Rule} {broken : Bool}
    (h : broken = true ↔ ¬ rule.Holds s) : Checked s rule (faultIf broken (rule.fault s)) := by
  cases broken with
  | true => exact .broken (h.mp rfl)
  | false => exact .kept (by simpa using h)

theorem checked_positive (s : Settings) (setting : String) (value : Settings → Binary64) :
    Checked s (.positive setting value) (positiveFault? setting (value s)) := by
  unfold positiveFault?
  split
  · next positive => exact .kept ((isPositive_iff _).mp positive)
  · next other => exact .broken fun holds => other ((isPositive_iff _).mpr holds)

theorem checked_duration (s : Settings) (setting : String) (value : Settings → Binary64) :
    Checked s (.duration setting value) (durationFault? setting (value s)) := by
  unfold durationFault?
  split
  · next d converted => exact .kept (Duration.exists_ofSeconds_iff.mp ⟨d, converted⟩)
  · next failed =>
    refine .broken fun holds => ?_
    obtain ⟨d, converted⟩ := Duration.exists_ofSeconds_iff.mpr holds
    cases failed.symm.trans converted

theorem checked_rules (s : Settings) : List.Forall₂ (Checked s) rulebook s.rules := by
  refine .cons (checked_faultIf (by simp)) <| .cons (checked_positive s _ _) <|
    .cons (checked_positive s _ _) <| .cons (checked_positive s _ _) <|
    .cons (checked_positive s _ _) <| .cons (checked_duration s _ _) <|
    .cons (checked_duration s _ _) <| .cons (checked_duration s _ _) <|
    .cons (checked_faultIf ?_) <| .cons (checked_faultIf ?_) <| .cons (checked_faultIf ?_) .nil
  · simp
  · simp
  · simp only [← isFraction_iff, Bool.not_eq_true', Bool.not_eq_true]

/-! ## The first fault -/

section First

variable {s : Settings} {rules : List Rule} {results : List (Option SettingsFault)}

theorem findSome?_eq_none_iff (checked : List.Forall₂ (Checked s) rules results) :
    results.findSome? id = none ↔ ∀ rule ∈ rules, rule.Holds s := by
  induction checked with
  | nil => simp
  | cons head _ ih =>
    cases head with
    | kept holds => simp [ih, holds]
    | broken fails => simp [fails]

theorem findSome?_eq_some_iff (checked : List.Forall₂ (Checked s) rules results)
    (fault : SettingsFault) :
    results.findSome? id = some fault ↔ ∃ before rule after, rules = before ++ rule :: after ∧
      (∀ earlier ∈ before, earlier.Holds s) ∧ ¬ rule.Holds s ∧ fault = rule.fault s := by
  induction checked with
  | nil => simp
  | @cons first result rest results head _ ih =>
    cases head with
    | kept holds =>
      rw [List.findSome?_cons, id, ih]
      constructor
      · rintro ⟨before, rule, after, rfl, earlier, broken⟩
        exact ⟨first :: before, rule, after, rfl, by simpa [holds] using earlier, broken⟩
      · rintro ⟨before, rule, after, split, earlier, fails, report⟩
        cases before with
        | nil =>
          obtain ⟨rfl, -⟩ := List.cons.inj split
          exact absurd holds fails
        | cons _ before =>
          obtain ⟨-, rfl⟩ := List.cons.inj split
          exact ⟨before, rule, after, rfl, fun r mem => earlier r (.tail _ mem), fails, report⟩
    | broken fails =>
      rw [List.findSome?_cons, id]
      constructor
      · intro found
        exact ⟨[], first, rest, rfl, nofun, fails, (Option.some.inj found).symm⟩
      · rintro ⟨before, rule, after, split, earlier, -, rfl⟩
        cases before with
        | nil =>
          obtain ⟨rfl, -⟩ := List.cons.inj split
          rfl
        | cons _ before =>
          obtain ⟨rfl, -⟩ := List.cons.inj split
          exact absurd (earlier _ (.head _)) fails

end First

theorem validate_eq_ok_iff (s : Settings) :
    s.validate = .ok () ↔ ∀ rule ∈ rulebook, rule.Holds s := by
  rw [← findSome?_eq_none_iff (checked_rules s), validate, firstFault?]
  cases s.rules.findSome? id <;> simp

theorem validate_eq_error_iff (s : Settings) (fault : SettingsFault) :
    s.validate = .error fault ↔ BreaksFirst s fault := by
  rw [BreaksFirst, ← findSome?_eq_some_iff (checked_rules s), validate, firstFault?]
  cases s.rules.findSome? id <;> simp

/-- A report begins with the name of the setting. -/
theorem exists_reason_eq (s : Settings) :
    ∀ rule ∈ rulebook, ∃ rest, (rule.fault s).reason = rule.setting ++ rest := by
  have positive (setting : String) (value : Settings → Binary64) :
      ∃ rest, ((Rule.positive setting value).fault s).reason = setting ++ rest :=
    ⟨" must be a positive number, got " ++ plain.text (value s), String.append_assoc ..⟩
  have duration (setting : String) (value : Settings → Binary64) :
      ∃ rest, ((Rule.duration setting value).fault s).reason = setting ++ rest :=
    ⟨" is too large, got " ++ plain.text (value s), String.append_assoc ..⟩
  simp only [rulebook, List.forall_mem_cons]
  exact ⟨⟨" cannot be empty", rfl⟩, positive _ _, positive _ _, positive _ _, positive _ _,
    duration _ _, duration _ _, duration _ _, ⟨" must be non-zero", rfl⟩,
    ⟨" must be at least 1", rfl⟩, ⟨" must be within 0.0-1.0, got " ++ _, rfl⟩, nofun⟩

end Settings

/-! ## The channel of valid settings -/

/-- A channel as connection settings want it. -/
structure ChannelConfig.Resolves (config : ChannelConfig) (s : LinkSettings) : Prop where
  socketPath : config.socketPath = s.socketPath
  connectTimeout : Duration.ofSeconds s.connectTimeoutSecs = .ok config.connectTimeout
  retryInterval : Duration.ofSeconds s.retryIntervalSecs = .ok config.retryInterval
  sendTimeout : Duration.ofSeconds s.sendTimeoutSecs = .ok config.sendTimeout
  sendBufferBytes : config.sendBufferBytes = s.sendBufferBytes
  maxMessageBytes : config.maxMessageBytes = s.maxMessageBytes

theorem ChannelConfig.ofSettings_eq_ok_iff {s : LinkSettings} {config : ChannelConfig} :
    ofSettings s = .ok config ↔ config.Resolves s := by
  unfold ofSettings
  constructor
  · intro made
    cases connect : Duration.ofSeconds s.connectTimeoutSecs with
    | error _ => rw [connect] at made; cases made
    | ok connectTimeout =>
      cases retry : Duration.ofSeconds s.retryIntervalSecs with
      | error _ => rw [connect, retry] at made; cases made
      | ok retryInterval =>
        cases send : Duration.ofSeconds s.sendTimeoutSecs with
        | error _ => rw [connect, retry, send] at made; cases made
        | ok sendTimeout =>
          rw [connect, retry, send] at made
          obtain rfl := Except.ok.inj made
          exact ⟨rfl, connect, retry, send, rfl, rfl⟩
  · rintro ⟨path, connect, retry, send, buffer, limit⟩
    rw [connect, retry, send]
    obtain ⟨_, _, _, _, _, _⟩ := config
    dsimp only at path buffer limit
    subst path buffer limit
    rfl

namespace Settings

/-- The three times of valid settings have durations. -/
theorem exists_resolves {s : Settings} (valid : s.validate = .ok ()) :
    ∃ config : ChannelConfig, config.Resolves s.link := by
  have holds := (validate_eq_ok_iff s).mp valid
  simp only [rulebook, List.forall_mem_cons, Rule.duration] at holds
  obtain ⟨-, -, -, -, -, connect, retry, send, -⟩ := holds
  obtain ⟨connectTimeout, connect⟩ := Duration.exists_ofSeconds_iff.mpr connect
  obtain ⟨retryInterval, retry⟩ := Duration.exists_ofSeconds_iff.mpr retry
  obtain ⟨sendTimeout, send⟩ := Duration.exists_ofSeconds_iff.mpr send
  exact ⟨⟨s.link.socketPath, connectTimeout, retryInterval, sendTimeout, s.link.sendBufferBytes,
    s.link.maxMessageBytes⟩, rfl, connect, retry, send, rfl, rfl⟩

end Settings

/-- A streamer with a channel for its settings is set up: only its link can fail. -/
theorem Streamer.stream_ne_setup {σ : Type} (H : Host σ) {s : Settings} {config : ChannelConfig}
    (resolves : config.Resolves s.link) (seed : UInt64) (patience : Nat) (w : σ)
    (message : String) (origin : Origin) :
    (stream H s seed patience w).1 ≠ .error (.setup message origin) := by
  unfold stream
  rw [ChannelConfig.ofSettings_eq_ok_iff.mpr resolves]
  dsimp only
  split
  · exact nofun
  · exact nofun

/-- Settings are valid when they keep all rules. Otherwise what is reported is the fault of the
first rule that they break, and its text begins with the name of the setting. Valid settings have a
channel whose times are the nearest to those that were asked for, and a streamer with such settings
never fails before it uses its link. -/
theorem accepted_settings_build_client (s : Settings) :
    (s.validate = .ok () ↔ ∀ rule ∈ Settings.rulebook, rule.Holds s) ∧
    (∀ fault, s.validate = .error fault ↔ s.BreaksFirst fault) ∧
    (∀ rule ∈ Settings.rulebook, ∃ rest, (rule.fault s).reason = rule.setting ++ rest) ∧
    (s.validate = .ok () → ∃ config, ChannelConfig.ofSettings s.link = .ok config ∧
      config.Resolves s.link ∧
      config.connectTimeout.IsNearest s.link.connectTimeoutSecs ∧
      config.retryInterval.IsNearest s.link.retryIntervalSecs ∧
      config.sendTimeout.IsNearest s.link.sendTimeoutSecs ∧
      ∀ (σ : Type) (H : Host σ) (seed : UInt64) (patience : Nat) (w : σ) (message : String)
        (origin : Origin), (Streamer.stream H s seed patience w).1 ≠
          .error (.setup message origin)) := by
  refine ⟨s.validate_eq_ok_iff, s.validate_eq_error_iff, s.exists_reason_eq, fun valid => ?_⟩
  obtain ⟨config, resolves⟩ := Settings.exists_resolves valid
  exact ⟨config, ChannelConfig.ofSettings_eq_ok_iff.mpr resolves, resolves,
    Duration.isNearest_ofSeconds resolves.connectTimeout,
    Duration.isNearest_ofSeconds resolves.retryInterval,
    Duration.isNearest_ofSeconds resolves.sendTimeout,
    fun _ H => Streamer.stream_ne_setup H resolves⟩

/-- The largest number of seconds below `2 ^ 64`, and the smallest positive one twice. -/
def extremeSettings : Settings :=
  { Settings.default with link := { LinkSettings.default with
    connectTimeoutSecs := .finite false ⟨0x43EFFFFFFFFFFFFF, by decide⟩
    retryIntervalSecs := .finite false ⟨1, by decide⟩
    sendTimeoutSecs := .finite false ⟨1, by decide⟩ } }

theorem client_of_extremeSettings :
    extremeSettings.validate = .ok () ∧
    ∃ config, ChannelConfig.ofSettings extremeSettings.link = .ok config ∧
      config.connectTimeout = ⟨Duration.nanosPerSecond * (2 ^ 64 - 2048)⟩ := by
  have valid : extremeSettings.validate = .ok () := by decide +kernel
  obtain ⟨-, -, -, builds⟩ := accepted_settings_build_client extremeSettings
  obtain ⟨config, made, resolves, -⟩ := builds valid
  have nanos : Duration.ofSeconds extremeSettings.link.connectTimeoutSecs =
      .ok ⟨Duration.nanosPerSecond * (2 ^ 64 - 2048)⟩ := by decide +kernel
  exact ⟨valid, config, made, Except.ok.inj (resolves.connectTimeout.symm.trans nanos)⟩

end DetectionLink
