import DetectionLink.Proofs.Trace
import DetectionLink.Proofs.ValidSettings
import DetectionLink.Proofs.Variables

/-!
# Settings in layers

Start-up settles three sources of settings: variables come before what a settings file names, and
that before the defaults. A settings file has to be valid by itself, and so does the outcome. Where
that file is by default is for the platform to say, and so it may be anywhere, or nowhere.

* `Overrides`, `Overrides.GivenBy`: what variables override;
* `NamedBy`: what the settings file names;
* `layered`: the settings of both;
* `resolve_eq_ok_iff`: when there are settings, and which;
* `fromEnvironment_layers`: the same behind a file of variables, and when that stops start-up.
-/

namespace DetectionLink

/-! ## Variables -/

/-- The settings that variables can override, and what they are overridden with. -/
structure Overrides where
  socketPath : Option Bytes
  realtime : Option Bool
  confidenceThreshold : Option Binary64

namespace Overrides

/-- What the text of a variable gives: nothing when there is none, and otherwise it has to be one
that can be read. -/
inductive Gives {α : Type} (read : List Char → Option α) : Option (List Char) → Option α → Prop
  | unset : Gives read none none
  | set {raw value} (good : read raw = some value) : Gives read (some raw) (some value)

section Gives

variable {α : Type} {read : List Char → Option α} {given : Option α}

@[simp] theorem gives_none_iff : Gives read none given ↔ given = none := by
  constructor
  · rintro ⟨⟩
    rfl
  · rintro rfl
    exact .unset

@[simp] theorem gives_some_iff {raw : List Char} :
    Gives read (some raw) given ↔ ∃ value, read raw = some value ∧ given = some value := by
  constructor
  · rintro (_ | good)
    exact ⟨_, good, rfl⟩
  · rintro ⟨_, good, rfl⟩
    exact .set good

end Gives

/-- The overrides of an environment. The socket path need not be text; the other two are not set
unless they are. -/
structure GivenBy (env : Environment) (o : Overrides) : Prop where
  socketPath : o.socketPath = env.value? Variable.socketPath
  realtime : Gives switch? (env.text? Variable.realtime) o.realtime
  confidenceThreshold : Gives (fun raw => Decimal.ofText? (trim raw))
    (env.text? Variable.confidenceThreshold) o.confidenceThreshold

/-- Settings with overrides put in. -/
def onto (o : Overrides) (s : Settings) : Settings where
  link := { s.link with socketPath := o.socketPath.getD s.link.socketPath }
  session := { s.session with realtime := o.realtime.getD s.session.realtime }
  detector := ⟨o.confidenceThreshold.getD s.detector.confidenceThreshold⟩

end Overrides

namespace Settings

variable {env : Environment} {s c : Settings}

theorem overrideRealtime_eq_ok_iff :
    s.overrideRealtime env = .ok c ↔ ∃ realtime,
      Overrides.Gives switch? (env.text? Variable.realtime) realtime ∧
      { s with session := { s.session with
        realtime := realtime.getD s.session.realtime } } = c := by
  unfold overrideRealtime
  cases env.text? Variable.realtime with
  | none => simp
  | some raw =>
    dsimp only
    cases read : switch? raw with
    | none => simp [read]
    | some _ => simp [read]

theorem overrideThreshold_eq_ok_iff :
    s.overrideThreshold env = .ok c ↔ ∃ threshold,
      Overrides.Gives (fun raw => Decimal.ofText? (trim raw))
        (env.text? Variable.confidenceThreshold) threshold ∧
      { s with detector := ⟨threshold.getD s.detector.confidenceThreshold⟩ } = c := by
  unfold overrideThreshold
  cases env.text? Variable.confidenceThreshold with
  | none => simp
  | some raw =>
    dsimp only
    cases read : Decimal.ofText? (trim raw) with
    | none => simp [read]
    | some _ => simp [read]

theorem overrideSocketPath_eq :
    s.overrideSocketPath env = { s with link := { s.link with
      socketPath := (env.value? Variable.socketPath).getD s.link.socketPath } } := by
  unfold overrideSocketPath
  cases env.value? Variable.socketPath <;> rfl

/-- Variables leave settings when all of them can be read and the outcome is valid. -/
theorem override_eq_ok_iff :
    s.override env = (.ok (), c) ↔
      ∃ o : Overrides, o.GivenBy env ∧ c = o.onto s ∧ c.validate = .ok () := by
  unfold override
  rw [overrideSocketPath_eq]
  -- each variable changes what the one before it left
  constructor
  · intro done
    dsimp only at done
    split at done
    · cases done
    · next switched =>
      split at done
      · cases done
      · next measured =>
        obtain ⟨realtime, givesRealtime, rfl⟩ := overrideRealtime_eq_ok_iff.mp switched
        obtain ⟨threshold, givesThreshold, rfl⟩ := overrideThreshold_eq_ok_iff.mp measured
        obtain ⟨valid, rfl⟩ := Prod.mk.inj done
        exact ⟨⟨env.value? Variable.socketPath, realtime, threshold⟩,
          ⟨rfl, givesRealtime, givesThreshold⟩, rfl, valid⟩
  · rintro ⟨⟨path, realtime, threshold⟩, ⟨rfl, givesRealtime, givesThreshold⟩, rfl, valid⟩
    dsimp only
    rw [overrideRealtime_eq_ok_iff.mpr ⟨realtime, givesRealtime, rfl⟩]
    dsimp only
    rw [overrideThreshold_eq_ok_iff.mpr ⟨threshold, givesThreshold, rfl⟩]
    exact Prod.ext valid rfl

/-! ## The settings file -/

/-- What the settings file names. It names nothing when it is not there, and otherwise it has to be
read, and be valid by itself. -/
inductive NamedBy (D : UserDirectories) (f : Files) (working : Place) (env : Environment) :
    NamedSettings → Prop
  | nowhere (homeless : path? D env = none) : NamedBy D f working env ⟨.none, .none, .none⟩
  | absent {path} (place : path? D env = some path)
      (missing : f.pathExists working path = false) :
      NamedBy D f working env ⟨.none, .none, .none⟩
  | file {path text named} (place : path? D env = some path)
      (read : f.readText working path = .ok text)
      (parsed : NamedSettings.ofText? text = some named)
      (valid : named.settings.validate = .ok ()) : NamedBy D f working env named

section File

variable {W : Wording} {D : UserDirectories} {f : Files} {working : Place} {path : Bytes}

theorem pathExists_of_readText {text : List Char} (read : f.readText working path = .ok text) :
    f.pathExists working path = true := by
  rw [Files.pathExists]
  cases found : f.lookup working path with
  | ok _ => rfl
  | error _ =>
    rw [Files.readText, Files.readBytes, found] at read
    cases read

/-- A text file is loaded for what it says. -/
theorem loadNamed_of_readText {text : List Char} (place : path? D env = some path)
    (read : f.readText working path = .ok text) :
    (loadNamed W D f working env).1 = ofText W path text := by
  rw [loadNamed, place]
  dsimp only
  rw [load, pathExists_of_readText read, if_pos rfl, read]

theorem ofText_eq_ok_iff {text : List Char} :
    ofText W path text = .ok s ↔ ∃ named, NamedSettings.ofText? text = some named ∧
      named.settings.validate = .ok () ∧ s = named.settings := by
  unfold ofText
  cases NamedSettings.ofText? text with
  | none => simp
  | some named =>
    dsimp only
    cases checked : named.settings.validate with
    | error _ => simp [checked, Except.mapError, Except.map]
    | ok _ => simp [checked, Except.mapError, Except.map, eq_comm]

/-- A file that names nothing has the default settings. -/
theorem settings_of_nothing :
    (⟨.none, .none, .none⟩ : NamedSettings).settings = .default := by
  have link (d : LinkSettings) : NamedLink.none.withDefaults d = d := rfl
  have session (d : SessionSettings) : NamedSession.none.withDefaults d = d := rfl
  have detector (d : DetectorSettings) : NamedDetector.none.withDefaults d = d := rfl
  rw [NamedSettings.settings, link, session, detector, Settings.default]

theorem loadNamed_eq_ok_iff :
    (loadNamed W D f working env).1 = .ok s ↔
      ∃ named, NamedBy D f working env named ∧ s = named.settings := by
  unfold loadNamed
  constructor
  · intro loaded
    split at loaded
    · next path place =>
      unfold load at loaded
      split at loaded
      · split at loaded
        · cases loaded
        · next text read =>
          obtain ⟨named, parsed, valid, rfl⟩ := ofText_eq_ok_iff.mp loaded
          exact ⟨named, .file place read parsed valid, rfl⟩
      · next missing =>
        obtain rfl := Except.ok.inj loaded
        exact ⟨_, .absent place (Bool.eq_false_iff.mpr missing), settings_of_nothing.symm⟩
    · next homeless =>
      obtain rfl := Except.ok.inj loaded
      exact ⟨_, .nowhere homeless, settings_of_nothing.symm⟩
  · rintro ⟨named, source, rfl⟩
    cases source with
    | nowhere homeless => rw [homeless, settings_of_nothing]
    | absent place missing =>
      rw [place, settings_of_nothing]
      dsimp only
      rw [load, missing, if_neg Bool.false_ne_true]
    | file place read parsed valid =>
      exact (loadNamed_of_readText place read).trans
        (ofText_eq_ok_iff.mpr ⟨named, parsed, valid, rfl⟩)

/-- A file that is not valid by itself is refused, whatever variables say. -/
theorem resolve_of_invalid {text : List Char} {named : NamedSettings} {fault : SettingsFault}
    (place : path? D env = some path) (read : f.readText working path = .ok text)
    (parsed : NamedSettings.ofText? text = some named)
    (invalid : named.settings.validate = .error fault) :
    (resolve W D f working env).1 = .error fault.toError := by
  have loaded : (loadNamed W D f working env).1 = .error fault.toError := by
    rw [loadNamed_of_readText place read, ofText, parsed]
    dsimp only
    rw [invalid]
    rfl
  rw [resolve, loaded]

end File

/-! ## All layers -/

/-- Settings in layers: a variable comes before the file, and the file before the default. -/
def layered (o : Overrides) (n : NamedSettings) : Settings where
  link := {
    socketPath :=
      (o.socketPath.or n.link.socketPath).getD LinkSettings.default.socketPath
    connectTimeoutSecs :=
      n.link.connectTimeoutSecs.getD LinkSettings.default.connectTimeoutSecs
    retryIntervalSecs := n.link.retryIntervalSecs.getD LinkSettings.default.retryIntervalSecs
    sendTimeoutSecs := n.link.sendTimeoutSecs.getD LinkSettings.default.sendTimeoutSecs
    pollTimeoutMs := n.link.pollTimeoutMs.getD LinkSettings.default.pollTimeoutMs
    sendBufferBytes := n.link.sendBufferBytes.getD LinkSettings.default.sendBufferBytes
    maxMessageBytes := n.link.maxMessageBytes.getD LinkSettings.default.maxMessageBytes }
  session := {
    realtime := (o.realtime.or n.session.realtime).getD SessionSettings.default.realtime
    defaultFps := n.session.defaultFps.getD SessionSettings.default.defaultFps
    defaultFrameInterval :=
      n.session.defaultFrameInterval.getD SessionSettings.default.defaultFrameInterval }
  detector := {
    confidenceThreshold := (o.confidenceThreshold.or n.detector.confidenceThreshold).getD
      DetectorSettings.default.confidenceThreshold }

theorem onto_settings (o : Overrides) (n : NamedSettings) : o.onto n.settings = layered o n := by
  simp only [layered, Option.getD_or]
  rfl

theorem resolve_eq_ok_iff {W : Wording} {D : UserDirectories} {f : Files} {working : Place} :
    (resolve W D f working env).1 = .ok c ↔ ∃ o named, NamedBy D f working env named ∧
      o.GivenBy env ∧ c = layered o named ∧ c.validate = .ok () := by
  unfold resolve
  dsimp only
  constructor
  · intro resolved
    split at resolved
    · cases resolved
    · next s loaded =>
      obtain ⟨named, source, rfl⟩ := loadNamed_eq_ok_iff.mp loaded
      rcases outcome : named.settings.override env with ⟨_ | _, s⟩
      · rw [outcome] at resolved
        cases resolved
      · rw [outcome] at resolved
        obtain rfl : s = c := Except.ok.inj resolved
        obtain ⟨o, given, rfl, valid⟩ := override_eq_ok_iff.mp outcome
        rw [onto_settings] at valid ⊢
        exact ⟨o, named, source, given, rfl, valid⟩
  · rintro ⟨o, named, source, given, rfl, valid⟩
    rw [loadNamed_eq_ok_iff.mpr ⟨named, source, rfl⟩]
    dsimp only
    rw [override_eq_ok_iff.mpr ⟨o, given, (onto_settings o named).symm, valid⟩]
    rfl

end Settings

/-! ## Start-up -/

section Start

variable {W : Wording} {D : UserDirectories} {f : Files} {working : Place} {env : Environment}
  {started : Startup}

theorem fromEnvironment_eq_error_iff {u : DotFile.Unsettable} :
    Settings.fromEnvironment W D f working env = .error u ↔
      (Settings.loadVariables f working env).map Prod.fst = .error u := by
  rw [Settings.fromEnvironment]
  cases Settings.loadVariables f working env <;> simp [Except.map]

/-- Start-up that goes on settles the settings in the environment that it leaves. -/
theorem started_of_fromEnvironment
    (came : Settings.fromEnvironment W D f working env = .ok started) :
    (Settings.loadVariables f working env).map Prod.fst = .ok started.env ∧
      (Settings.resolve W D f working started.env).1 = started.outcome := by
  rw [Settings.fromEnvironment] at came
  cases loaded : Settings.loadVariables f working env with
  | error u =>
    rw [loaded] at came
    cases came
  | ok taken =>
    rw [loaded] at came
    obtain rfl := Except.ok.inj came
    exact ⟨rfl, rfl⟩

end Start

/-- First a file of variables is taken in: it supplies what is not set, or not set to a text. This
stops the process exactly if a variable would have to take a value that none can hold. Otherwise
there are settings exactly if the settings file is not there or is valid by itself, the variables
can be read and the outcome is valid, and these are the settings of all layers. A file that is not
valid by itself is refused for its own fault, whatever variables say. -/
theorem fromEnvironment_layers (W : Wording) (D : UserDirectories) (f : Files) (working : Place)
    (env : Environment) :
    let offers := DotFile.offers f working env
    ((∃ unsettable, Settings.fromEnvironment W D f working env = .error unsettable) ↔
      ∃ name, DotFile.Refused (env.lookup name) (offers.lookup name)) ∧
    ∀ started, Settings.fromEnvironment W D f working env = .ok started →
      (∀ name, started.env.lookup name =
        DotFile.supplied (env.lookup name) (offers.lookup name)) ∧
      (∀ c, started.outcome = .ok c ↔
        ∃ o named, Settings.NamedBy D f working started.env named ∧
          o.GivenBy started.env ∧ c = Settings.layered o named ∧ c.validate = .ok ()) ∧
      ∀ path text named fault, Settings.path? D started.env = some path →
        f.readText working path = .ok text → NamedSettings.ofText? text = some named →
        named.settings.validate = .error fault → started.outcome = .error fault.toError := by
  intro offers
  have taken := taken_loadVariables f working env
  refine ⟨?_, fun started came => ?_⟩
  · rw [← taken.exists_error_iff]
    exact exists_congr fun _ => fromEnvironment_eq_error_iff
  · obtain ⟨loaded, outcome⟩ := started_of_fromEnvironment came
    rw [loaded] at taken
    obtain _ | ⟨-, lookup_eq⟩ := taken
    rw [← outcome]
    exact ⟨lookup_eq, fun _ => Settings.resolve_eq_ok_iff,
      fun _ _ _ _ => Settings.resolve_of_invalid⟩

/-- A settings file that names two settings. -/
def settingsText (threshold : String) : String :=
  "[session]\ndefault_frame_interval = 7\n[detector]\nconfidence_threshold = " ++ threshold ++ "\n"

/-- The settings file below the home directory `/h`, and a file of variables. -/
def layerFiles (threshold assigned : String) : Files where
  nodes := [
    ([DotFile.fileName], .file (Utf8.ofString assigned)),
    (["h", ".config", "detection-client", "client.toml"].map Utf8.ofString,
      .file (Utf8.ofString (settingsText threshold)))]
  canOpen := true

/-- The account names the home directory, as no variable does. The override counts for more than
the settings file, but does not repair one that is not valid, and a value that no variable can hold
stops start-up. -/
theorem layers_of_layerFiles :
    let start (threshold assigned : String) :=
      Settings.fromEnvironment Script.wording (.ofAccount (some (Utf8.ofString "/h")))
        (layerFiles threshold assigned) [] []
    let half := "DETECTION_CONFIDENCE_THRESHOLD=0.5\n"
    let o : Overrides := ⟨none, none, some (.ofRatio false 1 2)⟩
    let named (threshold : Binary64) : NamedSettings :=
      ⟨.none, ⟨none, none, some 7⟩, ⟨some threshold⟩⟩
    (∃ started, start "0.75" half = .ok started ∧
      started.outcome = .ok (Settings.layered o (named (.ofRatio false 3 4)))) ∧
    (∃ started, start "1.5" half = .ok started ∧
      started.outcome = .error (SettingsFault.thresholdOutside (.ofRatio false 3 2)).toError) ∧
    (Settings.layered o (named (.ofRatio false 3 2))).validate = .ok () ∧
    ∃ unsettable, start "0.75" "A=\x00\n" = .error unsettable := by
  intro start half o named
  let D : UserDirectories := .ofAccount (some (Utf8.ofString "/h"))
  let env : Environment := [(Variable.confidenceThreshold, Utf8.ofString "0.5")]
  let path := Utf8.ofString "/h/.config/detection-client/client.toml"
  have began (threshold : String) (went : (start threshold half).map Startup.env = .ok env) :
      ∃ started, start threshold half = .ok started ∧ started.env = env := by
    cases came : start threshold half with
    | error u =>
      rw [came] at went
      cases went
    | ok started =>
      rw [came] at went
      exact ⟨started, rfl, Except.ok.inj went⟩
  have place : Settings.path? D env = some path := by decide +kernel
  have source : Settings.NamedBy D (layerFiles "0.75" half) [] env
      (named (.ofRatio false 3 4)) := by
    have read : (layerFiles "0.75" half).readText [] path = .ok (settingsText "0.75").toList := by
      decide +kernel
    exact .file place read (by decide +kernel) (by decide +kernel)
  have given : o.GivenBy env := by
    have realtime : env.text? Variable.realtime = none := by decide +kernel
    have threshold : env.text? Variable.confidenceThreshold = some "0.5".toList := by
      decide +kernel
    refine ⟨by decide +kernel, ?_, ?_⟩
    · rw [realtime]
      exact .unset
    · rw [threshold]
      exact .set (by decide +kernel)
  refine ⟨?_, ?_, by decide +kernel, ?_⟩
  · obtain ⟨started, came, left⟩ := began "0.75" (by decide +kernel)
    obtain ⟨-, settings, -⟩ := (fromEnvironment_layers ..).2 started came
    rw [left] at settings
    exact ⟨started, came, (settings _).mpr ⟨o, _, source, given, rfl, by decide +kernel⟩⟩
  · obtain ⟨started, came, left⟩ := began "1.5" (by decide +kernel)
    obtain ⟨-, -, refused⟩ := (fromEnvironment_layers ..).2 started came
    rw [left] at refused
    exact ⟨started, came, refused path (settingsText "1.5").toList
      (named (.ofRatio false 3 2)) _ place (by decide +kernel) (by decide +kernel)
      (by decide +kernel)⟩
  · have offered : (DotFile.offers (layerFiles "0.75" "A=\x00\n") [] []).lookup "A" =
        some [DotFile.terminator] := by decide +kernel
    refine (fromEnvironment_layers ..).1.mpr ⟨"A", ?_⟩
    rw [offered]
    exact .offer rfl (List.mem_singleton_self _)

end DetectionLink
