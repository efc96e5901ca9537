import DetectionLink.Error
import DetectionLink.Settings.Basic

/-!
# Valid settings

* `SettingsFault`: what can be wrong with settings, and with the variables that override them;
* `Settings.firstFault?`: the first rule that settings break, in a fixed order;
* `Settings.validate`: the same as an error.
-/

namespace DetectionLink

inductive SettingsFault
  | emptySocketPath
  | notPositive (name : String) (value : Binary64)
  | tooLarge (name : String) (value : Binary64)
  | zeroMessageLimit
  | zeroFrameInterval
  | thresholdOutside (value : Binary64)
  | notBoolean (name raw : String)
  | notNumber (name reason : String)
deriving DecidableEq

namespace SettingsFault

def reason : SettingsFault → String
  | emptySocketPath => "socket_path cannot be empty"
  | notPositive name value => s!"{name} must be a positive number, got {plain.text value}"
  | tooLarge name value => s!"{name} is too large, got {plain.text value}"
  | zeroMessageLimit => "max_message_bytes must be non-zero"
  | zeroFrameInterval => "default_frame_interval must be at least 1"
  | thresholdOutside value =>
    s!"confidence_threshold must be within 0.0-1.0, got {plain.text value}"
  | notBoolean name raw => s!"{name} must be a boolean, got '{raw}'"
  | notNumber name reason => s!"{name} is not a number: {reason}"

def toError (fault : SettingsFault) : SettingsError := .validation fault.reason .internal

end SettingsFault

namespace Settings

def isPositive (x : Binary64) : Bool := x.isFinite && Binary64.zero.lt x

def positiveFault? (name : String) (value : Binary64) : Option SettingsFault :=
  if isPositive value then none else some (.notPositive name value)

def durationFault? (name : String) (value : Binary64) : Option SettingsFault :=
  match Duration.ofSeconds value with
  | .ok _ => none
  | .error _ => some (.tooLarge name value)

def faultIf (broken : Bool) (fault : SettingsFault) : Option SettingsFault :=
  if broken then some fault else none

/-- The rules in their order, each with its fault if it is broken. -/
def rules (s : Settings) : List (Option SettingsFault) := [
  faultIf (s.link.socketPath = []) .emptySocketPath,
  positiveFault? "connect_timeout_secs" s.link.connectTimeoutSecs,
  positiveFault? "retry_interval_secs" s.link.retryIntervalSecs,
  positiveFault? "send_timeout_secs" s.link.sendTimeoutSecs,
  positiveFault? "default_fps" s.session.defaultFps,
  durationFault? "connect_timeout_secs" s.link.connectTimeoutSecs,
  durationFault? "retry_interval_secs" s.link.retryIntervalSecs,
  durationFault? "send_timeout_secs" s.link.sendTimeoutSecs,
  faultIf (s.link.maxMessageBytes = 0) .zeroMessageLimit,
  faultIf (s.session.defaultFrameInterval = 0) .zeroFrameInterval,
  faultIf (!(Binary64.zero.le s.detector.confidenceThreshold
    && s.detector.confidenceThreshold.le .one)) (.thresholdOutside s.detector.confidenceThreshold)]

def firstFault? (s : Settings) : Option SettingsFault := s.rules.findSome? id

def validate (s : Settings) : Except SettingsFault Unit :=
  match s.firstFault? with
  | some fault => .error fault
  | none => .ok ()

end Settings
end DetectionLink
