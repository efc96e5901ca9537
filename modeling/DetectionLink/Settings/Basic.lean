import DetectionLink.Link.Channel
import DetectionLink.Number.Decimal

/-!
# Settings

What can be configured: the connection, the sessions and the detector. Times are given in seconds
as doubles; the channel uses whole nanoseconds.

* `Settings.default`: the values of settings nobody gave;
* `ChannelConfig.ofSettings`: the channel's view of the connection settings.
-/

namespace DetectionLink

structure LinkSettings where
  socketPath : Bytes
  connectTimeoutSecs : Binary64
  retryIntervalSecs : Binary64
  sendTimeoutSecs : Binary64
  pollTimeoutMs : Nat
  sendBufferBytes : Nat
  maxMessageBytes : Nat
deriving DecidableEq

structure SessionSettings where
  /-- Keep frames to the frame rate instead of running as fast as possible. -/
  realtime : Bool
  /-- Used when neither the source nor the start command has a rate. -/
  defaultFps : Binary64
  /-- The stride of a start command that names none. -/
  defaultFrameInterval : Nat
deriving DecidableEq

structure DetectorSettings where
  confidenceThreshold : Binary64
deriving DecidableEq

structure Settings where
  link : LinkSettings
  session : SessionSettings
  detector : DetectorSettings
deriving DecidableEq

/-- The frame rate when nothing else names one. -/
def standardFps : Binary64 := .ofNat 30

def LinkSettings.default : LinkSettings where
  socketPath := Utf8.ofString "/tmp/detection.sock"
  connectTimeoutSecs := .ofNat 30
  retryIntervalSecs := .ofNat 1
  sendTimeoutSecs := .ofNat 5
  pollTimeoutMs := 10
  sendBufferBytes := 1024 * 1024
  maxMessageBytes := 64 * 1024

def SessionSettings.default : SessionSettings where
  realtime := true
  defaultFps := standardFps
  defaultFrameInterval := 5

def DetectorSettings.default : DetectorSettings where
  confidenceThreshold := .ofRatio false 1 2

def Settings.default : Settings := ⟨.default, .default, .default⟩

namespace LinkSettings

/-- How long one poll between frames may take. -/
def pollTimeout (s : LinkSettings) : Duration := .ofMillis s.pollTimeoutMs

end LinkSettings

/-- The channel's view of connection settings; it exists when the three times are durations. -/
def ChannelConfig.ofSettings (s : LinkSettings) : Except DurationFault ChannelConfig := do
  let connectTimeout ← Duration.ofSeconds s.connectTimeoutSecs
  let retryInterval ← Duration.ofSeconds s.retryIntervalSecs
  let sendTimeout ← Duration.ofSeconds s.sendTimeoutSecs
  pure {
    socketPath := s.socketPath
    connectTimeout
    retryInterval
    sendTimeout
    sendBufferBytes := s.sendBufferBytes
    maxMessageBytes := s.maxMessageBytes }

end DetectionLink
