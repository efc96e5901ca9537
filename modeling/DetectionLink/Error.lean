import DetectionLink.Text.Utf8

/-!
# Errors

Every layer has its own kinds of failure. An error carries its kind, a message for people and the
place where it was raised; its text is built here, and nowhere else.

* `Wording`: what other libraries add to a text;
* `PayloadError`: a value breaks a rule of the wire format, or is no command;
* `LinkError`: the connection or one line on it failed; `LinkError.isDisconnect` tells which of
  them end the connection;
* `SettingsError`, `MediaError`: configuration and video sources;
* `ClientError`: any of the three above; `FatalError`: what ends the process.
-/

namespace DetectionLink

/-- The words in a text that the library does not choose. -/
structure Wording where
  /-- What a reader of JSON says of bytes that it refuses. -/
  json : Bytes → String
  /-- What a reader of TOML says of a text that it refuses. -/
  toml : List Char → String
  /-- How a place inside the library prints. -/
  place : String

/-- Where an error was raised. Errors raised inside the library are not told apart by their
place. -/
inductive Origin
  | internal
  | position (file : String) (line column : Nat)
deriving DecidableEq

namespace Origin

def text (W : Wording) : Origin → String
  | internal => W.place
  | position file line column => s!"[{file}:{line}:{column}]"

end Origin

/-! ## Payloads -/

inductive PayloadError.Kind
  /-- A value breaks a rule of the wire format. -/
  | validation
  /-- A payload is no command at all. -/
  | decode
deriving DecidableEq

structure PayloadError where
  kind : PayloadError.Kind
  message : String
  origin : Origin
deriving DecidableEq

namespace PayloadError

def label : Kind → String
  | .validation => "Validation Error"
  | .decode => "Decode Error"

def text (W : Wording) (e : PayloadError) : String :=
  s!"{label e.kind}: {e.message} {e.origin.text W}"

end PayloadError

/-! ## The link -/

inductive LinkError.Kind
  /-- The connect timeout or the deadline of a send ran out. -/
  | timeout
  | send
  | notConnected
  /-- An inbound line broke the framing and was dropped. -/
  | frame
  | jsonDecode
  | jsonEncode
  /-- Detections that make no valid message. -/
  | encode
deriving DecidableEq

/-- What an error of the link says. -/
inductive LinkError.Message
  | words (text : String)
  /-- What a reader of JSON says of a line. -/
  | refusal (line : Bytes)
deriving DecidableEq

structure LinkError where
  kind : LinkError.Kind
  message : LinkError.Message
  origin : Origin
deriving DecidableEq

namespace LinkError

def label : Kind → String
  | .timeout => "Timeout Error"
  | .send => "Send Error"
  | .notConnected => "Not Connected Error"
  | .frame => "Frame Error"
  | .jsonDecode => "JSON Decode Error"
  | .jsonEncode => "JSON Encode Error"
  | .encode => "Encode Error"

def Message.text (W : Wording) : Message → String
  | words text => text
  | refusal line => s!"Invalid JSON line: {W.json line}"

def text (W : Wording) (e : LinkError) : String :=
  s!"{label e.kind}: {e.message.text W} {e.origin.text W}"

/-- Whether the connection is gone after this error. -/
def isDisconnect (e : LinkError) : Bool :=
  match e.kind with
  | .send | .notConnected | .timeout => true
  | .frame | .jsonDecode | .jsonEncode | .encode => false

/-- An error raised inside the library. -/
def raised (kind : Kind) (message : String) : LinkError := ⟨kind, .words message, .internal⟩

/-- A payload that cannot be read or written, seen from the link. The message stays; the place is
that of the conversion. -/
def ofPayload (e : PayloadError) : LinkError :=
  match e.kind with
  | .decode => raised .jsonDecode e.message
  | .validation => raised .encode e.message

end LinkError

/-! ## Settings and media -/

inductive SettingsError
  | read (path : Bytes) (cause : String) (origin : Origin)
  | parse (path : Bytes) (reason : String) (origin : Origin)
  | validation (reason : String) (origin : Origin)
deriving DecidableEq

namespace SettingsError

def text (W : Wording) : SettingsError → String
  | read path cause origin =>
    s!"Config Read Error: {Utf8.display path}: {cause} {origin.text W}"
  | parse path reason origin =>
    s!"Config Parse Error: {Utf8.display path}: {reason} {origin.text W}"
  | validation reason origin => s!"Config Validation Error: {reason} {origin.text W}"

end SettingsError

/-- Both are soft: an unopened source is reported as an empty message, a source that cannot go
back to its start ends the session. -/
inductive MediaError
  | opening (message : String) (origin : Origin)
  | rewinding (message : String) (origin : Origin)
deriving DecidableEq

namespace MediaError

def text (W : Wording) : MediaError → String
  | opening message origin => s!"Media Open Error: {message} {origin.text W}"
  | rewinding message origin => s!"Media Rewind Error: {message} {origin.text W}"

end MediaError

/-! ## Whole-program errors -/

inductive ClientError
  | link (e : LinkError)
  | settings (e : SettingsError)
  | media (e : MediaError)
deriving DecidableEq

namespace ClientError

def text (W : Wording) : ClientError → String
  | link e => e.text W
  | settings e => e.text W
  | media e => e.text W

end ClientError

/-- What ends the process: a failure of its own set-up, or one of the client. -/
inductive FatalError
  | setup (message : String) (origin : Origin)
  | client (message : String) (origin : Origin)
  /-- A step that cannot fail has failed, and the process is stopped on the spot. -/
  | crash (message : String)
deriving DecidableEq

namespace FatalError

def text (W : Wording) : FatalError → String
  | setup message origin => s!"Streamer Error: {message} {origin.text W}"
  | client message origin => s!"Core Error: {message} {origin.text W}"
  | crash message => message

def ofClient (W : Wording) (e : ClientError) : FatalError := client (e.text W) .internal

end FatalError
end DetectionLink
