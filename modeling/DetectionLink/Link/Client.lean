import DetectionLink.Detection.Wire
import DetectionLink.Link.Inbox

/-!
# The client

One connection to the supervisor with all that belongs to it: the channel, the inbox that reads
commands from it, and the count of detection messages written.

* `Client.connect`, `wait`, `poll`, `sendDetections`, `sendValue`, `close`: the operations.
-/

namespace DetectionLink

structure Client where
  channel : Channel
  inbox : Inbox
  /-- Detection messages written. -/
  sent : Nat

namespace Client

/-- A client that is not connected yet. -/
def ofConfig (config : ChannelConfig) (pollTimeout : Duration) : Client :=
  ⟨.ofConfig config, .ofPollTimeout pollTimeout, 0⟩

def isConnected (k : Client) : Bool := k.channel.isConnected

variable {σ : Type} (H : Host σ)

def connect (k : Client) (w : σ) : Except LinkError Unit × Client × σ :=
  let done := k.channel.connect H w
  (done.1, { k with channel := done.2.1 }, done.2.2)

def wait (timeout : Option Duration) (k : Client) (w : σ) : CommandEvent × Client × σ :=
  let done := k.inbox.wait H timeout k.channel w
  (done.1, { k with inbox := done.2.1, channel := done.2.2.1 }, done.2.2.2)

/-- A wait of at most the poll timeout. -/
def poll (k : Client) (w : σ) : CommandEvent × Client × σ :=
  k.wait H (some k.inbox.pollTimeout) w

def sendLine (payload : Bytes) (k : Client) (w : σ) : Except LinkError Unit × Client × σ :=
  let done := k.channel.sendLine H payload w
  (done.1, { k with channel := done.2.1 }, done.2.2)

/-- Writes the message of one analysed frame, also when nothing was detected. Detections that make
no message are refused before anything is written. -/
def sendDetections (timestampMs : UInt64) (detections : List RawDetection) (k : Client) (w : σ) :
    Except LinkError Unit × Client × σ :=
  match encodeDetections timestampMs detections with
  | .error e => (.error e, k, w)
  | .ok line =>
    let done := k.sendLine H line w
    match done.1 with
    | .ok () =>
      (.ok (), { done.2.1 with sent := done.2.1.sent + 1 },
        H.note (.trace s!"Sent detections for t={timestampMs.toNat}ms") done.2.2)
    | .error e => (.error e, done.2)

/-- Writes any JSON value as a line. It counts as no detection message. -/
def sendValue (value : Json.Value) (k : Client) (w : σ) : Except LinkError Unit × Client × σ :=
  k.sendLine H (Utf8.ofString value.text) w

def close (k : Client) (w : σ) : Client × σ :=
  let done := k.channel.close H w
  ({ k with channel := done.1 }, done.2)

/-! ## Progress -/

/-- `Channel.NoMoreLeft` of the clients' channels. -/
def NoMoreLeft (k : Client) (w : σ) (k' : Client) (w' : σ) : Prop :=
  Channel.NoMoreLeft H k.channel w k'.channel w'

/-- `Channel.LessLeft` of the clients' channels. -/
def LessLeft (k : Client) (w : σ) (k' : Client) (w' : σ) : Prop :=
  Channel.LessLeft H k.channel w k'.channel w'

variable {H}

theorem wait_noMoreLeft (timeout : Option Duration) (k : Client) (w : σ) :
    NoMoreLeft H k w (k.wait H timeout w).2.1 (k.wait H timeout w).2.2 :=
  Inbox.wait_noMoreLeft timeout k.inbox k.channel w

theorem wait_lessLeft (timeout : Option Duration) (k : Client) (w : σ)
    (isOpen : (k.wait H timeout w).1.isOpen) :
    LessLeft H k w (k.wait H timeout w).2.1 (k.wait H timeout w).2.2 :=
  Inbox.wait_lessLeft timeout k.inbox k.channel w isOpen

theorem sendLine_noMoreLeft (payload : Bytes) (k : Client) (w : σ) :
    NoMoreLeft H k w (k.sendLine H payload w).2.1 (k.sendLine H payload w).2.2 :=
  Channel.sendLine_noMoreLeft payload k.channel w

theorem sendDetections_noMoreLeft (timestampMs : UInt64) (detections : List RawDetection)
    (k : Client) (w : σ) :
    NoMoreLeft H k w (k.sendDetections H timestampMs detections w).2.1
      (k.sendDetections H timestampMs detections w).2.2 := by
  unfold sendDetections
  split
  · exact Channel.noMoreLeft_refl k.channel w
  · next line _ =>
    have sent := sendLine_noMoreLeft (H := H) line k w
    simp only
    split
    · exact sent.trans (Channel.noMoreLeft_of_le _ (H.note_le ..))
    · exact sent

end Client
end DetectionLink
