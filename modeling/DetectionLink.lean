import DetectionLink.Main
import DetectionLink.Proofs.Accounting
import DetectionLink.Proofs.Along
import DetectionLink.Proofs.Canonical
import DetectionLink.Proofs.ChannelRuns
import DetectionLink.Proofs.Classification
import DetectionLink.Proofs.ClientRuns
import DetectionLink.Proofs.ClipSessions
import DetectionLink.Proofs.Connection
import DetectionLink.Proofs.ControlFree
import DetectionLink.Proofs.Course
import DetectionLink.Proofs.Delivery
import DetectionLink.Proofs.Draws
import DetectionLink.Proofs.Durations
import DetectionLink.Proofs.Echoes
import DetectionLink.Proofs.Exchange
import DetectionLink.Proofs.Framing
import DetectionLink.Proofs.Grammar
import DetectionLink.Proofs.Handles
import DetectionLink.Proofs.Intake
import DetectionLink.Proofs.Isolation
import DetectionLink.Proofs.Iteration
import DetectionLink.Proofs.LoopProgress
import DetectionLink.Proofs.Noise
import DetectionLink.Proofs.Outbound
import DetectionLink.Proofs.Passes
import DetectionLink.Proofs.Ranking
import DetectionLink.Proofs.Readable
import DetectionLink.Proofs.Reads
import DetectionLink.Proofs.ReceiveMemory
import DetectionLink.Proofs.Recognition
import DetectionLink.Proofs.Rejection
import DetectionLink.Proofs.Schedule
import DetectionLink.Proofs.SendResults
import DetectionLink.Proofs.Separation
import DetectionLink.Proofs.ServiceEnds
import DetectionLink.Proofs.ServiceTotals
import DetectionLink.Proofs.SessionEnding
import DetectionLink.Proofs.SessionTrace
import DetectionLink.Proofs.SettingsInUse
import DetectionLink.Proofs.SettingsLayers
import DetectionLink.Proofs.Slots
import DetectionLink.Proofs.Sources
import DetectionLink.Proofs.StartNumbers
import DetectionLink.Proofs.StopLatency
import DetectionLink.Proofs.Supply
import DetectionLink.Proofs.Timestamps
import DetectionLink.Proofs.Trace
import DetectionLink.Proofs.Traffic
import DetectionLink.Proofs.TreeTokens
import DetectionLink.Proofs.Untraced
import DetectionLink.Proofs.ValidSettings
import DetectionLink.Proofs.WireRoundTrip
import DetectionLink.Rehearsal.Playback
