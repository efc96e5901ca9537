import DetectionLink.Command
import DetectionLink.Proofs.Readable

/-!
# How commands are told apart

A JSON value that is no object is no command. An object is a stop, a start or unknown, and which
of them only its tag and the members of a start decide. A line is no command when it is no JSON
text, when its value is no object, and also when it is the text of an object that cannot be held.

* `Admits`, `IsStart`: what an optional member may be, and the objects that start a session;
* `Fields`, `ofValue?_eq_some_iff`: what is read of them;
* `Classified`, `classified_ofValue`: the four classes;
* `exists_ofLine_error_iff`: the lines that are no commands;
* `classification_exact`: all of it, and a line where the reader's limits show.
-/

namespace DetectionLink

namespace StartCommand

/-! ## Optional members -/

/-- An optional member is absent, null or of a kind. -/
inductive Admits (kind : Json.Value → Prop) : Option Json.Value → Prop
  | absent : Admits kind none
  | null : Admits kind (some .null)
  | present {value : Json.Value} (fits : kind value) : Admits kind (some value)

def IsNumber (value : Json.Value) : Prop := ∃ n, value = .number n

def IsBool (value : Json.Value) : Prop := ∃ b, value = .bool b

/-- A member is read when it is admitted. -/
theorem exists_optional?_iff {α : Type} {read : Json.Value → Option α} {kind : Json.Value → Prop}
    (reads : ∀ value, (∃ a, read value = some a) ↔ kind value) (member : Option Json.Value) :
    (∃ a, optional? read member = some a) ↔ Admits kind member := by
  constructor
  · rintro ⟨a, got⟩
    unfold optional? at got
    split at got
    · exact .absent
    · exact .null
    · obtain ⟨a, got, _⟩ := Option.map_eq_some_iff.mp got
      exact .present ((reads _).mp ⟨a, got⟩)
  · rintro (_ | _ | ⟨fits⟩)
    · exact ⟨none, rfl⟩
    · exact ⟨none, rfl⟩
    · next value =>
      obtain ⟨a, got⟩ := (reads value).mpr fits
      unfold optional?
      split
      · exact ⟨none, rfl⟩
      · exact ⟨none, rfl⟩
      · next value same =>
        obtain rfl := Option.some.inj same
        exact ⟨some a, by rw [got, Option.map_some]⟩

theorem exists_number?_iff (value : Json.Value) :
    (∃ x, number? value = some x) ↔ IsNumber value := by
  cases value <;> simp [number?, IsNumber]

theorem exists_bool?_iff (value : Json.Value) : (∃ b, bool? value = some b) ↔ IsBool value := by
  cases value <;> simp [bool?, IsBool]

/-- A loop that is asked for is the only one that is true. -/
theorem getD_bool?_iff {member : Option Json.Value} {loop : Option Bool}
    (got : optional? bool? member = some loop) :
    loop.getD false = true ↔ member = some (.bool true) := by
  unfold optional? at got
  split at got
  · obtain rfl := Option.some.inj got
    simp
  · obtain rfl := Option.some.inj got
    simp
  · next value _ =>
    obtain ⟨b, read, rfl⟩ := Option.map_eq_some_iff.mp got
    cases value <;> simp_all [bool?]

theorem string?_eq_some_iff {value : Json.Value} {s : String} :
    value.string? = some s ↔ value = .string s := by
  cases value <;> simp [Json.Value.string?]

/-! ## Start commands -/

/-- The members that a start command is made of. -/
structure Fields (value : Json.Value) where
  path : String
  durationSec : Option Binary64
  fps : Option Binary64
  loop : Option Bool
  frameInterval : Option Binary64
  path_eq : value.member? "video_path" = some (.string path)
  durationSec_eq : optional? number? (value.member? "duration_sec") = some durationSec
  fps_eq : optional? number? (value.member? "fps") = some fps
  loop_eq : optional? bool? (value.member? "loop") = some loop
  frameInterval_eq : optional? number? (value.member? "frame_interval") = some frameInterval

/-- The command that the members make. -/
def Fields.command {value : Json.Value} (f : Fields value) : StartCommand where
  videoPath := f.path
  durationSec := nonNegative f.durationSec
  fps := nonNegative f.fps
  loop := f.loop.getD false
  frameInterval := f.frameInterval.bind interval?

theorem ofValue?_eq_some_iff {value : Json.Value} {command : StartCommand} :
    ofValue? value = some command ↔ ∃ f : Fields value, f.command = command := by
  simp only [ofValue?, Option.bind_eq_bind, Option.pure_def, Option.bind_eq_some_iff]
  constructor
  · rintro ⟨member, path_eq, path, text, durationSec, durationSec_eq, fps, fps_eq, loop, loop_eq,
      frameInterval, frameInterval_eq, made⟩
    obtain rfl := string?_eq_some_iff.mp text
    exact ⟨⟨path, durationSec, fps, loop, frameInterval, path_eq, durationSec_eq, fps_eq, loop_eq,
      frameInterval_eq⟩, Option.some.inj made⟩
  · rintro ⟨f, rfl⟩
    exact ⟨_, f.path_eq, f.path, rfl, f.durationSec, f.durationSec_eq, f.fps, f.fps_eq, f.loop,
      f.loop_eq, f.frameInterval, f.frameInterval_eq, rfl⟩

end StartCommand

namespace Command

open StartCommand

/-- What a start looks like: its tag, a path, and optional members each of its kind. -/
structure IsStart (value : Json.Value) : Prop where
  tag : value.member? "cmd" = some (.string "start")
  path : ∃ path, value.member? "video_path" = some (.string path)
  durationSec : Admits IsNumber (value.member? "duration_sec")
  fps : Admits IsNumber (value.member? "fps")
  loop : Admits IsBool (value.member? "loop")
  frameInterval : Admits IsNumber (value.member? "frame_interval")

theorem IsStart.exists_fields {value : Json.Value} (h : IsStart value) :
    ∃ command, ofValue? value = some command := by
  obtain ⟨path, path_eq⟩ := h.path
  obtain ⟨_, durationSec_eq⟩ := (exists_optional?_iff exists_number?_iff _).mpr h.durationSec
  obtain ⟨_, fps_eq⟩ := (exists_optional?_iff exists_number?_iff _).mpr h.fps
  obtain ⟨_, loop_eq⟩ := (exists_optional?_iff exists_bool?_iff _).mpr h.loop
  obtain ⟨_, frameInterval_eq⟩ := (exists_optional?_iff exists_number?_iff _).mpr h.frameInterval
  exact ⟨_, ofValue?_eq_some_iff.mpr
    ⟨⟨path, _, _, _, _, path_eq, durationSec_eq, fps_eq, loop_eq, frameInterval_eq⟩, rfl⟩⟩

theorem isStart_of_fields {value : Json.Value}
    (tag : value.member? "cmd" = some (.string "start")) (f : Fields value) : IsStart value where
  tag := tag
  path := ⟨f.path, f.path_eq⟩
  durationSec := (exists_optional?_iff exists_number?_iff _).mp ⟨_, f.durationSec_eq⟩
  fps := (exists_optional?_iff exists_number?_iff _).mp ⟨_, f.fps_eq⟩
  loop := (exists_optional?_iff exists_bool?_iff _).mp ⟨_, f.loop_eq⟩
  frameInterval := (exists_optional?_iff exists_number?_iff _).mp ⟨_, f.frameInterval_eq⟩

/-! ## The classes -/

section Classes

variable {value : Json.Value}

theorem isObject_of_member? {key : String} {member : Json.Value}
    (found : value.member? key = some member) : value.isObject = true := by
  cases value <;> first | rfl | cases found

theorem ofValue_of_noObject (noObject : value.isObject = false) :
    ∃ e, ofValue value = .error e ∧ e.kind = .decode :=
  ⟨_, if_neg (Bool.eq_false_iff.mp noObject), rfl⟩

theorem ofValue_of_stop (tag : value.member? "cmd" = some (.string "stop")) :
    ofValue value = .ok .stop := by
  rw [ofValue, if_pos (isObject_of_member? tag), tag]
  rfl

theorem ofValue_of_start (tag : value.member? "cmd" = some (.string "start")) :
    ofValue value = .ok ((StartCommand.ofValue? value).elim (.unknown value) .start) := by
  rw [ofValue, if_pos (isObject_of_member? tag), tag]
  cases StartCommand.ofValue? value <;> rfl

theorem ofValue_of_otherTag (object : value.isObject = true)
    (noStop : value.member? "cmd" ≠ some (.string "stop"))
    (noStart : value.member? "cmd" ≠ some (.string "start")) :
    ofValue value = .ok (.unknown value) := by
  have tagged (text : String) (tag : (value.member? "cmd").bind Json.Value.string? = some text) :
      value.member? "cmd" = some (.string text) := by
    obtain ⟨member, found, isText⟩ := Option.bind_eq_some_iff.mp tag
    rw [found, string?_eq_some_iff.mp isText]
  rw [ofValue, if_pos object]
  split
  · next tag => exact absurd (tagged _ tag) noStart
  · next tag => exact absurd (tagged _ tag) noStop
  · rfl

/-- The class of a value. -/
inductive Classified (value : Json.Value) : Except PayloadError Command → Prop
  | refused {e : PayloadError} (noObject : value.isObject = false) (decode : e.kind = .decode) :
      Classified value (.error e)
  | stop (tag : value.member? "cmd" = some (.string "stop")) : Classified value (.ok .stop)
  | start (tag : value.member? "cmd" = some (.string "start")) (f : Fields value) :
      Classified value (.ok (.start f.command))
  | unknown (object : value.isObject = true)
      (noStop : value.member? "cmd" ≠ some (.string "stop")) (noStart : ¬ IsStart value) :
      Classified value (.ok (.unknown value))

variable (value) in
theorem classified_ofValue : Classified value (ofValue value) := by
  cases object : value.isObject with
  | false =>
    obtain ⟨e, failed, decode⟩ := ofValue_of_noObject object
    rw [failed]
    exact .refused object decode
  | true =>
    by_cases stop : value.member? "cmd" = some (.string "stop")
    · rw [ofValue_of_stop stop]
      exact .stop stop
    by_cases start : value.member? "cmd" = some (.string "start")
    · rw [ofValue_of_start start]
      cases read : StartCommand.ofValue? value with
      | some command =>
        obtain ⟨f, rfl⟩ := ofValue?_eq_some_iff.mp read
        exact .start start f
      | none =>
        refine .unknown object stop fun shape => ?_
        obtain ⟨command, some⟩ := shape.exists_fields
        cases read.symm.trans some
    · rw [ofValue_of_otherTag object stop start]
      exact .unknown object stop fun shape => start shape.tag

theorem exists_error_iff : (∃ e, ofValue value = .error e) ↔ value.isObject = false := by
  constructor
  · rintro ⟨e, failed⟩
    have classified := classified_ofValue value
    rw [failed] at classified
    cases classified with
    | refused noObject decode => exact noObject
  · intro noObject
    obtain ⟨e, failed, _⟩ := ofValue_of_noObject noObject
    exact ⟨e, failed⟩

theorem kind_of_error {e : PayloadError} (failed : ofValue value = .error e) :
    e.kind = .decode := by
  have classified := classified_ofValue value
  rw [failed] at classified
  cases classified with
  | refused noObject decode => exact decode

theorem ofValue_eq_stop_iff :
    ofValue value = .ok .stop ↔ value.member? "cmd" = some (.string "stop") := by
  refine ⟨fun stopped => ?_, ofValue_of_stop⟩
  have classified := classified_ofValue value
  rw [stopped] at classified
  cases classified with
  | stop tag => exact tag

/-- A start has the fields of its object. -/
theorem exists_fields_of_start {command : StartCommand}
    (started : ofValue value = .ok (.start command)) :
    value.member? "cmd" = some (.string "start") ∧ ∃ f : Fields value, f.command = command := by
  have classified := classified_ofValue value
  rw [started] at classified
  cases classified with
  | start tag f => exact ⟨tag, f, rfl⟩

theorem exists_start_iff : (∃ command, ofValue value = .ok (.start command)) ↔ IsStart value := by
  constructor
  · rintro ⟨command, started⟩
    obtain ⟨tag, f, _⟩ := exists_fields_of_start started
    exact isStart_of_fields tag f
  · intro shape
    obtain ⟨command, read⟩ := shape.exists_fields
    exact ⟨command, by rw [ofValue_of_start shape.tag, read]; rfl⟩

theorem ofValue_eq_unknown_iff {raw : Json.Value} :
    ofValue value = .ok (.unknown raw) ↔ raw = value ∧ value.isObject = true ∧
      value.member? "cmd" ≠ some (.string "stop") ∧ ¬ IsStart value := by
  have classified := classified_ofValue value
  constructor
  · intro unknown
    rw [unknown] at classified
    cases classified with
    | unknown object noStop noStart => exact ⟨rfl, object, noStop, noStart⟩
  · rintro ⟨rfl, object, noStop, noStart⟩
    generalize ofValue raw = read at classified ⊢
    cases classified with
    | refused noObject decode => cases object.symm.trans noObject
    | stop tag => exact absurd tag noStop
    | start tag f => exact absurd (isStart_of_fields tag f) noStart
    | unknown _ _ _ => rfl

end Classes

/-! ### What does not matter -/

/-- The members that a start is read from. -/
def startKeys : List String :=
  ["cmd", "video_path", "duration_sec", "fps", "loop", "frame_interval"]

/-- Objects that agree on these members start the same session, whatever else they hold. -/
theorem start_of_agree {value other : Json.Value}
    (agree : ∀ key ∈ startKeys, other.member? key = value.member? key) {command : StartCommand}
    (started : ofValue value = .ok (.start command)) : ofValue other = .ok (.start command) := by
  simp only [startKeys, List.forall_mem_cons, List.not_mem_nil, false_imp_iff, implies_true,
    and_true] at agree
  obtain ⟨cmd, path, durationSec, fps, loop, frameInterval⟩ := agree
  obtain ⟨tag, f, rfl⟩ := exists_fields_of_start started
  have read : StartCommand.ofValue? other = some f.command :=
    ofValue?_eq_some_iff.mpr ⟨⟨f.path, f.durationSec, f.fps, f.loop, f.frameInterval,
      path.trans f.path_eq, durationSec ▸ f.durationSec_eq, fps ▸ f.fps_eq, loop ▸ f.loop_eq,
      frameInterval ▸ f.frameInterval_eq⟩, rfl⟩
  rw [ofValue_of_start (cmd.trans tag), read]
  rfl

/-! ## Lines -/

/-- A line is the command of its value. -/
theorem ofLine_eq_ok_iff {line : Bytes} {command : Command} :
    ofLine line = .ok command ↔
      ∃ value, Json.Value.ofBytes? line = some value ∧ ofValue value = .ok command := by
  unfold ofLine
  cases Json.Value.ofBytes? line with
  | none => simp
  | some value =>
    dsimp only
    cases read : ofValue value <;> simp [Except.mapError, read]

/-- The lines that are commands: the texts of objects that have a value. -/
theorem exists_ofLine_iff {line : Bytes} :
    (∃ command, ofLine line = .ok command) ↔
      ∃ members, Json.IsText line (.object members) ∧
        (Json.Tree.object members).Within Json.Value.maxDepth := by
  constructor
  · rintro ⟨command, made⟩
    obtain ⟨value, read, classed⟩ := ofLine_eq_ok_iff.mp made
    obtain ⟨tree, isText, valued⟩ := Json.ofBytes?_eq_some_iff.mp read
    have object : value.isObject = true := by
      by_contra noObject
      obtain ⟨e, failed⟩ := exists_error_iff.mpr (Bool.not_eq_true _ ▸ noObject)
      cases classed.symm.trans failed
    obtain ⟨members, rfl⟩ := (Json.isObject_iff_of_ofTreeWithin? valued).mp object
    exact ⟨members, isText, (Json.exists_ofTreeWithin?_iff _ _).mp ⟨value, valued⟩⟩
  · rintro ⟨members, isText, within⟩
    obtain ⟨value, valued⟩ := (Json.exists_ofTreeWithin?_iff _ _).mpr within
    have object := (Json.isObject_iff_of_ofTreeWithin? valued).mpr ⟨members, rfl⟩
    cases classed : ofValue value with
    | ok command =>
      have read := Json.ofBytes?_eq_some_iff.mpr ⟨_, isText, valued⟩
      exact ⟨command, ofLine_eq_ok_iff.mpr ⟨value, read, classed⟩⟩
    | error e =>
      have noObject := exists_error_iff.mp ⟨e, classed⟩
      cases object.symm.trans noObject

/-- A line is no command when it is no JSON text, or the text of no object, or the text of an
object that has no value. -/
theorem exists_ofLine_error_iff (line : Bytes) :
    (∃ e, ofLine line = .error e) ↔
      (¬ ∃ tree, Json.IsText line tree) ∨
      ∃ tree, Json.IsText line tree ∧
        ((¬ ∃ members, tree = .object members) ∨ ¬ tree.Within Json.Value.maxDepth) := by
  have fails : (∃ e, ofLine line = .error e) ↔ ¬ ∃ command, ofLine line = .ok command := by
    cases ofLine line <;> simp
  rw [fails, exists_ofLine_iff]
  constructor
  · intro none
    by_cases text : ∃ tree, Json.IsText line tree
    · obtain ⟨tree, isText⟩ := text
      refine .inr ⟨tree, isText, ?_⟩
      by_contra neither
      obtain ⟨⟨members, rfl⟩, within⟩ := (not_or.mp neither).imp not_not.mp not_not.mp
      exact none ⟨members, isText, within⟩
    · exact .inl text
  · rintro (noText | ⟨tree, isText, bad⟩) ⟨members, objectText, within⟩
    · exact noText ⟨_, objectText⟩
    · obtain rfl := isText.unique objectText
      rcases bad with noObject | beyond
      · exact noObject ⟨members, rfl⟩
      · exact beyond within

theorem kind_of_ofLine_error {line : Bytes} {e : LinkError} (failed : ofLine line = .error e) :
    e.kind = .jsonDecode := by
  unfold ofLine at failed
  split at failed
  · obtain rfl := Except.error.inj failed
    rfl
  · next value _ =>
    cases read : ofValue value with
    | ok command =>
      rw [read] at failed
      cases failed
    | error cause =>
      rw [read] at failed
      obtain rfl := Except.error.inj failed
      rw [LinkError.ofPayload, kind_of_error read]
      rfl

end Command

/-! ## Commands exactly -/

open Command StartCommand

/-- A JSON value is refused exactly when it is no object. It is a stop by its tag alone, and a
start by its tag, a path and optional members of their kinds; the path and the loop are taken over,
and no other member matters. Any other object is kept as it came. So a line fails exactly when it
is no JSON text, or its value is no object, or the text is of an object that cannot be held, and
the error is always one of decoding and never ends the connection. -/
theorem classification_exact :
    (∀ value : Json.Value,
      let read := Command.ofValue value
      ((∃ e, read = .error e) ↔ value.isObject = false) ∧
      (∀ e, read = .error e → e.kind = .decode) ∧
      (read = .ok .stop ↔ value.member? "cmd" = some (.string "stop")) ∧
      ((∃ command, read = .ok (.start command)) ↔ IsStart value) ∧
      (∀ command, read = .ok (.start command) →
        value.member? "video_path" = some (.string command.videoPath) ∧
        (command.loop = true ↔ value.member? "loop" = some (.bool true)) ∧
        ∀ other : Json.Value, (∀ key ∈ startKeys, other.member? key = value.member? key) →
          Command.ofValue other = .ok (.start command)) ∧
      ∀ raw, read = .ok (.unknown raw) ↔ raw = value ∧ value.isObject = true ∧
        value.member? "cmd" ≠ some (.string "stop") ∧ ¬ IsStart value) ∧
    ∀ line : Bytes,
      ((∃ e, Command.ofLine line = .error e) ↔
        (¬ ∃ tree, Json.IsText line tree) ∨
        ∃ tree, Json.IsText line tree ∧
          ((¬ ∃ members, tree = .object members) ∨ ¬ tree.Within Json.Value.maxDepth)) ∧
      ∀ e, Command.ofLine line = .error e → e.kind = .jsonDecode ∧ e.isDisconnect = false := by
  refine ⟨fun value => ⟨exists_error_iff, fun e => kind_of_error, ofValue_eq_stop_iff,
    exists_start_iff, fun command started => ?_, fun raw => ofValue_eq_unknown_iff⟩,
    fun line => ⟨exists_ofLine_error_iff line, fun e failed => ?_⟩⟩
  · obtain ⟨_, f, rfl⟩ := exists_fields_of_start started
    exact ⟨f.path_eq, getD_bool?_iff f.loop_eq, fun other agree => start_of_agree agree started⟩
  · have kind := kind_of_ofLine_error failed
    exact ⟨kind, by rw [LinkError.isDisconnect, kind]⟩

/-! ### A text that has no value -/

/-- A stop that holds a number beyond every double. -/
def hugeStop : Json.Tree :=
  .object [(some "cmd", .string (some "stop")), (some "x", .number ⟨false, ['1'], none, some 999⟩)]

def hugeLine : Bytes := Utf8.ofString "\x7b\"cmd\":\"stop\",\"x\":1e999\x7d"

theorem isText_hugeLine : Json.IsText hugeLine hugeStop := by
  refine Json.isText_of_ofBytes? ?_ ?_
  · rw [Json.Tree.ofBytes?, hugeLine, Utf8.ofString, Utf8.scalars_encode]
    rfl
  · simp [hugeStop, Json.Tree.tokens, Json.Tree.memberTokens, List.intercalate_cons_cons]

theorem not_within_hugeStop (depth : Nat) : ¬ hugeStop.Within depth := by
  rintro (_ | _ | _ | _ | _ | ⟨_, inside⟩)
  have unread : Json.Number.ofText? ⟨false, ['1'], none, some 999⟩ = none := rfl
  cases inside (some "x", .number ⟨false, ['1'], none, some 999⟩) (by simp) with
  | number read => cases unread.symm.trans read

/-- A JSON text of an object need not be a command. -/
theorem hugeLine_refused :
    ¬ ((∃ e, Command.ofLine hugeLine = .error e) ↔
      (¬ ∃ tree, Json.IsText hugeLine tree) ∨
      ∃ tree, Json.IsText hugeLine tree ∧ ¬ ∃ members, tree = .object members) := by
  intro claimed
  have failed : ∃ e, Command.ofLine hugeLine = .error e :=
    (exists_ofLine_error_iff hugeLine).mpr
      (.inr ⟨hugeStop, isText_hugeLine, .inr (not_within_hugeStop _)⟩)
  rcases claimed.mp failed with noText | ⟨tree, isText, noObject⟩
  · exact noText ⟨hugeStop, isText_hugeLine⟩
  · obtain rfl := isText.unique isText_hugeLine
    exact noObject ⟨_, rfl⟩

end DetectionLink
