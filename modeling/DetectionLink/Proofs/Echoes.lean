import DetectionLink.Proofs.Classification
import DetectionLink.Proofs.Intake
import DetectionLink.Proofs.JsonTexts
import Mathlib.Algebra.Order.BigOperators.Group.List
import Mathlib.Data.Nat.Digits.Defs

/-!
# What the log shows of a skipped line

A line that is no command is skipped, and its record shows the first two hundred bytes of it. The
diagnosis behind them goes further: a line that spells a value of another kind is shown once more,
as the text of its value and to its end. So a record is as long as that text, up to a constant, and
beyond the bytes in front it is decided by that text alone.

* `length_quoted_le`, `length_lossy_le`: the echo of the first bytes;
* `valueText?`, `diagnosis`, `message_skippedRecord`: what a record says;
* `warning?`, `Noted`, `noted_waitUntil`: which records a wait leaves;
* `skipped_echo`: all of it; `echo_beyond_shown`: no bound holds for all lines.
-/

namespace DetectionLink

variable {σ F : Type}

/-! ## Lengths of echoes -/

theorem Utf8.length_scalarsAfter (done : List (Option Char)) (bytes : Bytes) :
    (scalarsAfter done bytes).length ≤ done.length + bytes.length := by
  induction done, bytes using scalarsAfter.induct with
  | case1 done =>
    rw [scalarsAfter, List.length_reverse]
    exact Nat.le_add_right _ _
  | case2 done b rest ih =>
    have shorter := first_length_le b rest
    rw [scalarsAfter]
    simp only [List.length_cons] at ih ⊢
    omega

/-- Each character takes a byte at least, and so does each bad sequence. -/
theorem Utf8.length_lossy_le (bytes : Bytes) : (lossy bytes).length ≤ bytes.length := by
  rw [lossy, List.length_map, scalars]
  simpa only [List.length_nil, Nat.zero_add] using length_scalarsAfter [] bytes

/-- The longest echo of a character: one by its code. -/
def longestQuoted : Nat := 10

theorem length_byCode_le (c : Char) : (byCode c).length ≤ longestQuoted := by
  have code : c.toNat < 16 ^ 6 := by
    rcases c.valid with low | ⟨_, high⟩
    · exact low.trans (by decide)
    · exact high.trans (by decide)
  have digits : (Nat.toDigits 16 c.toNat).length ≤ 6 :=
    Nat.toDigits_length 16 c.toNat 6 (by decide) code
  have open' : "\\u\x7b".length = 3 := by decide
  have close : "\x7d".length = 1 := by decide
  rw [byCode, String.length_append, String.length_append, open', close, String.length_ofList,
    longestQuoted]
  omega

theorem length_quotedChar_le (c : Char) : (quotedChar c).length ≤ longestQuoted := by
  unfold quotedChar
  repeat' split
  · decide
  · decide
  · decide
  · decide
  · decide
  · decide
  · exact length_byCode_le c
  · rw [Char.toString_eq_singleton, String.length_singleton]
    decide

theorem length_quoted_le (text : List Char) :
    (quoted text).length ≤ longestQuoted * text.length + 2 := by
  have quote : "\"".length = 1 := by decide
  have echoes : ((text.map quotedChar).map String.length).sum ≤ longestQuoted * text.length := by
    have most := List.sum_le_card_nsmul ((text.map quotedChar).map String.length) longestQuoted
      fun length mem => by
        obtain ⟨echo, shown, rfl⟩ := List.mem_map.mp mem
        obtain ⟨c, _, rfl⟩ := List.mem_map.mp shown
        exact length_quotedChar_le c
    simpa [Nat.mul_comm] using most
  rw [quoted, String.length_append, String.length_append, String.length_join, quote]
  omega

/-! ## What a record says -/

/-- The text of the value that a line spells; none if it spells none. -/
def valueText? (line : Bytes) : Option String := (Json.Value.ofBytes? line).map Json.Value.text

/-- What is said of a line that is no command, by the value that it spells. -/
def said (line : Bytes) : LinkError.Message :=
  match Json.Value.ofBytes? line with
  | none => .refusal line
  | some value => .words (Command.notObject value).message

theorem ofLine_eq_error {line : Bytes} {e : LinkError} (skipped : Command.ofLine line = .error e) :
    e = ⟨.jsonDecode, said line, .internal⟩ := by
  unfold Command.ofLine at skipped
  rw [said]
  cases read : Json.Value.ofBytes? line with
  | none =>
    rw [read] at skipped
    exact (Except.error.inj skipped).symm
  | some value =>
    rw [read] at skipped
    dsimp only at skipped
    cases object : value.isObject with
    | true =>
      cases classed : Command.ofValue value with
      | ok command =>
        rw [classed] at skipped
        cases skipped
      | error cause =>
        have noObject := Command.exists_error_iff.mp ⟨cause, classed⟩
        cases object.symm.trans noObject
    | false =>
      rw [Command.ofValue, object] at skipped
      exact (Except.error.inj skipped).symm

section Texts

variable (W : Wording) {line : Bytes}

theorem text_said_of_none (unspelled : valueText? line = none) :
    (said line).text W = "Invalid JSON line: " ++ W.json line := by
  rw [said, Option.map_eq_none_iff.mp unspelled]
  rfl

theorem text_said_of_some {text : String} (spelled : valueText? line = some text) :
    (said line).text W = "Command must be a JSON object, got: " ++ text := by
  obtain ⟨value, read, rfl⟩ := Option.map_eq_some_iff.mp spelled
  rw [said, read]
  rfl

/-- What is said of two lines is the same exactly if they spell values of the same text, or none and
the reader says the same of both. -/
theorem text_said_eq_iff {line' : Bytes} :
    (said line').text W = (said line).text W ↔
      valueText? line' = valueText? line ∧
        (valueText? line = none → W.json line' = W.json line) := by
  -- the two ways to say something start with different letters
  have differ (reason text : String) : "Invalid JSON line: " ++ reason ≠
      "Command must be a JSON object, got: " ++ text := by
    intro same
    have first := congrArg (fun said : String => said.toList.head?) same
    simp at first
  cases spelled : valueText? line with
  | none =>
    rw [text_said_of_none W spelled]
    cases spelled' : valueText? line' with
    | none =>
      rw [text_said_of_none W spelled', String.append_right_inj]
      exact ⟨fun same => ⟨rfl, fun _ => same⟩, fun h => h.2 rfl⟩
    | some text' =>
      rw [text_said_of_some W spelled']
      exact ⟨fun same => absurd same.symm (differ _ _), fun h => nomatch h.1⟩
  | some text =>
    rw [text_said_of_some W spelled]
    cases spelled' : valueText? line' with
    | none =>
      rw [text_said_of_none W spelled']
      exact ⟨fun same => absurd same (differ _ _), fun h => nomatch h.1⟩
    | some text' =>
      rw [text_said_of_some W spelled', String.append_right_inj, Option.some.injEq]
      exact ⟨fun same => ⟨same, nofun⟩, And.left⟩

end Texts

/-! ## How long a record is -/

/-- The words from outside are no longer than this. -/
structure Wording.Within (W : Wording) (length : Nat) : Prop where
  json : ∀ line, (W.json line).length ≤ length
  place : W.place.length ≤ length

/-- The longest record of a line of which nothing is shown again, given the length of words from
outside. -/
def longestRecord (length : Nat) : Nat := longestQuoted * Inbox.shownBytes + 90 + 2 * length

theorem length_skippedStart_le (line : Bytes) :
    (Inbox.skippedStart line).length ≤ longestQuoted * Inbox.shownBytes + 34 := by
  have before : "Ignoring invalid command line ".length = 30 := rfl
  have after : ": ".length = 2 := rfl
  have echo := length_quoted_le (Utf8.lossy (line.take Inbox.shownBytes))
  have shown := (Utf8.length_lossy_le _).trans (List.length_take_le Inbox.shownBytes line)
  have decoded := Nat.mul_le_mul_left longestQuoted shown
  have parts : Inbox.skippedStart line = "Ignoring invalid command line " ++
      quoted (Utf8.lossy (line.take Inbox.shownBytes)) ++ ": " := rfl
  rw [parts, String.length_append, String.length_append, before, after]
  omega

theorem text_jsonDecode (W : Wording) (said : LinkError.Message) :
    LinkError.text W ⟨.jsonDecode, said, .internal⟩ =
      LinkError.label .jsonDecode ++ ": " ++ said.text W ++ " " ++ W.place := rfl

/-- An error of decoding is what it says, its place and 20 characters around them. -/
theorem length_text_jsonDecode (W : Wording) (said : LinkError.Message) :
    (LinkError.text W ⟨.jsonDecode, said, .internal⟩).length =
      (said.text W).length + W.place.length + 20 := by
  have label : (LinkError.label .jsonDecode).length = 17 := rfl
  have colon : ": ".length = 2 := rfl
  have space : " ".length = 1 := rfl
  rw [text_jsonDecode, String.length_append, String.length_append, String.length_append,
    String.length_append, label, colon, space]
  omega

section Records

variable {W : Wording} {line : Bytes} {e : LinkError}

theorem message_skippedRecord (skipped : Command.ofLine line = .error e) :
    (Inbox.skippedRecord W line e).message =
      Inbox.skippedStart line ++ LinkError.text W ⟨.jsonDecode, said line, .internal⟩ := by
  rw [ofLine_eq_error skipped]
  rfl

/-- How much of a line its record shows once more, behind the first bytes. -/
def shownAgain (line : Bytes) : Nat := ((valueText? line).map String.length).getD 0

theorem length_said {length : Nat} (within : W.Within length) (line : Bytes) :
    shownAgain line ≤ ((said line).text W).length ∧
      ((said line).text W).length ≤ shownAgain line + length + 36 := by
  rw [shownAgain]
  cases spelled : valueText? line with
  | none =>
    have before : "Invalid JSON line: ".length = 19 := rfl
    have reason := within.json line
    rw [text_said_of_none W spelled, String.length_append, before, Option.map_none,
      Option.getD_none]
    omega
  | some text =>
    have before : "Command must be a JSON object, got: ".length = 36 := rfl
    rw [text_said_of_some W spelled, String.length_append, before, Option.map_some,
      Option.getD_some]
    omega

theorem length_skippedRecord {length : Nat} (within : W.Within length)
    (skipped : Command.ofLine line = .error e) :
    shownAgain line ≤ (Inbox.skippedRecord W line e).message.length ∧
      (Inbox.skippedRecord W line e).message.length ≤ shownAgain line + longestRecord length := by
  have start := length_skippedStart_le line
  have place := within.place
  obtain ⟨least, most⟩ := length_said within line
  rw [message_skippedRecord skipped, String.length_append, length_text_jsonDecode, longestRecord]
  omega

/-- Of two lines that start alike, the records are the same exactly if the same is said of both. -/
theorem skippedRecord_eq_iff {line' : Bytes} {e' : LinkError}
    (skipped : Command.ofLine line = .error e) (skipped' : Command.ofLine line' = .error e')
    (start : line'.take Inbox.shownBytes = line.take Inbox.shownBytes) :
    Inbox.skippedRecord W line' e' = Inbox.skippedRecord W line e ↔
      valueText? line' = valueText? line ∧
        (valueText? line = none → W.json line' = W.json line) := by
  have message (line : Bytes) (e : LinkError) :
      Inbox.skippedRecord W line e = .warn (Inbox.skippedRecord W line e).message := rfl
  have begin : Inbox.skippedStart line' = Inbox.skippedStart line := by
    unfold Inbox.skippedStart
    rw [start]
  rw [← text_said_eq_iff W]
  constructor
  · intro same
    have texts := congrArg Record.message same
    rwa [message_skippedRecord skipped, message_skippedRecord skipped', begin,
      String.append_right_inj, text_jsonDecode, text_jsonDecode, String.append_left_inj,
      String.append_left_inj, String.append_right_inj] at texts
  · intro same
    rw [message line', message line, message_skippedRecord skipped,
      message_skippedRecord skipped', begin, text_jsonDecode, text_jsonDecode, same]

end Records

/-! ## The records of a wait -/

/-- The record of a skipped entry; a command has none. -/
def warning? (W : Wording) : LineEntry → Option Record
  | .ok line =>
    match Command.ofLine line with
    | .ok _ => none
    | .error e => some (Inbox.skippedRecord W line e)
  | .error e => some (Inbox.rejectedRecord W e)

theorem warning?_error {W : Wording} {line : Bytes} {e : LinkError}
    (skipped : Command.ofLine line = .error e) :
    warning? W (.ok line) = some (Inbox.skippedRecord W line e) := by
  rw [warning?, skipped]

theorem isSkipped_eq (W : Wording) (entry : LineEntry) :
    isSkipped entry = (warning? W entry).isSome := by
  cases entry with
  | error e => rfl
  | ok line =>
    rw [isSkipped, commandOf?, warning?]
    cases Command.ofLine line <;> rfl

/-- Between two states of the world these records were logged in this order, perhaps among
others. -/
def Noted (records : List Record) (t t' : Traced σ F) : Prop :=
  ∃ added, t'.trace = t.trace ++ added ∧ (records.map Event.noted).Sublist added

namespace Noted

variable {records more : List Record} {t t' t'' : Traced σ F}

theorem trans (h : Noted records t t') (k : Noted more t' t'') : Noted (records ++ more) t t'' := by
  obtain ⟨added, grown, logged⟩ := h
  obtain ⟨later, grown', logged'⟩ := k
  refine ⟨added ++ later, ?_, ?_⟩
  · rw [grown', grown, List.append_assoc]
  · rw [List.map_append]
    exact logged.append logged'

theorem of_elapsed {chunks : List Bytes} {done : List (Event F)} (h : Elapsed chunks done t t') :
    Noted [] t t' := by
  obtain ⟨added, grown, -⟩ := h
  exact ⟨added, grown, List.nil_sublist _⟩

theorem note (h : Noted records t t') (H : Host σ) (record : Record) :
    Noted (records ++ [record]) t ((H.traced F).note record t') :=
  h.trans ⟨[.noted record], rfl, .refl _⟩

end Noted

/-- What was heard without skipping an entry leaves no record. -/
theorem Heard.unskipped (W : Wording) {b : Inbox} {c : Channel} {t : Traced σ F}
    {chunks : List Bytes} {taken : List LineEntry} {r : CommandEvent × Inbox × Channel × Traced σ F}
    (heard : Heard b c t chunks taken r) (same : r.2.1.discarded = b.discarded) :
    Noted (taken.filterMap (warning? W)) t r.2.2.2 := by
  have unskipped : taken.countP isSkipped = 0 := by
    have counted := heard.discarded_eq
    omega
  have silent : taken.filterMap (warning? W) = [] := by
    refine List.filterMap_eq_nil_iff.mpr fun entry mem => ?_
    have kept := List.countP_eq_zero.mp unskipped entry mem
    rwa [isSkipped_eq W, Option.not_isSome_iff_eq_none] at kept
  rw [silent]
  exact .of_elapsed heard.elapsed

/-- A wait logs a record for each entry that it skips. -/
theorem noted_waitUntil {H : Host σ} (deadline : Option Instant) {b : Inbox} {c : Channel}
    {t : Traced σ F} (sound : c.Sound) :
    ∃ chunks taken, Heard b c t chunks taken (b.waitUntil (H.traced F) deadline c t) ∧
      Noted (taken.filterMap (warning? H.wording)) t
        (b.waitUntil (H.traced F) deadline c t).2.2.2 := by
  -- the induction is over the skipped lines, and each receive says what it took
  induction b, c, t using Inbox.waitUntil.induct (H.traced F) deadline with
  | case1 b c t got line brought command read =>
    obtain ⟨chunks, taken, heard⟩ := heard_waitUntil (H := H) deadline (b := b) (t := t) sound
    refine ⟨chunks, taken, heard, heard.unskipped _ ?_⟩
    rw [Inbox.waitUntil_command brought read]
    rfl
  | case2 b c t got line brought e read spent ih =>
    rw [Inbox.waitUntil_skipped brought read]
    obtain ⟨⟨chunks, elapsed, took⟩, -⟩ := drawn_receiveUntil (H := H) deadline (t := t) sound
    rw [brought] at took
    obtain ⟨more, taken, rest, logged⟩ := ih (Channel.sound_receiveUntil sound)
    refine ⟨_, _, rest.skip (elapsed.note H _) took (commandOf?_error read), ?_⟩
    rw [List.filterMap_cons_some (warning?_error read)]
    exact ((Noted.of_elapsed elapsed).note H _).trans logged
  | case3 b c t got e brought spent ih =>
    rw [Inbox.waitUntil_rejected brought]
    obtain ⟨⟨chunks, elapsed, took⟩, -⟩ := drawn_receiveUntil (H := H) deadline (t := t) sound
    rw [brought] at took
    obtain ⟨more, taken, rest, logged⟩ := ih (Channel.sound_receiveUntil sound)
    refine ⟨_, _, rest.skip (elapsed.note H _) took rfl, ?_⟩
    exact ((Noted.of_elapsed elapsed).note H _).trans logged
  | case4 b c t got brought =>
    obtain ⟨chunks, taken, heard⟩ := heard_waitUntil (H := H) deadline (b := b) (t := t) sound
    refine ⟨chunks, taken, heard, heard.unskipped _ ?_⟩
    rw [Inbox.waitUntil_noMessage brought]
  | case5 b c t got brought =>
    obtain ⟨chunks, taken, heard⟩ := heard_waitUntil (H := H) deadline (b := b) (t := t) sound
    refine ⟨chunks, taken, heard, heard.unskipped _ ?_⟩
    rw [Inbox.waitUntil_disconnected brought]

/-! ## Echoes -/

/-- The text of the value that a line spells is in its record as a whole. -/
theorem exists_around (W : Wording) {line : Bytes} {e : LinkError} {text : String}
    (skipped : Command.ofLine line = .error e) (spelled : valueText? line = some text) :
    ∃ front back, (Inbox.skippedRecord W line e).message = front ++ text ++ back := by
  refine ⟨Inbox.skippedStart line ++ (LinkError.label .jsonDecode ++ ": " ++
    "Command must be a JSON object, got: "), " " ++ W.place, ?_⟩
  rw [message_skippedRecord skipped, text_jsonDecode, text_said_of_some W spelled]
  simp only [String.append_assoc]

/-- A wait logs a warning for each line that it skips. Where the words that other libraries add are
bounded, so is the warning of a line that spells no value: it shows the first bytes alone. A line
that spells a value is shown once more, as the whole text of that value: so the warning is as long
as that text, up to a constant. Two lines that start alike have the same warning exactly if they
spell values of the same text, or none and the reader says the same of both. -/
theorem skipped_echo (H : Host σ) {length : Nat} (within : H.wording.Within length)
    (deadline : Option Instant) {b : Inbox} {c : Channel} {t : Traced σ F} (sound : c.Sound) :
    let r := b.waitUntil (H.traced F) deadline c t
    (∃ chunks taken, Heard b c t chunks taken r ∧
      Noted (taken.filterMap (warning? H.wording)) t r.2.2.2) ∧
    ∀ line e, Command.ofLine line = .error e →
      let record := Inbox.skippedRecord H.wording line e
      warning? H.wording (.ok line) = some record ∧ record.level = .warn ∧
      (valueText? line = none → record.message.length ≤ longestRecord length) ∧
      (∀ text, valueText? line = some text →
        (∃ front back, record.message = front ++ text ++ back) ∧
        record.message.length ≤ text.length + longestRecord length) ∧
      ∀ line' e', Command.ofLine line' = .error e' →
        line'.take Inbox.shownBytes = line.take Inbox.shownBytes →
        (Inbox.skippedRecord H.wording line' e' = record ↔
          valueText? line' = valueText? line ∧
            (valueText? line = none → H.wording.json line' = H.wording.json line)) := by
  refine ⟨noted_waitUntil deadline sound, fun line e skipped => ?_⟩
  obtain ⟨-, most⟩ := length_skippedRecord within skipped
  refine ⟨warning?_error skipped, rfl, fun unspelled => ?_, fun text spelled => ?_,
    fun line' e' skipped' start => skippedRecord_eq_iff skipped skipped' start⟩
  · simpa [shownAgain, unspelled] using most
  · refine ⟨exists_around H.wording skipped spelled, ?_⟩
    simpa [shownAgain, spelled] using most

/-! ### Lines of one string -/

/-- A line that spells a string of so many letters. -/
def letters (n : Nat) : Bytes :=
  Utf8.ofString (Json.stringText (String.ofList (List.replicate n 'a')))

theorem toList_stringText_letters (n : Nat) :
    (Json.stringText (String.ofList (List.replicate n 'a'))).toList =
      '"' :: (List.replicate n 'a' ++ ['"']) := by
  have plain : (Json.escapedChar 'a').toList = ['a'] := by decide
  have echoes : ((List.replicate n 'a').map Json.escapedChar).flatMap String.toList =
      List.replicate n 'a' := by
    rw [List.map_replicate, List.flatMap_replicate, plain]
    simp
  rw [Json.stringText, String.toList_append, String.toList_append, String.toList_join,
    @String.toList_ofList (List.replicate n 'a'), echoes]
  rfl

theorem letters_eq (n : Nat) : letters n = 34 :: (List.replicate n 97 ++ [34]) := by
  have byte : String.utf8EncodeChar 'a' = [97] := by decide
  have bytes : (List.replicate n 'a').flatMap String.utf8EncodeChar = List.replicate n 97 := by
    rw [List.flatMap_replicate, byte]
    simp
  rw [letters, Utf8.ofString, toList_stringText_letters, Utf8.encode, List.flatMap_cons,
    List.flatMap_append, bytes]
  rfl

theorem ofBytes?_letters (n : Nat) :
    Json.Value.ofBytes? (letters n) = some (.string (String.ofList (List.replicate n 'a'))) := by
  have tree := Json.ofBytes?_text (.string (String.ofList (List.replicate n 'a')))
  rw [Json.Value.text] at tree
  rw [Json.Value.ofBytes?, letters, tree]
  rfl

theorem valueText?_letters (n : Nat) :
    ∃ text, valueText? (letters n) = some text ∧ text.length = n + 2 := by
  refine ⟨Json.stringText (String.ofList (List.replicate n 'a')), ?_, ?_⟩
  · rw [valueText?, ofBytes?_letters, Option.map_some, Json.Value.text]
  · rw [← String.length_toList, toList_stringText_letters]
    simp

theorem exists_ofLine_letters (n : Nat) : ∃ e, Command.ofLine (letters n) = .error e := by
  rw [Command.ofLine, ofBytes?_letters]
  exact ⟨_, rfl⟩

/-- Long lines of letters start alike. -/
theorem take_letters {n : Nat} (long : Inbox.shownBytes ≤ n) :
    (letters n).take Inbox.shownBytes = 34 :: List.replicate 199 97 := by
  have reached : 199 ≤ (List.replicate n (97 : UInt8)).length := by
    rw [List.length_replicate]
    exact (by decide : 199 ≤ Inbox.shownBytes).trans long
  have fewer : min 199 n = 199 := min_eq_left (List.length_replicate (n := n) ▸ reached)
  calc (letters n).take Inbox.shownBytes
      = 34 :: (List.replicate n (97 : UInt8) ++ [34]).take 199 := by
        rw [letters_eq]
        rfl
    _ = 34 :: List.replicate 199 97 := by
        rw [List.take_append_of_le_length reached, List.take_replicate, fewer]

/-! ### A reader that counts columns -/

/-- The words of the script are bounded: the column is a number of 64 bits. -/
theorem within_wording : Script.wording.Within 64 where
  json line := by
    have parts : Script.wording.json line = "EOF while parsing a string at line 1 column " ++
        Nat.repr (line.length % UInt64.size) := rfl
    have before : "EOF while parsing a string at line 1 column ".length = 44 := rfl
    have column : line.length % UInt64.size < 10 ^ 20 :=
      (Nat.mod_lt _ (by decide)).trans (by decide)
    have digits := Nat.toDigits_length 10 _ 20 (by decide) column
    rw [parts, String.length_append, before, Nat.repr, String.length_ofList]
    omega
  place := by decide

/-- Neither content nor length keeps to the first bytes: two lines that start alike have different
warnings, and no bound holds for all lines. -/
theorem echo_beyond_shown :
    Script.wording.Within 64 ∧
    (∃ line line' e e', Command.ofLine line = .error e ∧ Command.ofLine line' = .error e' ∧
      line'.take Inbox.shownBytes = line.take Inbox.shownBytes ∧
      Inbox.skippedRecord Script.wording line' e' ≠ Inbox.skippedRecord Script.wording line e) ∧
    ¬ ∃ bound, ∀ line e, Command.ofLine line = .error e →
      (Inbox.skippedRecord Script.wording line e).message.length ≤ bound := by
  refine ⟨within_wording, ?_, ?_⟩
  · obtain ⟨e, skipped⟩ := exists_ofLine_letters 300
    obtain ⟨e', skipped'⟩ := exists_ofLine_letters 301
    obtain ⟨text, spelled, length⟩ := valueText?_letters 300
    obtain ⟨text', spelled', length'⟩ := valueText?_letters 301
    have start : (letters 301).take Inbox.shownBytes = (letters 300).take Inbox.shownBytes := by
      rw [take_letters (by decide), take_letters (by decide)]
    refine ⟨letters 300, letters 301, e, e', skipped, skipped', start, fun same => ?_⟩
    obtain ⟨texts, -⟩ := (skippedRecord_eq_iff skipped skipped' start).mp same
    rw [spelled, spelled', Option.some.injEq] at texts
    rw [texts, length] at length'
    exact absurd length' (by decide)
  · rintro ⟨bound, bounded⟩
    obtain ⟨e, skipped⟩ := exists_ofLine_letters bound
    obtain ⟨text, spelled, length⟩ := valueText?_letters bound
    obtain ⟨least, -⟩ := length_skippedRecord within_wording skipped
    have most := bounded _ _ skipped
    rw [shownAgain, spelled, Option.map_some, Option.getD_some, length] at least
    omega

/-- A channel that has received a line of three hundred letters. -/
def lettersChannel : Channel where
  config := ⟨[], ⟨0⟩, ⟨0⟩, ⟨0⟩, 0, 512⟩
  state := .connected
  stream := some 0
  lines := { LineBuffer.ofLimit 512 with ready := [.ok (letters 300)] }

/-- A line that starts like one of letters, and ends before the string does. -/
def unended (n : Nat) : Bytes := 34 :: List.replicate n 97

/-- The warning of a long line of letters shows all of it. Two strings that do not end are shown by
their first bytes alone, but are told apart by the column in which the reader met the end. -/
theorem skipped_echo_of_letters :
    (Script.host.wording.Within 64 ∧ lettersChannel.Sound) ∧
    (∃ e e', Command.ofLine (letters 300) = .error e ∧ Command.ofLine (letters 301) = .error e' ∧
      (letters 301).take Inbox.shownBytes = (letters 300).take Inbox.shownBytes ∧
      302 ≤ (Inbox.skippedRecord Script.wording (letters 300) e).message.length ∧
      (Inbox.skippedRecord Script.wording (letters 300) e).message.length ≤
        302 + longestRecord 64 ∧
      Inbox.skippedRecord Script.wording (letters 301) e' ≠
        Inbox.skippedRecord Script.wording (letters 300) e) ∧
    ∃ e e', Command.ofLine (unended 250) = .error e ∧ Command.ofLine (unended 300) = .error e' ∧
      (unended 300).take Inbox.shownBytes = (unended 250).take Inbox.shownBytes ∧
      (Inbox.skippedRecord Script.wording (unended 300) e').message.length ≤ longestRecord 64 ∧
      Inbox.skippedRecord Script.wording (unended 300) e' ≠
        Inbox.skippedRecord Script.wording (unended 250) e := by
  have within : Script.host.wording.Within 64 := within_wording
  have sound : lettersChannel.Sound := ⟨rfl, rfl, nofun⟩
  obtain ⟨-, echoes⟩ := skipped_echo (F := Nat) Script.host within none
    (b := .ofPollTimeout ⟨0⟩) (t := .start ⟨[], []⟩) sound
  refine ⟨⟨within, sound⟩, ?_, ?_⟩
  · obtain ⟨e, skipped⟩ := exists_ofLine_letters 300
    obtain ⟨e', skipped'⟩ := exists_ofLine_letters 301
    obtain ⟨text, spelled, length⟩ := valueText?_letters 300
    obtain ⟨text', spelled', length'⟩ := valueText?_letters 301
    have start : (letters 301).take Inbox.shownBytes = (letters 300).take Inbox.shownBytes := by
      rw [take_letters (by decide), take_letters (by decide)]
    obtain ⟨-, -, -, shown, alike⟩ := echoes (letters 300) e skipped
    obtain ⟨⟨front, back, around⟩, most⟩ := shown text spelled
    rw [length] at most
    refine ⟨e, e', skipped, skipped', start, ?_, most, fun same => ?_⟩
    · have whole : (Inbox.skippedRecord Script.wording (letters 300) e).message =
          front ++ text ++ back := around
      rw [whole, String.length_append, String.length_append, length]
      omega
    · obtain ⟨texts, -⟩ := (alike (letters 301) e' skipped' start).mp same
      rw [spelled, spelled', Option.some.injEq] at texts
      rw [texts, length] at length'
      exact absurd length' (by decide)
  · have unread : Json.Value.ofBytes? (unended 250) = none := by decide +kernel
    have unread' : Json.Value.ofBytes? (unended 300) = none := by decide +kernel
    have unspelled : valueText? (unended 250) = none := Option.map_eq_none_iff.mpr unread
    have unspelled' : valueText? (unended 300) = none := Option.map_eq_none_iff.mpr unread'
    have skipped : Command.ofLine (unended 250) = .error (Command.invalidLine (unended 250)) := by
      rw [Command.ofLine, unread]
    have skipped' : Command.ofLine (unended 300) = .error (Command.invalidLine (unended 300)) := by
      rw [Command.ofLine, unread']
    have start : (unended 300).take Inbox.shownBytes = (unended 250).take Inbox.shownBytes := by
      decide +kernel
    obtain ⟨-, -, -, -, alike⟩ := echoes _ _ skipped
    obtain ⟨-, -, most, -⟩ := echoes _ _ skipped'
    refine ⟨_, _, skipped, skipped', start, most unspelled', fun same => ?_⟩
    obtain ⟨-, reasons⟩ := (alike _ _ skipped' start).mp same
    exact absurd (reasons unspelled) (by decide +kernel)

end DetectionLink
