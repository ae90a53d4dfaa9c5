import Embed.Proofs.Independence
import Embed.Proofs.Scrollback
/-!
# What a stream of messages leaves behind

Payloads, decoded messages and printed lines are all that reach the output and the counters. What
they leave there can be read off the replies of a run: the output is the longest end that fits of
all that was appended, in order of arrival, and each counter is a count of replies.

A payload that is no message leaves a line and is counted, and that is all. With output and that
count left out, a recording is `muted`; muted recordings go on alike, so such a payload has no part
in anything that comes after it.
-/

namespace Embed

/-- Counters after messages were carried out and payloads were refused. -/
def Counters.plus (counters : Counters) (messages : List Message) (errors : List DecodeError) :
    Counters where
  handled := counters.handled + .ofNat messages.length
  unknown := counters.unknown + .ofNat (messages.countP Message.isUnknown)
  decodeErrors := counters.decodeErrors + .ofNat errors.length

namespace Counters

/-- Nothing is counted where nothing came. -/
@[simp]
theorem plus_nil (counters : Counters) : counters.plus [] [] = counters := by
  simp [plus]

/-- What comes in two parts is counted as one. -/
theorem plus_plus (counters : Counters) (messages later : List Message)
    (errors others : List DecodeError) :
    (counters.plus messages errors).plus later others =
      counters.plus (messages ++ later) (errors ++ others) := by
  simp [plus, UInt64.ofNat_add, UInt64.add_assoc]

/-- Counters that begin at zero are right as long as what comes can be counted. -/
theorem toNat_plus {messages : List Message} {errors : List DecodeError}
    (few : messages.length + errors.length < UInt64.size) :
    (plus {} messages errors).handled.toNat = messages.length ∧
      (plus {} messages errors).unknown.toNat = messages.countP Message.isUnknown ∧
      (plus {} messages errors).decodeErrors.toNat = errors.length := by
  have unknown : messages.countP Message.isUnknown ≤ messages.length := List.countP_le_length
  simp only [plus, UInt64.zero_add]
  refine ⟨?_, ?_, ?_⟩
  · exact UInt64.toNat_ofNat_of_lt' (by omega)
  · exact UInt64.toNat_ofNat_of_lt' (by omega)
  · exact UInt64.toNat_ofNat_of_lt' (by omega)

end Counters

namespace Recording

/-- The message that an operation carries out. A payload's is known from the reply. -/
def Operation.carried? : Operation → Reply → Option Message
  | .signal (.dispatch message), _ => some message
  | .signal (.payload _), .decoded (.ok message) => some message
  | _, _ => none

/-- Why the payload of an operation is no message. -/
def Operation.decodeError? : Operation → Reply → Option DecodeError
  | .signal (.payload _), .decoded (.error error) => some error
  | _, _ => none

/-- What an operation appends to the output. -/
def Operation.piece? : Operation → Reply → Option String
  | .signal (.dispatch message), _ => message.outputText
  | .signal (.payload _), .decoded (.ok message) => message.outputText
  | .signal (.payload _), .decoded (.error error) =>
    some ("malformed msg received: " ++ error.message ++ "\n")
  | .signal (.print line), _ => some (line ++ "\n")
  | _, _ => none

/-- Whether an operation brings a message, or what ought to be one. -/
def Operation.isMessage : Operation → Bool
  | .signal (.dispatch _) | .signal (.payload _) => true
  | _ => false

/-- The messages that are carried out in a run, in order. -/
def messages (r : Recording) (operations : List Operation) : List Message :=
  (r.outcomes operations).flatMap fun entry => (entry.1.carried? entry.2.1).toList

/-- Why payloads are refused in a run, in order. -/
def decodeErrors (r : Recording) (operations : List Operation) : List DecodeError :=
  (r.outcomes operations).flatMap fun entry => (entry.1.decodeError? entry.2.1).toList

/-- What is appended to the output in a run, in order. -/
def pieces (r : Recording) (operations : List Operation) : List String :=
  (r.outcomes operations).flatMap fun entry => (entry.1.piece? entry.2.1).toList

/-- What a payload is decoded to depends on the configuration alone, and is the reply. -/
theorem reply_payload (r : Recording) (payload : String) :
    (r.step (.signal (.payload payload))).2 =
      .decoded (decode r.session.config.transport payload) := by
  simp only [step, tell, Session.receiveSignal, Session.receive]
  cases decode r.session.config.transport payload <;> rfl

/-- A recording in which a payload was refused: its output has one line more, and it is counted. -/
def refused (r : Recording) (error : DecodeError) : Recording :=
  let line := "malformed msg received: " ++ error.message ++ "\n"
  let transcript := (r.session.transcript.append line).1
  let counters := r.session.counters
  ⟨{ r.session with
      transcript
      counters := { counters with decodeErrors := counters.decodeErrors + 1 } },
    { r.display with output := transcript.text }⟩

/-- A payload that is no message is refused, and that is all. -/
theorem step_malformed (r : Recording) {payload : String} {error : DecodeError}
    (malformed : decode r.session.config.transport payload = .error error) :
    (r.step (.signal (.payload payload))).1 = r.refused error := by
  simp only [step, tell, Session.receiveSignal, Session.receive, malformed]
  rfl

/-- A message that is carried out is counted. -/
theorem counters_dispatch (s : Session) (message : Message) :
    (s.dispatch message).session.counters = s.counters.plus [message] [] := by
  cases message <;>
    simp [Session.dispatch, Session.append, Message.outputText, Message.isUnknown, Counters.plus]

/-- An operation counts the message that it carries out, or the refusal of its payload. -/
theorem step_counters (r : Recording) (operation : Operation) :
    (r.step operation).1.session.counters =
      r.session.counters.plus (operation.carried? (r.step operation).2).toList
        (operation.decodeError? (r.step operation).2).toList := by
  cases operation with
  | signal told =>
    cases told with
    | life | status =>
      rw [step_of_life r rfl]
      exact (Counters.plus_nil _).symm
    | payload text =>
      rw [reply_payload]
      cases decoded : decode r.session.config.transport text with
      | error error =>
        rw [step_malformed r decoded]
        simp [refused, Operation.carried?, Operation.decodeError?, Counters.plus]
      | ok message =>
        simp only [step, tell, Session.receiveSignal, Session.receive, decoded]
        exact counters_dispatch r.session message
    | dispatch message => exact counters_dispatch r.session message
    | windowResize =>
      simp [step, tell, Session.receiveSignal, Operation.carried?, Operation.decodeError?]
    | print | fullscreenChange | enterSoft | leaveSoft => exact (Counters.plus_nil _).symm
  | requestFullscreen =>
    simp only [step, requestFullscreen]
    cases r.display.refusal <;> exact (Counters.plus_nil _).symm
  | setWindow | setRefusal => exact (Counters.plus_nil _).symm

/-- An operation appends its piece to the output, if it has one. -/
theorem step_transcript (r : Recording) (operation : Operation) :
    (r.step operation).1.session.transcript =
      r.session.transcript.appendAll (operation.piece? (r.step operation).2).toList := by
  cases operation with
  | signal told =>
    cases told with
    | life | status =>
      rw [step_of_life r rfl]
      rfl
    | payload text =>
      rw [reply_payload]
      cases decoded : decode r.session.config.transport text with
      | error error =>
        rw [step_malformed r decoded]
        rfl
      | ok message =>
        simp only [step, tell, Session.receiveSignal, Session.receive, decoded]
        cases message <;> rfl
    | dispatch message => cases message <;> rfl
    | windowResize =>
      simp [step, tell, Session.receiveSignal, Operation.piece?, Scrollback.appendAll]
    | print | fullscreenChange | enterSoft | leaveSoft => rfl
  | requestFullscreen =>
    simp only [step, requestFullscreen]
    cases r.display.refusal <;> rfl
  | setWindow | setRefusal => rfl

/-- The page shows the output of the session. -/
def ShowsOutput (r : Recording) : Prop :=
  r.display.output = r.session.transcript.text

/-- Carrying out a message, the page goes on to show the output. -/
theorem showsOutput_dispatch (r : Recording) (message : Message) (shown : r.ShowsOutput) :
    ShowsOutput ⟨(r.session.dispatch message).session,
      r.display.applyAll (r.session.dispatch message).effects⟩ := by
  cases message with
  | resize size => exact shown
  | text | log | unknown => rfl

/-- Presenting the canvas, the page goes on to show the output. -/
theorem showsOutput_present (r : Recording) (change : Viewport × Option Size)
    (shown : r.ShowsOutput) :
    ShowsOutput ⟨(r.session.present change).session,
      r.display.applyAll (r.session.present change).effects⟩ := by
  obtain ⟨viewport, size⟩ := change
  cases size <;> exact shown

/-- Following the window, the page goes on to show the output. -/
theorem showsOutput_windowResized (r : Recording) (shown : r.ShowsOutput) :
    ShowsOutput ⟨(r.session.windowResized r.display.geometry).session,
      r.display.applyAll (r.session.windowResized r.display.geometry).effects⟩ := by
  unfold Session.windowResized
  split
  · split
    · split <;> exact shown
    · exact shown
  · exact shown

/-- After every operation the page still shows the output. -/
theorem showsOutput_step (r : Recording) (operation : Operation) (shown : r.ShowsOutput) :
    (r.step operation).1.ShowsOutput := by
  cases operation with
  | signal told =>
    cases told with
    | life | status =>
      rw [step_of_life r rfl]
      exact shown
    | payload text =>
      cases decoded : decode r.session.config.transport text with
      | error error =>
        rw [step_malformed r decoded]
        rfl
      | ok message =>
        simp only [step, tell, Session.receiveSignal, Session.receive, decoded]
        exact showsOutput_dispatch r message shown
    | dispatch message => exact showsOutput_dispatch r message shown
    | print line => rfl
    | fullscreenChange | enterSoft | leaveSoft => exact showsOutput_present r _ shown
    | windowResize => exact showsOutput_windowResized r shown
  | requestFullscreen =>
    simp only [step, requestFullscreen]
    cases r.display.refusal <;> exact shown
  | setWindow | setRefusal => exact shown

/-- After every run the page still shows the output. -/
theorem showsOutput_run (r : Recording) (operations : List Operation) (shown : r.ShowsOutput) :
    (r.run operations).ShowsOutput := by
  induction operations generalizing r with
  | nil => exact shown
  | cons operation later ih => exact ih (r.step operation).1 (showsOutput_step r operation shown)

/-- A run counts the messages that are carried out in it, and the payloads that are refused. -/
theorem run_counters (r : Recording) (operations : List Operation) :
    (r.run operations).session.counters =
      r.session.counters.plus (r.messages operations) (r.decodeErrors operations) := by
  induction operations generalizing r with
  | nil => exact (Counters.plus_nil _).symm
  | cons operation later ih =>
    rw [run_cons, ih, step_counters, Counters.plus_plus]
    rfl

/-- A run appends its pieces to the output. -/
theorem run_transcript (r : Recording) (operations : List Operation) :
    (r.run operations).session.transcript =
      r.session.transcript.appendAll (r.pieces operations) := by
  induction operations generalizing r with
  | nil => rfl
  | cons operation later ih =>
    rw [run_cons, ih, step_transcript, Scrollback.appendAll_appendAll]
    rfl

/-- What brings a message either carries it out or has its payload refused. -/
theorem length_step (r : Recording) (operation : Operation) :
    (operation.carried? (r.step operation).2).toList.length +
        (operation.decodeError? (r.step operation).2).toList.length =
      operation.isMessage.toNat := by
  cases operation with
  | signal told =>
    cases told with
    | payload text =>
      rw [reply_payload]
      cases decode r.session.config.transport text <;> rfl
    | life | status | dispatch | print | fullscreenChange | enterSoft | leaveSoft | windowResize =>
      rfl
  | requestFullscreen | setWindow | setRefusal => rfl

/-- The messages carried out and the payloads refused are all that came. -/
theorem length_messages (r : Recording) (operations : List Operation) :
    (r.messages operations).length + (r.decodeErrors operations).length =
      operations.countP Operation.isMessage := by
  induction operations generalizing r with
  | nil => rfl
  | cons operation later ih =>
    have first := length_step r operation
    have others := ih (r.step operation).1
    have split : (r.messages (operation :: later)).length +
          (r.decodeErrors (operation :: later)).length =
        (operation.carried? (r.step operation).2).toList.length +
            (operation.decodeError? (r.step operation).2).toList.length +
          ((((r.step operation).1).messages later).length +
            (((r.step operation).1).decodeErrors later).length) := by
      simp only [messages, decodeErrors, outcomes, outcome, List.flatMap_cons, List.length_append]
      omega
    rw [split, first, others, List.countP_cons]
    cases operation.isMessage <;> simp [Nat.add_comm]

end Recording

/-- A page without its output. -/
def Display.muted (display : Display) : Display :=
  { display with output := "" }

/-- Pages that differ in their output alone still do after any effects, whatever output these
bring. -/
theorem Display.muted_applyAll {display display' : Display} (same : display.muted = display'.muted)
    (effects : List Effect) :
    (display.applyAll effects).muted = (display'.applyAll effects).muted := by
  induction effects generalizing display display' with
  | nil => exact same
  | cons effect effects ih =>
    rw [applyAll_cons, applyAll_cons]
    apply ih
    have applied := congrArg (fun page => (page.apply effect).muted) same
    cases effect <;> exact applied

/-- A session without its output and without the count of refused payloads. -/
def Session.muted (s : Session) : Session :=
  { s with transcript := {}, counters := { s.counters with decodeErrors := 0 } }

/-- Output and refused payloads have no part in how the canvas follows the window. -/
theorem Session.windowResized_muted (s : Session) (geometry : Geometry) :
    s.muted.windowResized geometry = (s.windowResized geometry).mapSession muted := by
  have tracks : s.muted.config.trackWindowSize = s.config.trackWindowSize := rfl
  have follows : s.muted.viewport = s.viewport := rfl
  simp only [windowResized, tracks, follows]
  split
  · cases s.viewport.windowResized geometry.window <;> rfl
  · rfl

namespace Recording

/-- A recording without its output and without the count of refused payloads. -/
def muted (r : Recording) : Recording :=
  ⟨r.session.muted, r.display.muted⟩

/-- The refusal of a payload does not show in a muted recording. -/
theorem muted_refused (r : Recording) (error : DecodeError) :
    (r.refused error).muted = r.muted := rfl

/-- What is about the module's life goes on alike in a muted recording. -/
theorem step_muted_of_life (r : Recording) {operation : Operation}
    (life : operation.isLife = true) :
    (r.muted.step operation).1.muted = (r.step operation).1.muted ∧
      (r.muted.step operation).2 = (r.step operation).2 := by
  have own : r.muted.withLifeOf r = r.muted := rfl
  have apart := step_withLifeOf_of_life r.muted r life
  rw [own] at apart
  rw [apart]
  exact ⟨(congrArg muted (step_of_life r life)).symm, rfl⟩

/-- Output and refused payloads have no part in what a message does. -/
theorem dispatch_muted (r : Recording) (message : Message) :
    muted ⟨(r.muted.session.dispatch message).session,
        r.muted.display.applyAll (r.muted.session.dispatch message).effects⟩ =
      muted ⟨(r.session.dispatch message).session,
        r.display.applyAll (r.session.dispatch message).effects⟩ := by
  cases message <;> rfl

/-- Output and refused payloads have no part in what an operation does, nor in its reply. -/
theorem step_muted (r : Recording) (operation : Operation) :
    (r.muted.step operation).1.muted = (r.step operation).1.muted ∧
      (r.muted.step operation).2 = (r.step operation).2 := by
  have same : r.display.muted.muted = r.display.muted := rfl
  cases operation with
  | signal told =>
    cases told with
    | life | status => exact step_muted_of_life r rfl
    | payload text =>
      have transport : r.muted.session.config.transport = r.session.config.transport := rfl
      simp only [step, tell, Session.receiveSignal, Session.receive, transport]
      cases decode r.session.config.transport text with
      | ok message => exact ⟨dispatch_muted r message, rfl⟩
      | error error => exact ⟨rfl, rfl⟩
    | dispatch message => exact ⟨dispatch_muted r message, by cases message <;> rfl⟩
    | print line => exact ⟨rfl, rfl⟩
    | fullscreenChange | enterSoft | leaveSoft =>
      exact ⟨congrArg (mk _) (Display.muted_applyAll same _), rfl⟩
    | windowResize =>
      have answers : r.muted.session.windowResized r.muted.display.geometry = _ :=
        Session.windowResized_muted r.session r.display.geometry
      simp only [step, tell, Session.receiveSignal, answers, Session.Answer.mapSession]
      exact ⟨congrArg (mk _) (Display.muted_applyAll same _), trivial⟩
  | requestFullscreen =>
    simp only [step, requestFullscreen, muted, Display.muted]
    cases r.display.refusal <;> exact ⟨rfl, rfl⟩
  | setWindow | setRefusal => exact ⟨rfl, rfl⟩

/-- What differs in output and refused payloads alone still does after any operation, and replies
alike. -/
theorem step_of_muted {r r' : Recording} (same : r.muted = r'.muted) (operation : Operation) :
    (r.step operation).1.muted = (r'.step operation).1.muted ∧
      (r.step operation).2 = (r'.step operation).2 := by
  obtain ⟨here, replies⟩ := step_muted r operation
  obtain ⟨there, replies'⟩ := step_muted r' operation
  rw [same] at here replies
  exact ⟨here.symm.trans there, replies.symm.trans replies'⟩

/-- What differs in output and refused payloads alone still does after any run, and what is learned
on the way is the same. -/
theorem run_of_muted {r r' : Recording} (same : r.muted = r'.muted) (operations : List Operation) :
    (r.run operations).muted = (r'.run operations).muted ∧
      r.outcomes operations = r'.outcomes operations := by
  induction operations generalizing r r' with
  | nil => exact ⟨same, rfl⟩
  | cons operation later ih =>
    obtain ⟨next, reply⟩ := step_of_muted same operation
    obtain ⟨final, learned⟩ := ih next
    have state := congrArg (fun r => r.session.lifecycle.state) next
    change (r.step operation).1.session.lifecycle.state =
      (r'.step operation).1.session.lifecycle.state at state
    refine ⟨final, ?_⟩
    rw [outcomes, outcomes, outcome, outcome, reply, state, learned]

/-- The output is the longest end that fits of all that messages, refused payloads and printed lines
appended, in order of arrival. Each counter counts what it says, as long as it can. A payload is
decoded as the configuration says, whatever came before it. One that is no message changes nothing
but the output and the count of such payloads, and whatever follows does what it would do without
it. -/
theorem message_stream_exact (config : Config) (limit : Option Nat) (canvas window : Size)
    (operations : List Operation) :
    let start : Recording := ⟨{ config, transcript := { limit } }, { canvas, window }⟩
    let now := start.run operations
    LongestEnd limit ((start.pieces operations).flatMap String.toList) now.display.output.toList ∧
    now.session.transcript.text = now.display.output ∧
    (operations.countP Operation.isMessage < UInt64.size →
      now.session.counters.handled.toNat = (start.messages operations).length ∧
      now.session.counters.unknown.toNat =
        (start.messages operations).countP Message.isUnknown ∧
      now.session.counters.decodeErrors.toNat = (start.decodeErrors operations).length) ∧
    (∀ payload, (now.step (.signal (.payload payload))).2 =
      .decoded (decode config.transport payload)) ∧
    ∀ payload error, decode config.transport payload = .error error →
      let after := (now.step (.signal (.payload payload))).1
      let counters := now.session.counters
      after = ⟨{ now.session with
          transcript := after.session.transcript
          counters := { counters with decodeErrors := counters.decodeErrors + 1 } },
        { now.display with output := after.display.output }⟩ ∧
      ∀ later, (after.run later).muted = (now.run later).muted ∧
        after.outcomes later = now.outcomes later := by
  intro start now
  have shown : now.ShowsOutput := showsOutput_run start operations rfl
  have transport : now.session.config.transport = config.transport :=
    congrArg Config.transport (run_config start operations)
  refine ⟨?_, shown.symm, ?_, ?_, ?_⟩
  · have empty : LongestEnd limit [] start.session.transcript.text.toList :=
      longestEnd_of_fits fun bytes _ => Nat.zero_le bytes
    have kept := start.session.transcript.longestEnd_appendAll (start.pieces operations) empty
    rw [shown, run_transcript]
    exact kept
  · intro few
    have all := length_messages start operations
    have counted : now.session.counters =
        Counters.plus {} (start.messages operations) (start.decodeErrors operations) :=
      run_counters start operations
    rw [counted]
    exact Counters.toNat_plus (by omega)
  · intro payload
    rw [reply_payload, transport]
  · intro payload error malformed after counters
    rw [← transport] at malformed
    have left := step_malformed now malformed
    have same : after.muted = now.muted := (congrArg muted left).trans (muted_refused now error)
    refine ⟨?_, fun later => run_of_muted same later⟩
    rw [show after = now.refused error from left]
    rfl

/-- A payload that is no JSON text is counted beside a message of an unknown kind, and what follows
goes on as it would without it. -/
theorem message_stream_exact_no_json :
    let start : Recording :=
      ⟨{ config := {}, transcript := { limit := some 8 } },
        { canvas := ⟨800, 600⟩, window := ⟨1920, 1080⟩ }⟩
    let operations : List Operation :=
      [.signal (.print "first"), .signal (.payload "oops"), .signal (.dispatch (.unknown "x"))]
    let now := start.run operations
    let error := DecodeError.malformed "expected value at line 1 column 1"
    operations.countP Operation.isMessage < UInt64.size ∧
      now.session.counters.unknown.toNat =
        (start.messages operations).countP Message.isUnknown ∧
      decode .structured "oops" = .error error ∧
      ∀ later,
        ((now.step (.signal (.payload "oops"))).1.run later).muted = (now.run later).muted := by
  intro start operations now error
  have few : operations.countP Operation.isMessage < UInt64.size := by decide
  have malformed : decode .structured "oops" = .error error := rfl
  obtain ⟨-, -, counted, -, harmless⟩ :=
    message_stream_exact {} (some 8) ⟨800, 600⟩ ⟨1920, 1080⟩ operations
  exact ⟨few, (counted few).2.1, malformed, fun later =>
    ((harmless "oops" error malformed).2 later).1⟩

end Recording

end Embed
