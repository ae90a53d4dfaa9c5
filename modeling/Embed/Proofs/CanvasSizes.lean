import Embed.Proofs.Independence
/-!
# The sizes that a canvas is given

A canvas is given a size by a message, when it begins to fill the window, with the platform or
without it, when it no longer does, and when the window that it fills changes. Each way has a guard
of its own against sizes that would collapse the canvas. A message with such a size is not decoded,
a window of such a size gives none, and a size that was kept is not given back if it is one. So no
run gives a canvas such a size, whatever size the canvas had when it was kept.
-/

namespace Embed

/-- A size under which a canvas is not collapsed. -/
structure Size.Solid (size : Size) : Prop where
  /-- It is not zero across. -/
  width : size.width ≠ 0
  /-- It is not zero down. -/
  height : size.height ≠ 0

/-- What is not empty is solid. -/
theorem Size.solid_of_nonempty? {size given : Size} (is : size.nonempty? = some given) :
    given.Solid := by
  unfold nonempty? at is
  by_cases empty : size.isEmpty = true
  · rw [if_pos empty] at is
    contradiction
  · rw [if_neg empty] at is
    obtain rfl := Option.some.inj is
    unfold isEmpty at empty
    rw [Bool.or_eq_true, beq_iff_eq, beq_iff_eq, not_or] at empty
    exact ⟨empty.1, empty.2⟩

/-- A number that fits a word is zero as a word only if it is zero. -/
theorem eq_zero_of_word {n : Nat} (small : n < UInt32.size) (zero : UInt32.ofNat n = 0) :
    n = 0 := by
  rw [← UInt32.toNat_ofNat_of_lt' small, zero]
  rfl

/-- A number of pixels that is read is not zero. -/
theorem asPixels_ne_zero {value : Json.Value} {pixels : UInt32}
    (read : asPixels value = .ok pixels) : pixels ≠ 0 := by
  unfold asPixels at read
  split at read
  · rename_i i
    by_cases inside : 0 < i.val ∧ i.val < 0x100000000
    · rw [if_pos inside] at read
      obtain rfl := Except.ok.inj read
      intro zero
      have small : i.val.toNat < UInt32.size := by
        unfold UInt32.size
        omega
      have none := eq_zero_of_word small zero
      omega
    · rw [if_neg inside] at read
      contradiction
  · contradiction

/-- A member that was read was read from some value. -/
theorem Fields.exists_of_read? {α : Type} {fields : Fields} {name : String}
    {reading : Json.Value → Except Json.Mismatch α} {found : Option α} {a : α}
    (read : fields.read? name reading = .ok found) (demanded : demand name found = .ok a) :
    ∃ value, reading value = .ok a := by
  cases found with
  | none => contradiction
  | some b =>
    obtain rfl : b = a := Except.ok.inj demanded
    unfold read? at read
    cases looked : fields.lookup name with
    | none => simp [looked] at read
    | some value =>
      rw [looked] at read
      dsimp only at read
      cases result : reading value with
      | error mismatch => simp [result, Except.map] at read
      | ok c =>
        rw [result] at read
        obtain rfl : c = b := Option.some.inj (Except.ok.inj read)
        exact ⟨value, result⟩

/-- The size of a record is solid. -/
theorem solid_of_resizeSize {fields : Fields} {size : Size} (read : resizeSize fields = .ok size) :
    size.Solid := by
  unfold resizeSize at read
  cases height : fields.read? "h" asPixels with
  | error mismatch => simp [height, bind, Except.bind] at read
  | ok height? =>
    cases width : fields.read? "w" asPixels with
    | error mismatch => simp [height, width, bind, Except.bind] at read
    | ok width? =>
      cases across : demand "w" width? with
      | error mismatch => simp [height, width, across, bind, Except.bind] at read
      | ok w =>
        cases down : demand "h" height? with
        | error mismatch => simp [height, width, across, down, bind, Except.bind] at read
        | ok h =>
          simp only [height, width, across, down, bind, Except.bind, pure, Except.pure,
            Except.ok.injEq] at read
          obtain ⟨_, readWidth⟩ := Fields.exists_of_read? width across
          obtain ⟨_, readHeight⟩ := Fields.exists_of_read? height down
          rw [← read]
          exact ⟨asPixels_ne_zero readWidth, asPixels_ne_zero readHeight⟩

/-- A message that some payload decodes to. -/
def Message.Decodable (message : Message) : Prop :=
  ∃ transport payload, decode transport payload = .ok message

/-- A record of a known kind gives a solid size, if any. -/
theorem solid_of_decodeKind {kind : String} {fields : Fields} {message : Message} {size : Size}
    (decoded : decodeKind kind fields = .ok message) (sizes : message.canvasSize = some size) :
    size.Solid := by
  unfold decodeKind at decoded
  split at decoded
  · cases line : logLine fields with
    | error mismatch => simp [line, inKind, Except.map] at decoded
    | ok line =>
      simp only [line, inKind, Except.map, Except.ok.injEq] at decoded
      subst decoded
      contradiction
  · split at decoded
    · cases read : resizeSize fields with
      | error mismatch => simp [read, inKind, Except.map] at decoded
      | ok size' =>
        simp only [read, inKind, Except.map, Except.ok.injEq] at decoded
        subst decoded
        obtain rfl : size' = size := Option.some.inj sizes
        exact solid_of_resizeSize read
    · obtain rfl := Except.ok.inj decoded
      contradiction

/-- A message that was decoded gives a solid size, if any. -/
theorem Message.Decodable.solid {message : Message} (decodable : message.Decodable) {size : Size}
    (sizes : message.canvasSize = some size) : size.Solid := by
  obtain ⟨transport, payload, decoded⟩ := decodable
  cases transport with
  | plain =>
    obtain rfl := Except.ok.inj decoded
    contradiction
  | structured =>
    simp only [decode, decodeStructured] at decoded
    split at decoded
    · contradiction
    · unfold decodeValue at decoded
      split at decoded
      · split at decoded
        · exact solid_of_decodeKind decoded sizes
        · contradiction
      · contradiction

namespace Viewport

variable {v : Viewport} {current window size : Size}

/-- A size that is given back is solid. -/
theorem solid_of_restored? (given : v.restored? = some size) : size.Solid := by
  obtain ⟨kept, -, is⟩ := Option.bind_eq_some_iff.mp given
  exact Size.solid_of_nonempty? is

/-- The platform's fullscreen gives solid sizes. -/
theorem solid_of_change {fullscreen : Bool}
    (given : (v.change fullscreen current window).2 = some size) : size.Solid := by
  unfold change at given
  split at given
  · exact Size.solid_of_nonempty? given
  · unfold exited at given
    split at given
    · contradiction
    · exact solid_of_restored? given

/-- Filling the window without the platform gives solid sizes. -/
theorem solid_of_enterSoft (given : (v.enterSoft current window).2 = some size) : size.Solid := by
  unfold enterSoft at given
  split at given
  · contradiction
  · exact Size.solid_of_nonempty? given

/-- No longer filling the window without the platform gives solid sizes. -/
theorem solid_of_leaveSoft (given : v.leaveSoft.2 = some size) : size.Solid := by
  unfold leaveSoft at given
  split at given
  · exact solid_of_restored? given
  · contradiction

/-- A window that changes gives solid sizes. -/
theorem solid_of_windowResized (given : v.windowResized window = some size) : size.Solid := by
  unfold windowResized at given
  split at given
  · contradiction
  · exact Size.solid_of_nonempty? given

end Viewport

/-- A signal whose message, if it brings one that is decoded, some payload decodes to. -/
def Signal.Decodable : Signal → Prop
  | .dispatch message => message.Decodable
  | _ => True

namespace Session

/-- The presentation after a signal gives a solid size, if any. -/
theorem solid_of_presentation {s : Session} {geometry : Geometry} {signal : Signal}
    (decodable : signal.Decodable) {size : Size}
    (given : (s.presentation geometry signal).2 = some size) : size.Solid := by
  cases signal with
  | fullscreenChange => exact Viewport.solid_of_change given
  | enterSoft => exact Viewport.solid_of_enterSoft given
  | leaveSoft => exact Viewport.solid_of_leaveSoft given
  | windowResize =>
    simp only [presentation] at given
    split at given
    · exact Viewport.solid_of_windowResized given
    · contradiction
  | dispatch message => exact Message.Decodable.solid decodable given
  | payload text =>
    simp only [presentation, Signal.messageSize?] at given
    split at given
    · rename_i message decoded
      exact Message.Decodable.solid ⟨_, _, decoded⟩ given
    · contradiction
  | life | status | print => contradiction

/-- Carrying out a message gives the canvas no size but that of the message. -/
theorem dispatch_sized (s : Session) (message : Message) :
    ∀ effect ∈ (s.dispatch message).effects, ∀ size, effect.canvas? = some size →
      message.canvasSize = some size := by
  cases message <;> simp [dispatch, append, Message.outputText, Message.canvasSize, Effect.canvas?]

/-- A new presentation gives the canvas no size but its own. -/
theorem present_sized (s : Session) (change : Viewport × Option Size) :
    ∀ effect ∈ (s.present change).effects, ∀ size, effect.canvas? = some size →
      change.2 = some size := by
  obtain ⟨viewport, given⟩ := change
  cases given <;> simp [present, Effect.canvas?]

/-- A signal gives the canvas no size but that of its presentation. -/
theorem receiveSignal_sized (s : Session) (geometry : Geometry) (signal : Signal) :
    ∀ effect ∈ (s.receiveSignal geometry signal).effects, ∀ size, effect.canvas? = some size →
      (s.presentation geometry signal).2 = some size := by
  intro effect member size sizes
  cases signal with
  | life | status =>
    -- What the page shows of the module's life is never a size.
    have life := s.effects_isLife geometry _ effect member
    cases effect with
    | output | visible | canvas | status | progress => contradiction
  | payload text =>
    simp only [receiveSignal, receive, presentation, Signal.messageSize?] at member ⊢
    cases decoded : decode s.config.transport text with
    | ok message =>
      rw [decoded] at member
      exact dispatch_sized s message effect member size sizes
    | error error =>
      rw [decoded] at member
      obtain rfl := List.mem_singleton.mp member
      contradiction
  | dispatch message => exact dispatch_sized s message effect member size sizes
  | print line =>
    obtain rfl := List.mem_singleton.mp member
    contradiction
  | fullscreenChange | enterSoft | leaveSoft => exact present_sized s _ effect member size sizes
  | windowResize =>
    simp only [receiveSignal, windowResized, presentation] at member ⊢
    by_cases tracked : s.config.trackWindowSize = true
    · rw [if_pos tracked] at member ⊢
      cases follows : s.viewport.windowResized geometry.window with
      | none => simp [follows] at member
      | some given =>
        simp only [follows] at member
        split at member
        · contradiction
        · obtain rfl := List.mem_singleton.mp member
          exact sizes
    · rw [if_neg tracked] at member
      contradiction

/-- Every size that a signal gives the canvas is solid. -/
theorem solid_of_mem {s : Session} {geometry : Geometry} {signal : Signal}
    (decodable : signal.Decodable) {effect : Effect}
    (member : effect ∈ (s.receiveSignal geometry signal).effects) {size : Size}
    (sizes : effect.canvas? = some size) : size.Solid :=
  solid_of_presentation decodable (s.receiveSignal_sized geometry signal effect member size sizes)

end Session

/-- A recorded page has the last size that effects give the canvas, and counts them all. -/
theorem Display.applyAll_sizes (display : Display) (effects : List Effect) :
    (display.applyAll effects).canvas =
        (effects.filterMap Effect.canvas?).getLastD display.canvas ∧
      (display.applyAll effects).assignments =
        display.assignments + (effects.filterMap Effect.canvas?).length := by
  induction effects generalizing display with
  | nil => exact ⟨rfl, rfl⟩
  | cons effect effects ih =>
    obtain ⟨canvas, assignments⟩ := ih (display.apply effect)
    rw [applyAll_cons, canvas, assignments]
    cases effect with
    | canvas size =>
      have first : (Effect.canvas size :: effects).filterMap Effect.canvas? =
          size :: effects.filterMap Effect.canvas? := rfl
      rw [first, List.getLastD_cons, List.length_cons]
      refine ⟨rfl, ?_⟩
      simp only [apply]
      omega
    | output | visible | status | progress => exact ⟨rfl, rfl⟩

namespace Recording

/-- An operation whose message, if it brings one that is decoded, some payload decodes to. -/
def Operation.Decodable : Operation → Prop
  | .signal told => told.Decodable
  | _ => True

/-- The sizes that an operation gives the canvas, in order. -/
def given (r : Recording) : Operation → List Size
  | .signal signal =>
    (r.session.receiveSignal r.display.geometry signal).effects.filterMap Effect.canvas?
  | _ => []

/-- The sizes that a run gives the canvas, in order. -/
def assigned (r : Recording) : List Operation → List Size
  | [] => []
  | operation :: later => r.given operation ++ (r.step operation).1.assigned later

/-- An operation gives the canvas solid sizes only. -/
theorem solid_given (r : Recording) {operation : Operation} (decodable : operation.Decodable) :
    ∀ size ∈ r.given operation, size.Solid := by
  intro size member
  cases operation with
  | signal signal =>
    obtain ⟨effect, inside, sizes⟩ := List.mem_filterMap.mp member
    exact Session.solid_of_mem decodable inside sizes
  | requestFullscreen | setWindow | setRefusal => contradiction

/-- A run gives the canvas solid sizes only. -/
theorem solid_assigned (r : Recording) {operations : List Operation}
    (decodable : ∀ operation ∈ operations, operation.Decodable) :
    ∀ size ∈ r.assigned operations, size.Solid := by
  induction operations generalizing r with
  | nil => exact fun size member => by contradiction
  | cons first later ih =>
    intro size member
    rcases List.mem_append.mp member with now | after
    · exact r.solid_given (decodable first List.mem_cons_self) size now
    · apply ih (r.step first).1 (fun operation inside => ?_) size after
      exact decodable operation (List.mem_cons_of_mem first inside)

/-- After an operation the canvas has the last size it was given, and all of them are counted. -/
theorem step_sizes (r : Recording) (operation : Operation) :
    (r.step operation).1.display.canvas = (r.given operation).getLastD r.display.canvas ∧
      (r.step operation).1.display.assignments =
        r.display.assignments + (r.given operation).length := by
  cases operation with
  | signal signal => exact r.display.applyAll_sizes _
  | requestFullscreen =>
    simp only [step, requestFullscreen]
    cases r.display.refusal <;> exact ⟨rfl, rfl⟩
  | setWindow | setRefusal => exact ⟨rfl, rfl⟩

/-- After a run the canvas has the last size it was given, and all of them are counted. -/
theorem run_sizes (r : Recording) (operations : List Operation) :
    (r.run operations).display.canvas = (r.assigned operations).getLastD r.display.canvas ∧
      (r.run operations).display.assignments =
        r.display.assignments + (r.assigned operations).length := by
  induction operations generalizing r with
  | nil => exact ⟨rfl, rfl⟩
  | cons first later ih =>
    obtain ⟨canvas, assignments⟩ := r.step_sizes first
    obtain ⟨finalCanvas, finalAssignments⟩ := ih (r.step first).1
    rw [run_cons, finalCanvas, finalAssignments, canvas, assignments]
    refine ⟨?_, ?_⟩
    · simp only [assigned, List.getLastD_eq_getLast?, List.getLast?_append]
      cases ((r.step first).1.assigned later).getLast? <;> rfl
    · simp only [assigned, List.length_append]
      omega

/-- A solid canvas stays solid. -/
theorem solid_run (r : Recording) {operations : List Operation}
    (decodable : ∀ operation ∈ operations, operation.Decodable) (solid : r.display.canvas.Solid) :
    (r.run operations).display.canvas.Solid := by
  rw [(r.run_sizes operations).1]
  have last : (r.assigned operations).getLastD r.display.canvas ∈
      r.display.canvas :: r.assigned operations := List.getLastD_mem_cons
  rcases List.mem_cons.mp last with kept | given
  · rw [kept]
    exact solid
  · exact r.solid_assigned decodable _ given

end Recording

end Embed
