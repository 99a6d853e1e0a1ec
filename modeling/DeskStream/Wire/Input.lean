import DeskStream.Wire.Error
/-!
# Input events

    kind 1 | data

An axis position in [-1, 1] is sent as a signed 16-bit word, 32767 for one, cut toward zero.
-/

namespace DeskStream.Wire

/-- What the user did. -/
inductive InputKind where
  | keyPress | keyRelease | mouseMove | mouseButton | gamepadButton | gamepadAxis | touch
  deriving Repr, DecidableEq

namespace InputKind

/-- What a kind is called in reports. -/
def name : InputKind → String
  | keyPress => "KeyPress"
  | keyRelease => "KeyRelease"
  | mouseMove => "MouseMove"
  | mouseButton => "MouseButton"
  | gamepadButton => "GamepadButton"
  | gamepadAxis => "GamepadAxis"
  | touch => "Touch"

/-- The octet that stands for a kind. -/
def tag : InputKind → UInt8
  | keyPress => 1
  | keyRelease => 2
  | mouseMove => 3
  | mouseButton => 4
  | gamepadButton => 5
  | gamepadAxis => 6
  | touch => 7

/-- The kind an octet stands for. -/
def ofTag? : UInt8 → Option InputKind
  | 1 => some keyPress
  | 2 => some keyRelease
  | 3 => some mouseMove
  | 4 => some mouseButton
  | 5 => some gamepadButton
  | 6 => some gamepadAxis
  | 7 => some touch
  | _ => none

theorem ofTag?_tag (k : InputKind) : ofTag? k.tag = some k := by cases k <;> rfl

theorem tag_of_ofTag? {o : UInt8} {k : InputKind} (h : ofTag? o = some k) : k.tag = o := by
  unfold ofTag? at h
  split at h <;> simp_all <;> subst h <;> rfl

end InputKind

/-- An input event relayed to the host. -/
structure InputEvent where
  kind : InputKind
  data : Bytes
  deriving Repr, DecidableEq

namespace InputEvent

/-- The payload of an event. -/
def encode (e : InputEvent) : Bytes := e.kind.tag :: e.data

/-- The event of a payload. -/
def decode : Bytes → Except WireError InputEvent
  | [] => .error (.truncated .input 1 0)
  | o :: data =>
    match InputKind.ofTag? o with
    | none => .error (.unknownInput o)
    | some kind => .ok { kind, data }

/-! ## Events by what happened -/

/-- A key with the platform's code goes down or up. -/
def key (code : UInt32) (pressed : Bool) : InputEvent :=
  ⟨if pressed then .keyPress else .keyRelease, Bytes.ofUInt32 code⟩

/-- The mouse moves by a distance. -/
def mouseMove (dx dy : Int16) : InputEvent :=
  ⟨.mouseMove, Bytes.ofUInt16 dx.toUInt16 ++ Bytes.ofUInt16 dy.toUInt16⟩

/-- An axis position as a 16-bit word: limited to [-1, 1], scaled, cut toward zero; nothing for a
position that is no number. -/
def quantise (position : Float32) : Int16 :=
  let limited := if position < -1.0 then -1.0 else if position > 1.0 then 1.0 else position
  (limited * 32767.0).toInt16

/-- A gamepad axis moves to a position. -/
def gamepadAxis (axis : UInt8) (position : Float32) : InputEvent :=
  ⟨.gamepadAxis, axis :: Bytes.ofUInt16 (quantise position).toUInt16⟩

end InputEvent
end DeskStream.Wire
