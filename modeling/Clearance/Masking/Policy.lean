import Clearance.Event
import Clearance.Masking.Redaction
import Clearance.Path.Access

/-!
# Field masks and masking policies

A mask names a field of a resource in dotted notation and the strategy to apply there; a policy
is a list of masks, each applied to what the one before it left. A field that is not there is
passed over, and nothing is ever added to a resource.

**Masking is all or nothing**: an application of a mask that fails or finds no field leaves the
resource as it was, and a policy with a failing mask gives no resource at all, so a value that
could not be masked never gets out.
-/

set_option autoImplicit false

namespace Clearance

/-- The kinds of value that no text strategy can mask. -/
inductive UnmaskableKind where
  | null
  | boolean
  | array
  | object
  deriving DecidableEq

def UnmaskableKind.text : UnmaskableKind → String
  | .null => "null"
  | .boolean => "a boolean"
  | .array => "an array"
  | .object => "an object"

inductive MaskError where
  /-- The text of the value does not have the shape of the pattern. -/
  | patternMismatch (field : String) (pattern : Pattern) (reason : Mismatch)
  /-- A text strategy met a value that has no text. -/
  | unsupported (field : String) (kind : UnmaskableKind) (strategy : Strategy)
  | emptyField
  deriving DecidableEq

def MaskError.message : MaskError → String
  | .patternMismatch field pattern reason =>
      "Value of field '" ++ field ++ "' does not match " ++ pattern.label ++ ": " ++ reason.text
  | .unsupported field kind strategy =>
      "Field '" ++ field ++ "' holds " ++ kind.text ++ ", which " ++ strategy.name
        ++ " cannot mask"
  | .emptyField => "Field mask has an empty field path"

/-- The text that strategies work on: a string itself, or the text of a number. -/
def Value.maskableText : Value → Except UnmaskableKind String
  | .text s => .ok s
  | .number n => .ok n.text
  | .null => .error .null
  | .bool _ => .error .boolean
  | .list _ => .error .array
  | .object _ => .error .object

/-- A field of a resource, in dotted notation, and what to do to it. -/
structure Mask where
  field : String
  strategy : Strategy
  deriving DecidableEq

/-- What applying a mask leaves: the resource, and whether the field was there to be masked. -/
structure Masked where
  resource : Value
  applied : Except MaskError Bool

namespace Mask

def path (mask : Mask) : Path := .ofDotted mask.field

def maskText (mask : Mask) (text : String) : Except MaskError String :=
  match mask.strategy.maskText text with
  | .ok masked => .ok masked
  | .error (pattern, reason) => .error (.patternMismatch mask.field pattern reason)

def replacement (mask : Mask) (old : Value) : Except MaskError Value :=
  match mask.strategy, old.maskableText with
  | .null, _ => .ok .null
  | _, .ok text => (mask.maskText text).map .text
  | strategy, .error kind => .error (.unsupported mask.field kind strategy)

def untouched (resource : Value) : Masked := ⟨resource, .ok false⟩

def apply (mask : Mask) (resource : Value) : Masked :=
  match mask.path.splitLast?, mask.strategy with
  | none, _ => ⟨resource, .error .emptyField⟩
  | some (parent, last), .remove =>
      match resource.erase? parent last with
      | some rest => ⟨rest, .ok true⟩
      | none => untouched resource
  | some _, _ =>
      match resource.resolve mask.path with
      | none => untouched resource
      | some old =>
          match mask.replacement old with
          | .error e => ⟨resource, .error e⟩
          | .ok new =>
              match resource.assign? mask.path new with
              | some rest => ⟨rest, .ok true⟩
              | none => untouched resource

end Mask

/-- Masks in the order in which they are applied. -/
abbrev Policy := List Mask

namespace Policy

/-- The resource that all masks of a policy leave, or the error of the first that fails, with an
event for each mask that did not. -/
def apply : Policy → Value → Traced (Except MaskError Value)
  | [], resource => ⟨.ok resource, []⟩
  | mask :: rest, resource =>
      match mask.apply resource with
      | ⟨_, .error e⟩ => ⟨.error e, []⟩
      | ⟨masked, .ok applied⟩ =>
          let after := apply rest masked
          ⟨after.result, .maskEvaluated mask.field mask.strategy.name applied :: after.events⟩

end Policy
end Clearance
