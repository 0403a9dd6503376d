import ScopedTemplate.Number.Binary64

/-!
# Faults of fields

Why a value does not fit a field, and where.
-/

namespace ScopedTemplate

/-- Why a value does not fit. -/
inductive FieldFault where
  | integerExpected
  | integerText
  /-- An integer too large for its source. -/
  | integerSize
  | integerFraction
  | integerInfinite
  | belowLeast (least : Int)
  | aboveGreatest (greatest : Int)
  | flagExpected
  | flagText
  | textExpected
  | textEncoding
  | textEmpty
  | listExpected
  /-- A leaf type that is no dotted path. -/
  | leafNotDotted (path : String)
  | unknownField
  /-- A name that cannot be encoded. -/
  | nameEncoding
  /-- Settings do not change once they are made. -/
  | frozen
  deriving DecidableEq, Repr

namespace FieldFault

def code : FieldFault → String
  | .integerExpected => "int_type"
  | .integerText => "int_parsing"
  | .integerSize => "int_parsing_size"
  | .integerFraction => "int_from_float"
  | .integerInfinite => "finite_number"
  | .belowLeast _ => "greater_than_equal"
  | .aboveGreatest _ => "less_than_equal"
  | .flagExpected => "bool_type"
  | .flagText => "bool_parsing"
  | .textExpected => "string_type"
  | .textEncoding => "string_unicode"
  | .textEmpty => "string_too_short"
  | .listExpected => "list_type"
  | .leafNotDotted _ => "value_error"
  | .unknownField => "extra_forbidden"
  | .nameEncoding => "invalid_key"
  | .frozen => "frozen_instance"

def message : FieldFault → String
  | .integerExpected => "Input should be a valid integer"
  | .integerText => "Input should be a valid integer, unable to parse string as an integer"
  | .integerSize =>
    "Unable to parse input string as an integer, exceeded maximum size"
  | .integerFraction => "Input should be a valid integer, got a number with a fractional part"
  | .integerInfinite => "Input should be a finite number"
  | .belowLeast least => "Input should be greater than or equal to " ++ toString least
  | .aboveGreatest greatest => "Input should be less than or equal to " ++ toString greatest
  | .flagExpected => "Input should be a valid boolean"
  | .flagText => "Input should be a valid boolean, unable to interpret input"
  | .textExpected => "Input should be a valid string"
  | .textEncoding => "Input should be a valid string, unable to parse raw data as a unicode string"
  | .textEmpty => "String should have at least 1 character"
  | .listExpected => "Input should be a valid list"
  | .leafNotDotted path =>
    "Value error, Leaf type '" ++ path ++ "' must be a dotted path like 'module.Type'"
  | .unknownField => "Extra inputs are not permitted"
  | .nameEncoding => "Keys should be strings"
  | .frozen => "Instance is frozen"

end FieldFault

structure FieldError where
  location : List String
  fault : FieldFault
  deriving DecidableEq, Repr

abbrev Checked (α : Type) := Except (List FieldError) α

namespace Checked

variable {α β : Type}

/-- Apply a function; the faults of both sides are kept in order. -/
def apply (f : Checked (α → β)) (x : Checked α) : Checked β :=
  match f, x with
  | .ok f, .ok value => .ok (f value)
  | .ok _, .error errors => .error errors
  | .error errors, .ok _ => .error errors
  | .error errors, .error more => .error (errors ++ more)

def fail (field : String) (fault : FieldFault) : Checked α := .error [⟨[field], fault⟩]

def within (field : String) (result : Except FieldFault α) : Checked α :=
  match result with
  | .ok value => .ok value
  | .error fault => fail field fault

@[simp] theorem apply_ok_ok (f : α → β) (value : α) :
    apply (.ok f) (.ok value) = .ok (f value) := rfl

end Checked

end ScopedTemplate
