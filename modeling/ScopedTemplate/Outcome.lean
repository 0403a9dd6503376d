import ScopedTemplate.Failure

/-!
# Outcomes of analyses

An analysis succeeds with a value or fails with an error text, and may carry further data.
-/

namespace ScopedTemplate

/-- Whether an analysis succeeded. -/
inductive Status where
  | success
  | failed
  deriving DecidableEq, Repr

namespace Status

def word : Status → String
  | .success => "success"
  | .failed => "failed"

def ofWord (word : String) : Except Failure Status :=
  if word = "success" then .ok .success
  else if word = "failed" then .ok .failed
  else .error (.value (.unknownStatus (Text.quote word)))

end Status

structure Outcome (α : Type) where
  status : Status
  value : Option α
  error : Option String
  metadata : Entries

namespace Outcome

variable {α : Type}

def make (status : Status) (value : Option α) (error : Option String) (metadata : Entries) :
    Except Failure (Outcome α) :=
  match status with
  | .success =>
    if value.isNone then .error (.value .successWithoutValue)
    else .ok ⟨status, value, error, metadata⟩
  | .failed =>
    if error.getD "" = "" then .error (.value .failureWithoutError)
    else .ok ⟨status, value, error, metadata⟩

def isSuccess (outcome : Outcome α) : Bool := outcome.status == .success

def isFailure (outcome : Outcome α) : Bool := outcome.status == .failed

def unwrap (outcome : Outcome α) : Except Failure α :=
  if outcome.isSuccess then
    match outcome.value with
    | some value => .ok value
    | none => .error (.value .unwrapEmpty)
  else .error (.value (.unwrapFailed (outcome.error.getD "None")))

def unwrapOr (outcome : Outcome α) (fallback : α) : α :=
  if outcome.isSuccess then outcome.value.getD fallback else fallback

end Outcome

end ScopedTemplate
