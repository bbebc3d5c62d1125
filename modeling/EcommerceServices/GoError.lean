namespace EcommerceServices

/-!
# Go errors

A Go `error` is modelled by the text its `Error()` returns; nil is the
absence of a value (`Option`), or the success branch of `Except`.  Every
error path of the modelled functions returns its cause wrapped with
`errors.WrapIf`, which puts an annotation in front of the cause's text.
-/

/-- A Go `error` value, by the text of its `Error()`. -/
structure GoError where
  message : String
  deriving DecidableEq, Repr

/-- `errors.WrapIf(err, message)` at a non-nil `err`: the annotation is put in
front of the wrapped error's text, as a wrapped error prints. -/
def GoError.wrapIf (err : GoError) (message : String) : GoError :=
  ⟨message ++ ": " ++ err.message⟩

end EcommerceServices
