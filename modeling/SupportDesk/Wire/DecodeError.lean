/-
# Why a message is refused

A text or a byte sequence that should hold a message fails in one of two ways: it breaks
the rules of its format, or it is well formed and does not have the shape of the message.
The shape errors that concern a named field or variant have a text of their own.
-/

namespace SupportDesk

/-- The reasons for which a message is refused. -/
inductive DecodeError
  /-- The format's own rules are broken. -/
  | malformed
  /-- A value has the wrong type, the wrong length or an unusable content. -/
  | unsuitable
  | missingField (name : String)
  | duplicateField (name : String)
  | unknownVariant (name : String) (expected : List String)
deriving DecidableEq, Repr, Inhabited

namespace DecodeError

/-- A name between grave accents. -/
def quoted (name : String) : String := "`" ++ name ++ "`"

/-- What an unknown variant should have been. -/
def expectation : List String → String
  | [] => "there are no variants"
  | [a] => "expected " ++ quoted a
  | [a, b] => "expected " ++ quoted a ++ " or " ++ quoted b
  | names => "expected one of " ++ ", ".intercalate (names.map quoted)

/-- The text of the errors that have one. -/
def message? : DecodeError → Option String
  | malformed => none
  | unsuitable => none
  | missingField name => some ("missing field " ++ quoted name)
  | duplicateField name => some ("duplicate field " ++ quoted name)
  | unknownVariant name expected =>
    some ("unknown variant " ++ quoted name ++ ", " ++ expectation expected)

end DecodeError

end SupportDesk
