/-!
# JSON values

A JSON document as a value. Objects keep their members in the order written, repeated names
included. A text, or the name of a member, may be written with an escape for half of a surrogate
pair, which stands for no character; a text or an object with such an escape is `unreadable`: it
is well-formed JSON, and no value is in it.
-/

namespace TrainingPortal

/-- A JSON value. -/
inductive Json
  | null
  | bool (b : Bool)
  /-- A number written without fraction and exponent, other than `-0`. -/
  | integer (n : Int)
  /-- Any other number, as it was written. -/
  | real (digits : String)
  | text (s : String)
  | array (items : List Json)
  | object (members : List (String × Json))
  /-- A text or an object with an escape that stands for no character. -/
  | unreadable
  deriving Inhabited

end TrainingPortal
