import ImageVerification.Event

/-! Lines of the log. -/

namespace ImageVerification

/-- An event and where it comes from. -/
structure LogLine where
  target : String
  event : Event
deriving DecidableEq

namespace FieldValue

/-- The words of another reader are left out. -/
def render : FieldValue → String
  | .text value => Text.quoted value
  | .shown value => value
  | .unreadable _ => ""
  | .natural value => String.ofList (Decimal.digits value)
  | .bool value => if value then "true" else "false"
  | .double value => String.ofList (value.text?.getD "NaN".toList)

end FieldValue

namespace LogLine

def renderFields (fields : List (String × FieldValue)) : String :=
  String.join (fields.map fun (key, value) => " " ++ key ++ "=" ++ value.render)

/-- The level, where the event comes from, its message and its fields. -/
def render (line : LogLine) : String :=
  line.event.level.name ++ " " ++ line.target ++ ": " ++ line.event.message
    ++ renderFields line.event.fields

end LogLine

end ImageVerification
