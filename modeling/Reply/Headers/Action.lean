import Reply.Headers
import Reply.Operation

/-!
# Reply.Headers.Action

Calls on headers as values, so that a whole run of them is a list.
-/

namespace Reply.Headers

/-- Something that is asked of headers. -/
inductive Action
  /-- Gives a name one value alone; the answer is its first value before. -/
  | insert (name : FieldName) (value : FieldValue)
  /-- Adds a value to a name; the answer says whether the name was there before. -/
  | append (name : FieldName) (value : FieldValue)
  /-- Takes a name out; the answer is its first value before. -/
  | remove (name : FieldName)
  /-- The answer is the first value. -/
  | get (name : FieldName)

/-- What a call on headers answers. -/
inductive Answer
  | value (value? : Option FieldValue)
  | present (present : Bool)

/-- Does what is asked. -/
def perform : Action → Operation Headers Answer
  | .insert name value => fun headers =>
    ⟨.value (headers.get? name), headers.insert name value, {}⟩
  | .append name value => fun headers =>
    ⟨.present (headers.get? name).isSome, headers.append name value, {}⟩
  | .remove name => fun headers => ⟨.value (headers.get? name), headers.remove name, {}⟩
  | .get name => fun headers => ⟨.value (headers.get? name), headers, {}⟩

end Reply.Headers
