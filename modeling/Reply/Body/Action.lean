import Reply.Body

/-!
# Reply.Body.Action

Calls on a body as values, so that a whole run of them is a list.
-/

namespace Reply.Body

/-- Something that is asked of a body. -/
inductive Action
  | write (data : Bytes)
  | writeAll (data : Bytes)
  | writeInPlace (data : Bytes)
  | flush
  | read (room : Nat)
  | readToEnd
  | readAll
  | snapshot
  | close
  | replace (body : Body)

/-- What a call on a body answers. -/
inductive Answer
  /-- The number of bytes taken. -/
  | count (answer : Except IoError Nat)
  | outcome (answer : Except IoError Unit)
  | bytes (answer : Except IoError Bytes)
  /-- The number of bytes taken, if the body can be written to as it is. -/
  | offered (answer? : Option (Except IoError Nat))
  /-- What was read, and the failure that stopped it. -/
  | drained (bytes : Bytes) (failure? : Option IoError)
  | done

/-- Does what is asked. -/
def perform : Action → Operation Body Answer
  | .write data => .count <$> write data
  | .writeAll data => .outcome <$> writeAll data
  | .writeInPlace data => .offered <$> writeInPlace data
  | .flush => .outcome <$> flush
  | .read room => .bytes <$> read room
  | .readToEnd => (fun (bytes, failure?) => .drained bytes failure?) <$> readToEnd
  | .readAll => .bytes <$> readAll
  | .snapshot => .bytes <$> snapshot
  | .close => .outcome <$> close
  | .replace body => (fun _ => .done) <$> replace body

end Reply.Body
