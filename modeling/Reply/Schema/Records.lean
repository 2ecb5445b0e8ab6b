import Reply.Json.Form

/-!
# Reply.Schema.Records

Payloads that travel as JSON alone.
-/

namespace Reply.Schema

/-- A message and nothing else. -/
structure Plain where
  message : String := ""
deriving DecidableEq

instance : Json.Form Plain where
  toValue plain := .object [("message", .string plain.message)]
  decoder := Json.Decoder.record "Plain" {} [
    Json.Decoder.slot "message" Json.Decoder.string fun message plain => { plain with message }]

/-- An account and its labels. -/
structure Account where
  id : UInt64 := 0
  tags : List String := []
deriving DecidableEq

instance : Json.Form Account where
  toValue account := .object [
    ("id", Json.Form.toValue account.id),
    ("tags", Json.Form.toValue account.tags)]
  decoder := Json.Decoder.record "Account" {} [
    Json.Decoder.slot "id" Json.Decoder.uint64 fun id account => { account with id },
    Json.Decoder.slot "tags" (Json.Decoder.list Json.Decoder.string) fun tags account =>
      { account with tags }]

/-- Maps whose keys are lists of bytes. They have no JSON form: the first entry of a map is a
fault. -/
abbrev ByteMaps := List (List (Bytes × UInt8))

namespace ByteMaps

/-- What is written of the maps, and the fault that stops the writing, if any. -/
def write (maps : ByteMaps) : Bytes × Option Json.Error :=
  let empty := Bytes.ascii "\x7b\x7d"
  let before := maps.takeWhile (·.isEmpty)
  let written := 0x5b :: ((before.map fun _ => empty).intersperse [0x2c]).flatten
  if before.length = maps.length then (written ++ [0x5d], none)
  else (written ++ (if before.isEmpty then [] else [0x2c]) ++ [0x7b], some ⟨.keyNotString, none⟩)

end ByteMaps

end Reply.Schema
