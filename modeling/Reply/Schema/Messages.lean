import Reply.Protobuf.Form

/-!
# Reply.Schema.Messages

Payloads with a JSON and a protobuf form.
-/

namespace Reply.Schema

open Json.Decoder (record slot)

/-! ## greetings -/

/-- A greeting, how often it is given, and to whom. -/
structure Greeting where
  message : String := ""
  count : Int64 := 0
  names : List String := []
deriving DecidableEq

namespace Greeting

def marshal (g : Greeting) : Bytes :=
  Protobuf.putString 1 g.message ++ Protobuf.putWord 2 g.count.toUInt64 ++
    Protobuf.putStrings 3 g.names

def rules : List (Protobuf.Rule Greeting) := [
  Protobuf.string 1 "message" fun message g => { g with message },
  Protobuf.word 2 "count" fun n g => { g with count := n.toInt64 },
  Protobuf.string 3 "names" fun name g => { g with names := g.names ++ [name] }]

instance : Protobuf.Form Greeting where
  toValue g := .object [
    ("message", Json.Form.toValue g.message),
    ("count", Json.Form.toValue g.count),
    ("names", Json.Form.toValue g.names)]
  decoder := record "Greeting" {} [
    slot "message" Json.Decoder.string fun message g => { g with message },
    slot "count" Json.Decoder.int64 fun count g => { g with count },
    slot "names" (Json.Decoder.list Json.Decoder.string) fun names g => { g with names }]
  marshal := marshal
  unmarshal := Protobuf.decode (Protobuf.mergeField "Greeting" rules) {}

end Greeting

/-! ## points -/

/-- A point with a label. -/
structure Point where
  x : Int32 := 0
  y : Int32 := 0
  label : String := ""
deriving DecidableEq

namespace Point

def marshal (p : Point) : Bytes :=
  Protobuf.putWord 1 (Protobuf.zigzag p.x).toUInt64 ++
    Protobuf.putWord 2 (Protobuf.zigzag p.y).toUInt64 ++ Protobuf.putString 3 p.label

def rules : List (Protobuf.Rule Point) := [
  Protobuf.word 1 "x" fun n p => { p with x := Protobuf.unzigzag n.toUInt32 },
  Protobuf.word 2 "y" fun n p => { p with y := Protobuf.unzigzag n.toUInt32 },
  Protobuf.string 3 "label" fun label p => { p with label }]

instance : Protobuf.Form Point where
  toValue p := .object [
    ("x", Json.Form.toValue p.x),
    ("y", Json.Form.toValue p.y),
    ("label", Json.Form.toValue p.label)]
  decoder := record "Point" {} [
    slot "x" Json.Decoder.int32 fun x p => { p with x },
    slot "y" Json.Decoder.int32 fun y p => { p with y },
    slot "label" Json.Decoder.string fun label p => { p with label }]
  marshal := marshal
  unmarshal := Protobuf.decode (Protobuf.mergeField "Point" rules) {}

end Point

/-! ## pings -/

/-- A ping with its number in the sequence. -/
structure Ping where
  seq : UInt64 := 0
deriving DecidableEq

namespace Ping

def rules : List (Protobuf.Rule Ping) := [Protobuf.word 1 "seq" fun seq p => { p with seq }]

instance : Protobuf.Form Ping where
  toValue p := .object [("seq", Json.Form.toValue p.seq)]
  decoder := record "Ping" {} [slot "seq" Json.Decoder.uint64 fun seq p => { p with seq }]
  marshal p := Protobuf.putWord 1 p.seq
  unmarshal := Protobuf.decode (Protobuf.mergeField "Ping" rules) {}

end Ping

/-! ## trees -/

/-- A tree of numbered nodes. -/
inductive Tree
  | node (id : UInt64) (children : List Tree)

namespace Tree

def id : Tree → UInt64
  | node id _ => id

def children : Tree → List Tree
  | node _ children => children

def blank : Tree := node 0 []

mutual

def toValue : Tree → Json.Value
  | node id children =>
    .object [("id", Json.Form.toValue id), ("children", .list (toValues children))]

def toValues : List Tree → List Json.Value
  | [] => []
  | tree :: rest => tree.toValue :: toValues rest

end

/-- Trees of at most so many levels. -/
def decoderWithin : Nat → Json.Decoder Tree
  | 0 => fun _ => Json.Reader.failNext .recursionLimit
  | levels + 1 => record "Tree" blank [
    slot "id" Json.Decoder.uint64 fun id tree => node id tree.children,
    slot "children" (Json.Decoder.list (decoderWithin levels)) fun children tree =>
      node tree.id children]

/-- Each level of a tree opens a bracket, so the limit on brackets bounds the levels. -/
def decoder : Json.Decoder Tree := fun nesting => decoderWithin (nesting + 1) nesting

mutual

def marshal : Tree → Bytes
  | node id children => Protobuf.putWord 1 id ++ marshalAll children

def marshalAll : List Tree → Bytes
  | [] => []
  | tree :: rest => Protobuf.putMessage 2 tree.marshal ++ marshalAll rest

end

/-- The fields of a tree whose children are read by `child`. -/
def rules (child : Tree → Protobuf.Input → Except Protobuf.DecodeError (Tree × Protobuf.Input)) :
    List (Protobuf.Rule Tree) := [
  Protobuf.word 1 "id" fun id tree => node id tree.children,
  Protobuf.message 2 "children" blank child fun inner tree =>
    node tree.id (tree.children ++ [inner])]

/-- Reads one field of a tree with so many levels below it. -/
def field : Nat → Tree → Protobuf.Input → Except Protobuf.DecodeError (Tree × Protobuf.Input)
  | 0 => Protobuf.mergeField "Tree" (rules fun _ _ => .error { fault := .recursionLimit }) 0
  | depth + 1 => Protobuf.mergeField "Tree" (rules (field depth)) (depth + 1)

instance : Protobuf.Form Tree where
  toValue := toValue
  decoder := decoder
  marshal := marshal
  unmarshal := Protobuf.decode field blank

end Tree

end Reply.Schema
