import Reply.Json.Decoder

/-!
# Reply.Json.Form

Types with a JSON form: how a value is written, and how one is read.
-/

namespace Reply.Json

/-- A type with a JSON form. -/
class Form (α : Type) where
  toValue : α → Value
  decoder : Decoder α

/-- The JSON text of a value. -/
def encode {α : Type} [Form α] (a : α) : Bytes := (Form.toValue a).write

/-- A map from keys, in the order of the keys. -/
structure Dictionary (α : Type) where
  entries : List (String × α)

variable {α β : Type}

instance : Form Value := ⟨id, Decoder.any⟩
instance : Form String := ⟨.string, Decoder.string⟩
instance : Form Bool := ⟨.boolean, Decoder.boolean⟩
instance : Form UInt8 := ⟨fun n => .integer n.toNat, Decoder.uint8⟩
instance : Form UInt64 := ⟨fun n => .integer n.toNat, Decoder.uint64⟩
instance : Form Int32 := ⟨fun n => .integer n.toInt, Decoder.int32⟩
instance : Form Int64 := ⟨fun n => .integer n.toInt, Decoder.int64⟩

/-- Null for nothing. -/
instance [Form α] : Form (Option α) where
  toValue
    | some a => Form.toValue a
    | none => .null
  decoder := Decoder.option Form.decoder

instance [Form α] : Form (List α) where
  toValue as := .list (as.map Form.toValue)
  decoder := Decoder.list Form.decoder

/-- A pair is a list of two elements. -/
instance [Form α] [Form β] : Form (α × β) where
  toValue p := .list [Form.toValue p.1, Form.toValue p.2]
  decoder := Decoder.pair Form.decoder Form.decoder

instance [Form α] : Form (Dictionary α) where
  toValue d := .object (d.entries.map fun entry => (entry.1, Form.toValue entry.2))
  decoder nesting := Dictionary.mk <$> Decoder.map Form.decoder nesting

end Reply.Json
