import Reply.Decimal
import Reply.Headers
import Reply.Payload

/-!
# Reply.Framing

How headers say where a body ends.

1. A known length is one Content-Length in decimal digits, without
   Transfer-Encoding.
2. An unknown length is one Transfer-Encoding, `chunked`, without
   Content-Length.
3. Headers announce a known length when their first Content-Length is a
   number of one word, with blanks around it and perhaps a plus sign before
   it; otherwise the length is unknown.
-/

namespace Reply

/-! ## reading an announced length -/

/-- Text without the blanks around it. -/
def trimBlanks (text : Bytes) : Bytes :=
  ((text.dropWhile isBlank).reverse.dropWhile isBlank).reverse

/-- A number of one word, perhaps behind a plus sign. -/
def word? (text : Bytes) : Option Nat :=
  let digits := match text with
    | 0x2b :: digits => digits
    | digits => digits
  (Decimal.value? digits).filter (· ≤ PayloadSize.maxLength)

namespace Headers

/-- The size that the headers of a peer announce. -/
def announcedSize (headers : Headers) : PayloadSize :=
  .ofLength? ((headers.visible? .contentLength).bind fun text => word? (trimBlanks text))

end Headers

/-! ## framing a body -/

namespace FieldValue

/-- A number in decimal digits. -/
def ofNat (n : Nat) : FieldValue where
  bytes := Decimal.digits n
  valid := List.all_eq_true.2 fun b h =>
    isFieldOctet_of_isDigit (List.all_eq_true.1 (Decimal.all_isDigit_digits n) b h)

/-- The transfer coding for a body of unknown length. -/
def chunked : FieldValue := ⟨Bytes.ascii "chunked", by decide⟩

end FieldValue

namespace Headers

/-- Replaces whatever framing there is by the one for this size. -/
def frame (headers : Headers) (size : PayloadSize) (bodyLength : Nat) : Headers :=
  match size with
  | .known _ => (headers.remove .transferEncoding).insert .contentLength (.ofNat bodyLength)
  | .chunked => (headers.remove .contentLength).insert .transferEncoding .chunked

end Headers

end Reply
