import Reply.Bytes

/-!
# Reply.Uri

Request targets.

1. `*` alone, a path with an optional query, an authority alone, or a scheme,
   an authority and what follows it.
2. A path ends at the first question mark, a query at the first number sign;
   what follows a number sign is cut off unread.
3. An authority ends at the first slash, question mark or number sign. At most
   one colon stands behind its user information and brackets, a percent sign
   only before an at sign or inside brackets, and something follows every
   at sign.
-/

namespace Reply

/-- A request target. -/
structure Uri where
  scheme : Option Bytes := none
  authority : Bytes := []
  /-- The path as it was written; it may be empty behind an authority. -/
  written : Bytes := []
  query : Option Bytes := none
deriving DecidableEq

namespace Uri

/-- The greatest number of octets a target may have. -/
def maxLength : Nat := 65534

def star : UInt8 := 0x2a
def slash : UInt8 := 0x2f
def colon : UInt8 := 0x3a
def questionMark : UInt8 := 0x3f
def numberSign : UInt8 := 0x23

/-- The target `/`. -/
def root : Uri := { written := [slash] }

/-- The path; an empty one counts as `/` where a scheme or a query stands. -/
def path (uri : Uri) : Bytes :=
  if uri.written.isEmpty && (uri.scheme.isSome || uri.query.isSome) then [slash] else uri.written

/-- The target as text. -/
def render (uri : Uri) : Bytes :=
  (match uri.scheme with
    | some scheme => scheme ++ Bytes.ascii "://"
    | none => []) ++
  uri.authority ++ uri.path ++
  (match uri.query with
    | some query => questionMark :: query
    | none => [])

/-! ## paths and queries -/

/-- An octet of a path: what need not be escaped there, the quote and the two braces, which
some clients leave as they are, and all octets from 0x80 on. -/
def isPathOctet (b : UInt8) : Bool :=
  b == 0x21 || b == 0x22 || (0x24 ≤ b && b ≤ 0x3b) || b == 0x3d || (0x40 ≤ b && b ≤ 0x5f) ||
    (0x61 ≤ b && b ≤ 0x7e) || 0x80 ≤ b

/-- An octet of a query. -/
def isQueryOctet (b : UInt8) : Bool :=
  b == 0x21 || (0x24 ≤ b && b ≤ 0x3b) || b == 0x3d || (0x3f ≤ b && b != 0x7f)

/-- Reads a path and its query behind a scheme and an authority. -/
def withTarget? (uri : Uri) (text : Bytes) : Option Uri :=
  let kept := text.takeWhile (· != numberSign)
  let written := kept.takeWhile (· != questionMark)
  let behind := kept.dropWhile (· != questionMark)
  if written.all isPathOctet && (behind.drop 1).all isQueryOctet then
    some { uri with written, query := if behind.isEmpty then none else some (behind.drop 1) }
  else none

/-! ## authorities -/

/-- The marks a target may hold unescaped besides letters and digits: ``!$&'()*+,;=-._~:@[]``. -/
def isUriMark (b : UInt8) : Bool :=
  b == 0x21 || b == 0x24 || (0x26 ≤ b && b ≤ 0x2e) || b == 0x3a || b == 0x3b || b == 0x3d ||
    b == 0x40 || b == 0x5b || b == 0x5d || b == 0x5f || b == 0x7e

/-- What is known of an authority up to some octet. -/
structure Authority where
  /-- Colons behind the last at sign or closing bracket. -/
  colons : Nat := 0
  opened : Bool := false
  closed : Bool := false
  /-- The last octet is an at sign. -/
  atLast : Bool := false
  /-- A percent sign stands behind the last at sign or closing bracket. -/
  percent : Bool := false

/-- The greatest number of colons counted together, as in a full address of six groups and more. -/
def Authority.maxColons : Nat := 8

/-- Takes in one more octet of the authority. -/
def Authority.next? (seen : Authority) (b : UInt8) : Option Authority :=
  let seen' := { seen with atLast := false }
  if b == colon then
    if seen.colons ≥ maxColons then none else some { seen' with colons := seen.colons + 1 }
  else if b == 0x5b then
    if seen.percent || seen.opened then none else some { seen' with opened := true }
  else if b == 0x5d then
    if !seen.opened || seen.closed then none
    else some { seen' with closed := true, colons := 0, percent := false }
  else if b == 0x40 then some { seen with atLast := true, colons := 0, percent := false }
  else if b == 0x25 then some { seen' with percent := true }
  else if isAlphanumeric b || isUriMark b then some seen'
  else none

/-- The authority as a whole is well formed. -/
def Authority.isComplete (seen : Authority) : Bool :=
  seen.opened == seen.closed && decide (seen.colons ≤ 1) && !seen.atLast && !seen.percent

/-- An octet that ends an authority. -/
def endsAuthority (b : UInt8) : Bool := b == slash || b == questionMark || b == numberSign

/-- Splits an authority from what follows it. -/
def splitAuthority? (text : Bytes) : Option (Bytes × Bytes) :=
  let authority := text.takeWhile (!endsAuthority ·)
  match authority.foldlM Authority.next? {} with
  | some seen =>
    if seen.isComplete then some (authority, text.dropWhile (!endsAuthority ·)) else none
  | none => none

/-! ## schemes -/

/-- An octet of a scheme: a letter, a digit or one of the marks `+-.~`. -/
def isSchemeOctet (b : UInt8) : Bool :=
  isAlphanumeric b || b == 0x2b || b == 0x2d || b == 0x2e || b == 0x7e

/-- The greatest number of octets in a scheme. -/
def maxScheme : Nat := 64

/-- What a target begins with. -/
inductive Start
  /-- A scheme, with what follows its colon and two slashes. -/
  | scheme (name rest : Bytes)
  /-- No scheme. -/
  | bare
  /-- A scheme that is too long. -/
  | overlong

/-- Looks for a scheme. The two usual ones are known in letters of either case. -/
def start (text : Bytes) : Start :=
  let name := text.takeWhile isSchemeOctet
  let behind := text.dropWhile isSchemeOctet
  if !(Bytes.ascii "://").isPrefixOf behind then .bare
  else
    let rest := behind.drop 3
    let known := name.map lower
    if known == Bytes.ascii "http" || known == Bytes.ascii "https" then .scheme known rest
    else if name.length > maxScheme then .overlong
    else .scheme name rest

/-! ## targets -/

/-- Reads a target. -/
def parse? (text : Bytes) : Option Uri :=
  if text.isEmpty || text.length > maxLength then none
  else if text == [star] then some { written := [star] }
  else if text.head? == some slash then withTarget? {} text
  else
    match start text with
    | .overlong => none
    | .bare =>
      match splitAuthority? text with
      | some (authority, []) => some { authority }
      | _ => none
    | .scheme scheme rest =>
      match splitAuthority? rest with
      | some ([], _) => none
      | some (authority, target) => withTarget? { scheme := some scheme, authority } target
      | none => none

end Uri

end Reply
