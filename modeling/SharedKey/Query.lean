/-
**The parameters of a query.**

A query is a sequence of segments between ampersands, each a name and a value around the first
equals sign.  In both, a plus sign stands for a space and escapes stand for bytes, which have to
make up UTF-8.  Empty segments say nothing.  A semicolon anywhere, or a percent sign that starts no
escape, spoils the whole query.

An escape is a percent sign and two hexadecimal digits, and stands for one byte.  Decoding writes
every other character as its UTF-8 bytes, so a percent sign that starts no escape stands for
itself; whoever refuses such text looks for the first broken escape beforehand.

Main definitions:

* `Text.hexValue?` — the value of a hexadecimal digit of either case;
* `Text.percentDecode` — the bytes that a text with escapes stands for;
* `Text.brokenEscape?` — the rest of the text from the first percent sign that starts no escape;
* `Text.takeBytesLossy` — a beginning of limited length, for showing such an escape;
* `Query.segments` — the segments that say something;
* `Query.decodeComponent`, `Query.decodeSegment` — the text of a name or value, and of a segment;
* `Query.parse` — the parameters in their order;
* `Query.valuesOf`, `Query.names` — the values of a name in their order, and the names.

Main results:

* `Text.percentDecode_cons_of_ne`, `Text.percentDecode_escape` — decoding, one character or one
  escape at a time;
* `Query.kind_of_parse` — every error of a query is of one kind.
-/

import SharedKey.Fallible
import SharedKey.Report

set_option relaxedAutoImplicit false
set_option autoImplicit false

namespace SharedKey

/-! ### Percent escapes -/

/-- The value of a hexadecimal digit of either case. -/
def Text.hexValue? (c : Char) : Option Nat :=
  if '0'.toNat ≤ c.toNat ∧ c.toNat ≤ '9'.toNat then some (c.toNat - '0'.toNat)
  else if 'a'.toNat ≤ c.toNat ∧ c.toNat ≤ 'f'.toNat then some (c.toNat - 'a'.toNat + 10)
  else if 'A'.toNat ≤ c.toNat ∧ c.toNat ≤ 'F'.toNat then some (c.toNat - 'A'.toNat + 10)
  else none

/-- The byte of the two hexadecimal digits that the text begins with. -/
def Text.escapedByte? : Text → Option UInt8
  | high :: low :: _ =>
    match Text.hexValue? high, Text.hexValue? low with
    | some x, some y => some (UInt8.ofNat (16 * x + y))
    | _, _ => none
  | _ => none

/-- The bytes that a text with escapes stands for.  `skip` counts the digits of an escape that have
been read already. -/
def Text.percentDecodeFrom : Nat → Text → Bytes
  | _, [] => []
  | skip + 1, _ :: t => Text.percentDecodeFrom skip t
  | 0, c :: t =>
    if c = '%' then
      match Text.escapedByte? t with
      | some b => b :: Text.percentDecodeFrom 2 t
      | none => String.utf8EncodeChar c ++ Text.percentDecodeFrom 0 t
    else String.utf8EncodeChar c ++ Text.percentDecodeFrom 0 t

/-- The bytes that a text with escapes stands for. -/
def Text.percentDecode (t : Text) : Bytes := Text.percentDecodeFrom 0 t

/-- The rest of the text from the first percent sign that starts no escape. -/
def Text.brokenEscape? : Text → Option Text
  | [] => none
  | c :: t =>
    if c = '%' ∧ Text.escapedByte? t = none then some (c :: t) else Text.brokenEscape? t

/-- The beginning of a text that takes at most `n` bytes.  A character that the limit cuts is shown
as one replacement character. -/
def Text.takeBytesLossy : Nat → Text → Text
  | 0, _ => []
  | _ + 1, [] => []
  | n + 1, c :: t =>
    if c.utf8Size ≤ n + 1 then c :: Text.takeBytesLossy (n + 1 - c.utf8Size) t else ['\uFFFD']


/-- A character other than the percent sign stands for its own bytes. -/
theorem Text.percentDecode_cons_of_ne {c : Char} (hc : c ≠ '%') (t : Text) :
    Text.percentDecode (c :: t) = String.utf8EncodeChar c ++ Text.percentDecode t := by
  simp [Text.percentDecode, Text.percentDecodeFrom, hc]

/-- An escape stands for its byte. -/
theorem Text.percentDecode_escape {high low : Char} {x y : Nat} (hx : Text.hexValue? high = some x)
    (hy : Text.hexValue? low = some y) (t : Text) :
    Text.percentDecode ('%' :: high :: low :: t)
      = UInt8.ofNat (16 * x + y) :: Text.percentDecode t := by
  simp [Text.percentDecode, Text.percentDecodeFrom, Text.escapedByte?, hx, hy]

/-! ### Parameters -/

namespace Query

/-- Decoded names and values in the order of the query. -/
abbrev Parameters := List (Text × Text)

/-- The number of bytes of a broken escape that an error shows. -/
def escapeWindow : Nat := 3

/-- The segments that say something. -/
def segments (query : Text) : List Text := (query.splitOn '&').filter (!·.isEmpty)

/-- The name and the value of a segment before decoding; without an equals sign the value is
empty. -/
def nameAndValue (segment : Text) : Text × Text :=
  let (name, value) := Text.cut '=' segment
  (name, value.getD [])

/-- A plus sign stands for a space. -/
def plusToSpace (t : Text) : Text := t.map fun c => if c = '+' then ' ' else c

/-- The text of a name or value. -/
def decodeComponent (component : Text) : Except Error Text :=
  let spaced := plusToSpace component
  match Text.ofUtf8? (Text.percentDecode spaced) with
  | some t => .ok t
  | none => .error (.componentNotUtf8 spaced)

/-- The parameter of a segment; the name is decoded first. -/
def decodeSegment (segment : Text) : Except Error (Text × Text) :=
  let (name, value) := nameAndValue segment
  match decodeComponent name with
  | .error e => .error e
  | .ok n =>
    match decodeComponent value with
    | .error e => .error e
    | .ok v => .ok (n, v)

/-- The parameters of a query in their order.  Semicolons are looked for first, then broken escapes,
both in the whole query; only then are the segments decoded. -/
def parse (query : Text) : Except Error Parameters :=
  if query.contains ';' then .error (.semicolonInQuery query)
  else
    match Text.brokenEscape? query with
    | some rest => .error (.brokenEscape (Text.takeBytesLossy escapeWindow rest) query)
    | none => (segments query).mapM decodeSegment

/-- The values of a name in their order. -/
def valuesOf (parameters : Parameters) (name : Text) : List Text :=
  (parameters.filter fun parameter => parameter.1 = name).map Prod.snd

/-- The names, each once. -/
def names (parameters : Parameters) : List Text := (parameters.map Prod.fst).eraseDups

/-- An error of a name or value is an error of the query. -/
theorem kind_of_decodeComponent {component : Text} {e : Error}
    (h : decodeComponent component = .error e) : e.kind = .malformedQuery := by
  simp only [decodeComponent] at h
  split at h
  · simp at h
  · obtain rfl := Except.error.inj h
    rfl

/-- An error of a segment is an error of the query. -/
theorem kind_of_decodeSegment {segment : Text} {e : Error}
    (h : decodeSegment segment = .error e) : e.kind = .malformedQuery := by
  simp only [decodeSegment] at h
  split at h
  · next e' he =>
      obtain rfl := Except.error.inj h
      exact kind_of_decodeComponent he
  · split at h
    · next e' he =>
        obtain rfl := Except.error.inj h
        exact kind_of_decodeComponent he
    · simp at h

/-- Every error of a query is of one kind. -/
theorem kind_of_parse {query : Text} {e : Error} (h : parse query = .error e) :
    e.kind = .malformedQuery := by
  rw [parse] at h
  split at h
  · obtain rfl := Except.error.inj h
    rfl
  · split at h
    · obtain rfl := Except.error.inj h
      rfl
    · obtain ⟨segment, -, hsegment⟩ := Fallible.exists_of_mapM_eq_error h
      exact kind_of_decodeSegment hsegment

end Query

end SharedKey
