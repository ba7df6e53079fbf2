/-
**Header fields, and how they are read and rendered.**

Names are compared without regard to letter case, so a name is kept in lowercase and two names are
equal exactly when their texts are.  A value is a byte sequence without controls other than the tab;
bytes beyond ASCII may be kept and passed on, but a value that holds one can not be read as text.

A name may be repeated, and then all its values are kept in order.  The views of a header map are
`HeaderMap.values` and `HeaderMap.names`: every operation is described by what it does to them, and
what the order between different names is can not be seen through either.

A field is asked for by a text, which is normalized first: blanks around it and its letter case do
not matter, and a text that is no name finds nothing.  Reading takes the first value of the name and
fails when that value is no text.  Lists of names with values are rendered in the order of the names
and, for equal names, of the values, both by their bytes, so a rendering does not depend on the
order in which they were given.

Main definitions:

* `FieldName` — a lowercase token of limited length;
* `FieldName.ofText?` — the name that a text spells in any letter case;
* the names that signing knows, such as `FieldName.contentLength` and `FieldName.date`;
* `FieldValue` — the bytes of a value, and whether they are to be kept out of logs;
* `FieldValue.ofBytes?` — the value with given bytes;
* `FieldValue.text?` — the text of a value whose bytes are printable ASCII and tabs;
* `HeaderMap` — the fields;
* `HeaderMap.values`, `HeaderMap.first?`, `HeaderMap.names` — the values of a name, the first of
  them, and the distinct names;
* `HeaderMap.append`, `HeaderMap.insert`, `HeaderMap.remove` — adding a value, replacing all values
  by one, and taking all values away;
* `FieldName.normalize` — the text of a name without surrounding blanks, in lowercase;
* `HeaderMap.lookup`, `HeaderMap.lookupOrEmpty` — the first value as text;
* `HeaderMap.withPrefix` — the names that begin with a text, with their first values;
* `HeaderBlock.pairLe` — the order of the pairs;
* `HeaderBlock.render` — the sorted pairs with a separator inside and a joint between them;
* `HeaderBlock.ofHeaders` — the block of the service's own fields that takes part in a signature.

Main results:

* `FieldName.ofText?_text` — a name is found again under its own text;
* `HeaderMap.values_append`, `HeaderMap.values_insert`, `HeaderMap.values_remove` — the operations
  through the view;
* `HeaderMap.mem_names` — a name is listed exactly when it has a value;
* `FieldName.normalize_text` — normalizing leaves the text of a name unchanged;
* `HeaderMap.lookup_text` — looking a name up by its text reads its first value.
-/

import SharedKey.Report

set_option relaxedAutoImplicit false
set_option autoImplicit false

namespace SharedKey

/-! ### Names -/

/-- The greatest number of characters in a name. -/
def FieldName.maxLength : Nat := 65535

/-- Whether a text is a name as it is kept: a lowercase token of limited length. -/
def FieldName.isName (t : Text) : Bool :=
  Text.isToken t && t.all (fun c => c.toLower = c) && t.length ≤ FieldName.maxLength

/-- The name of a header field. -/
structure FieldName where
  /-- The name in lowercase. -/
  text : Text
  /-- The text is a name. -/
  isName_text : FieldName.isName text = true
  deriving DecidableEq

namespace FieldName

@[ext] theorem ext {m n : FieldName} (h : m.text = n.text) : m = n := by
  cases m
  cases n
  simp_all

/-- The name that a text spells in any letter case. -/
def ofText? (t : Text) : Option FieldName :=
  if h : isName (Text.lowercase t) = true then some ⟨Text.lowercase t, h⟩ else none

/-- The characters of a name are token characters. -/
theorem isTokenChar_of_mem (n : FieldName) {c : Char} (h : c ∈ n.text) :
    Text.isTokenChar c = true := by
  have hname := n.isName_text
  simp only [isName, Text.isToken, Bool.and_eq_true] at hname
  exact List.all_eq_true.1 hname.1.1.2 c h

/-- A name is its own lowercase. -/
@[simp] theorem lowercase_text (n : FieldName) : Text.lowercase n.text = n.text := by
  have hname := n.isName_text
  simp only [isName, Bool.and_eq_true] at hname
  have hall : ∀ c ∈ n.text, c.toLower = c := by simpa using hname.1.2
  exact (List.map_congr_left hall).trans (List.map_id _)

/-- A name is found again under its own text. -/
@[simp] theorem ofText?_text (n : FieldName) : ofText? n.text = some n := by
  have h : isName (Text.lowercase n.text) = true := by
    rw [lowercase_text]
    exact n.isName_text
  rw [ofText?, dif_pos h]
  exact congrArg some (ext (lowercase_text n))

/-! ### The names that signing knows -/

/-- The field that carries the signature. -/
def authorization : FieldName := ⟨"authorization".toList, by decide⟩

def contentEncoding : FieldName := ⟨"content-encoding".toList, by decide⟩

def contentLanguage : FieldName := ⟨"content-language".toList, by decide⟩

def contentLength : FieldName := ⟨"content-length".toList, by decide⟩

def contentMd5 : FieldName := ⟨"content-md5".toList, by decide⟩

def contentType : FieldName := ⟨"content-type".toList, by decide⟩

def date : FieldName := ⟨"date".toList, by decide⟩

def ifModifiedSince : FieldName := ⟨"if-modified-since".toList, by decide⟩

def ifMatch : FieldName := ⟨"if-match".toList, by decide⟩

def ifNoneMatch : FieldName := ⟨"if-none-match".toList, by decide⟩

def ifUnmodifiedSince : FieldName := ⟨"if-unmodified-since".toList, by decide⟩

def range : FieldName := ⟨"range".toList, by decide⟩

/-- The date of the request in the service's own field, which replaces the common one. -/
def xMsDate : FieldName := ⟨"x-ms-date".toList, by decide⟩

/-- The beginning of the names of the service's own fields. -/
def servicePrefix : Text := "x-ms-".toList

end FieldName

/-! ### Values -/

/-- A byte that may stand in a value. -/
def FieldValue.isFieldByte (b : UInt8) : Bool :=
  b.toNat = 0x09 || (0x20 ≤ b.toNat && b.toNat ≠ 0x7F)

/-- A byte that may stand in a value which is read as text. -/
def FieldValue.isTextByte (b : UInt8) : Bool :=
  b.toNat = 0x09 || (0x20 ≤ b.toNat && b.toNat < 0x7F)

/-- The value of a header field. -/
structure FieldValue where
  /-- The bytes of the value. -/
  bytes : Bytes
  /-- Whether the value is to be kept out of logs. -/
  sensitive : Bool
  /-- Every byte may stand in a value. -/
  all_bytes : bytes.all FieldValue.isFieldByte = true
  deriving DecidableEq

namespace FieldValue

/-- The value with these bytes, which is not sensitive. -/
def ofBytes? (b : Bytes) : Option FieldValue :=
  if h : b.all isFieldByte = true then some ⟨b, false, h⟩ else none

/-- The value has the bytes that it is made of. -/
theorem bytes_of_ofBytes? {b : Bytes} {v : FieldValue} (h : ofBytes? b = some v) : v.bytes = b := by
  rw [ofBytes?] at h
  split at h
  · obtain rfl := Option.some.inj h
    rfl
  · cases h

/-- The same value, kept out of logs. -/
def markSensitive (v : FieldValue) : FieldValue := ⟨v.bytes, true, v.all_bytes⟩

@[simp] theorem bytes_markSensitive (v : FieldValue) : v.markSensitive.bytes = v.bytes := rfl

@[simp] theorem sensitive_markSensitive (v : FieldValue) : v.markSensitive.sensitive = true := rfl

/-- The text of a value whose bytes are printable ASCII and tabs. -/
def text? (v : FieldValue) : Option Text :=
  if v.bytes.all isTextByte then some (v.bytes.map fun b => Char.ofNat b.toNat) else none

end FieldValue

/-! ### Header fields -/

/-- Header fields in the order in which they arrived. -/
structure HeaderMap where
  /-- Names with their values; a name may occur several times. -/
  fields : List (FieldName × FieldValue)
  deriving DecidableEq

namespace HeaderMap

/-- No fields at all. -/
def empty : HeaderMap := ⟨[]⟩

/-- The values of a name in the order in which they arrived. -/
def values (headers : HeaderMap) (name : FieldName) : List FieldValue :=
  (headers.fields.filter fun field => field.1 = name).map Prod.snd

/-- The value that reading a field takes. -/
def first? (headers : HeaderMap) (name : FieldName) : Option FieldValue :=
  (headers.values name).head?

/-- The names that have a value, each once. -/
def names (headers : HeaderMap) : List FieldName := (headers.fields.map Prod.fst).eraseDups

/-- One more value for a name, after those that it has. -/
def append (headers : HeaderMap) (name : FieldName) (value : FieldValue) : HeaderMap :=
  ⟨headers.fields ++ [(name, value)]⟩

/-- No values for a name. -/
def remove (headers : HeaderMap) (name : FieldName) : HeaderMap :=
  ⟨headers.fields.filter fun field => field.1 ≠ name⟩

/-- This one value for a name, in place of those that it has. -/
def insert (headers : HeaderMap) (name : FieldName) (value : FieldValue) : HeaderMap :=
  (headers.remove name).append name value


@[simp] theorem values_append (headers : HeaderMap) (m n : FieldName) (value : FieldValue) :
    (headers.append m value).values n
      = headers.values n ++ if m = n then [value] else [] := by
  by_cases h : m = n <;> simp [append, values, List.filter_append, h]

@[simp] theorem values_remove (headers : HeaderMap) (m n : FieldName) :
    (headers.remove m).values n = if m = n then [] else headers.values n := by
  by_cases h : m = n
  · subst h
    simp [remove, values, List.filter_filter]
  · have hboth : ∀ field : FieldName × FieldValue,
        (decide (field.1 = n) && decide (field.1 ≠ m)) = decide (field.1 = n) := by
      intro field
      by_cases hn : field.1 = n
      · simp [hn, Ne.symm h]
      · simp [hn]
    simp [remove, values, List.filter_filter, h]
    simpa using congrArg (fun p => (headers.fields.filter p).map Prod.snd) (funext hboth)

@[simp] theorem values_insert (headers : HeaderMap) (m n : FieldName) (value : FieldValue) :
    (headers.insert m value).values n = if m = n then [value] else headers.values n := by
  by_cases h : m = n <;> simp [insert, h]

/-- A name is listed exactly when it has a value. -/
theorem mem_names {headers : HeaderMap} {name : FieldName} :
    name ∈ headers.names ↔ headers.values name ≠ [] := by
  simp [names, values, List.mem_eraseDups, List.filter_eq_nil_iff]

end HeaderMap

/-! ### Reading by name, as text -/

/-- The text of a name without surrounding blanks, in lowercase. -/
def FieldName.normalize (name : Text) : Text := Text.lowercase (Text.trim name)

/-- The text of a value, or the error of a value that has none. -/
def FieldValue.read (v : FieldValue) : Except Error Text :=
  match v.text? with
  | some t => .ok t
  | none => .error .opaqueFieldValue

namespace HeaderMap

/-- The first value of the name that a text asks for, as text. -/
def lookup (headers : HeaderMap) (key : Text) : Except Error (Option Text) :=
  match (FieldName.ofText? (FieldName.normalize key)).bind headers.first? with
  | some v => v.read.map some
  | none => .ok none

/-- The first value of the name that a text asks for, and the empty text when there is none. -/
def lookupOrEmpty (headers : HeaderMap) (key : Text) : Except Error Text :=
  (headers.lookup key).map (·.getD [])

/-- The names that begin with `start`, each once, with their first values. -/
def withPrefix (headers : HeaderMap) (start : Text) : Except Error (List (Text × Text)) :=
  ((headers.names.map fun name => FieldName.normalize name.text).filter start.isPrefixOf).mapM
    fun name => (headers.lookupOrEmpty name).map fun value => (name, value)

end HeaderMap

/-- Normalizing leaves the text of a name unchanged. -/
@[simp] theorem FieldName.normalize_text (name : FieldName) :
    FieldName.normalize name.text = name.text := by
  rw [FieldName.normalize, Text.trim_eq_self, FieldName.lowercase_text]
  intro c hc
  exact Text.isBlank_of_isTokenChar (name.isTokenChar_of_mem hc)

/-- Looking a name up by its text reads its first value. -/
theorem HeaderMap.lookup_text (headers : HeaderMap) (name : FieldName) :
    headers.lookup name.text
      = match headers.first? name with
        | some v => v.read.map some
        | none => .ok none := by
  simp [HeaderMap.lookup]

/-! ### Rendered lists of fields -/

namespace HeaderBlock

/-- The order of pairs: by name, and by value where the names are equal. -/
def pairLe (p q : Text × Text) : Bool :=
  if p.1 = q.1 then Text.le p.2 q.2 else Text.le p.1 q.1

/-- The pairs in order, `sep` between name and value, `joint` between neighbours. -/
def render (sep joint : Text) (pairs : List (Text × Text)) : Text :=
  Text.join joint ((pairs.mergeSort pairLe).map fun (name, value) => name ++ sep ++ value)

/-- The service's own fields, one `name:value` a line, in the order of their names. -/
def ofHeaders (headers : HeaderMap) : Except Error Text :=
  (headers.withPrefix FieldName.servicePrefix).map (render [':'] ['\n'])

end HeaderBlock

end SharedKey
